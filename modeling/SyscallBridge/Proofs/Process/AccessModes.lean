import SyscallBridge.Proofs.File.Access
import SyscallBridge.Proofs.Process.Descriptors
import SyscallBridge.Proofs.Process.StatAndOpen

/-!
# Access modes

What a descriptor may do to its temp file is settled by the flags of the open that it comes from,
for the copies of the descriptor too and whatever else goes on. Without the flag for writing
neither the open nor any call on the descriptor or a copy changes a byte of any temp file, and
without the flag for reading no call on them reads one.
-/

namespace SyscallBridge

namespace Syscall

/-- The descriptors that a call is made on. -/
def descriptors : Syscall → List Nat
  | close fd | onFile fd _ | fsync fd | dup fd | onSocket fd _ => [fd]
  | dup2 fd target => [fd, target]
  | _ => []

/-- The descriptor that a call makes a copy of. -/
def copied? : Syscall → Option Nat
  | dup fd | dup2 fd _ => some fd
  | _ => none

end Syscall

theorem Progress.eq_of_number? {π : Type} {r : Progress Reply π} {n : Nat}
    (h : r.number? = some n) : r = .done (.ok (.number n)) := by
  unfold number? at h
  split at h
  · cases h
    rfl
  · cases h

namespace Process

variable {p p' : Process} {fd file : Nat} {h : TempHandle}

/-- A call on a descriptor of the file. -/
def CallsOn (p : Process) (file : Nat) (e : ProcessEvent) : Prop :=
  ∃ c, e = .call c ∧ ∃ fd ∈ c.descriptors, p.table.lookup fd = .ok file

/-- Nothing happens but calls on descriptors of the file. -/
def OnlyOn (p : Process) (file : Nat) : List ProcessEvent → Prop
  | [] => True
  | e :: events => p.CallsOn file e ∧ (p.next e).OnlyOn file events

/-! ### Opening -/

/-- A temp file is opened with the access that the flags ask for. -/
theorem access_open {path : String} {flags : OpenFlags}
    (hdone : (p.start (.open_ path flags)).progress = .done (.ok (.number fd)))
    (hfile : (p.next (.call (.open_ path flags))).table.lookup fd = .ok file)
    (hh : (p.next (.call (.open_ path flags))).store.file file = .temp h) :
    (OpenFile.temp h).access? = some (flags.read, flags.write) := by
  change (p.startOpen path flags).progress = _ at hdone
  change (p.startOpen path flags).state.table.lookup fd = _ at hfile
  change (p.startOpen path flags).state.store.file file = _ at hh
  cases hopen : p.tree.open_ p.store path flags p.tmpDir with
  | error e =>
    rw [startOpen, hopen] at hdone
    cases hdone
  | ok found =>
    obtain ⟨opened, tree, store⟩ := found
    rw [startOpen, hopen] at hdone hfile hh
    cases hdone
    have hnew : file = store.nextFile :=
      Except.ok.inj (hfile.symm.trans (DescriptorTable.lookup_allocate p.table store.nextFile))
    have hopened : opened = .temp h := by
      rw [← hh, hnew]
      exact ((FileStore.file_add store opened _).trans (if_pos rfl)).symm
    subst hopened
    cases (opensFile hopen).openable
    rfl

/-! ### Access is kept -/

theorem accessKept_parts (hp : Parts p p') : p.store.AccessKept p'.store := by
  induction hp with
  | refl => exact .refl _
  | @tail p' p'' _ part ih =>
    refine ih.trans ?_
    cases part with
    | opens s => exact .add _ _
    | turns file s hsocket =>
      -- there was a socket in the file before, so no handle gives way to this one
      refine .touches (.set _) ?_
      rw [OpenFile.access?_of_socket? hsocket]
      exact FileStore.access?_set _ _ _
    | @drops table shut _ _ =>
      cases shut with
      | none => exact .refl _
      | some id => exact FileStore.accessKept_start p'.store id .close

theorem accessKept_startOpen (p : Process) (path : String) (flags : OpenFlags) :
    p.store.AccessKept (p.startOpen path flags).state.store := by
  unfold startOpen
  split
  · exact .refl _
  · next opened tree store hopen =>
    have hopens := opensFile hopen
    exact (FileStore.AccessKept.of_files hopens.files hopens.nextFile).trans (.add store opened)

theorem accessKept_next (p : Process) (e : ProcessEvent) :
    p.store.AccessKept (p.next e).store := by
  cases e with
  | answer q a => exact accessKept_parts (parts_resume p q a)
  | call c =>
    change p.store.AccessKept (p.start c).state.store
    cases c with
    | open_ path flags => exact accessKept_startOpen p path flags
    | onFile fd call =>
      simp only [start, startOnFile]
      split
      · exact .refl _
      · exact FileStore.accessKept_start p.store _ call
    | mkdir | rmdir | unlink =>
      simp only [start, onTree]
      split <;> exact .refl _
    | setenv key value =>
      simp only [start, startSetenv]
      split <;> exact .refl _
    | symlink | unsetenv => exact .refl _
    | close | dup | dup2 | socket | onSocket | resolve | dial | fsync | stat | readlink | getenv
    | environ | getpid | missing => exact accessKept_parts (parts_start p rfl)

theorem accessKept_run (p : Process) (events : List ProcessEvent) :
    p.store.AccessKept (p.run events).store := by
  induction events generalizing p with
  | nil => exact .refl _
  | cons e events ih => exact (accessKept_next p e).trans (ih (p.next e))

/-! ### Calls on descriptors of a file -/

/-- A copy of a descriptor has the file of the descriptor. -/
theorem lookup_copy (hp : Registered p) {c : Syscall} (hc : c.copied? = some fd)
    (hfile : p.table.lookup fd = .ok file) {copy : Nat}
    (hdone : (p.start c).progress = .done (.ok (.number copy))) :
    (p.next (.call c)).table.lookup copy = .ok file := by
  change (p.start c).state.table.lookup copy = _
  cases c with
  | dup source =>
    cases hc
    simp only [start] at hdone ⊢
    split at hdone
    · next hok =>
      cases hdone
      exact (hp.accounted.lookup_dup hok hfile _).trans (if_pos rfl)
    · cases hdone
  | dup2 source target =>
    cases hc
    simp only [start, startDup2] at hdone ⊢
    split at hdone
    · cases hdone
    · next shut table hok =>
      cases hdone
      have htable : (Process.closeFile { p with table } shut).1.table = table := by
        cases shut <;> rfl
      rw [htable]
      exact (hp.accounted.lookup_dup2 hok hfile _).trans (if_pos rfl)
  | open_ | close | onFile | fsync | stat | mkdir | rmdir | symlink | unlink | readlink | getenv
  | setenv | unsetenv | environ | getpid | socket | onSocket | resolve | dial | missing => cases hc

theorem handle_of_access {f : OpenFile} {r w : Bool} (h : f.access? = some (r, w)) :
    ∃ x : TempHandle, f = .temp x ∧ x.readable = r ∧ x.writable = w := by
  cases f with
  | temp x =>
    cases h
    exact ⟨x, rfl, rfl, rfl⟩
  | console | random | fixed | socket | unsupported => cases h

/-- A call on a file that may not be written is no change to a temp file. -/
theorem tempEvent?_of_readOnly (hp : p.tree.Indexed p.store) {r : Bool}
    (haccess : (p.store.file file).access? = some (r, false)) {e : ProcessEvent}
    (he : p.CallsOn file e) : p.tempEvent? e = none := by
  obtain ⟨c, rfl, fd, hfd, hfile⟩ := he
  obtain ⟨h, hh, -, hwrite⟩ := handle_of_access haccess
  cases c with
  | onFile fd' call =>
    cases List.mem_singleton.1 hfd
    obtain ⟨content, hc⟩ := hp.handles file h hh
    have hbytes := FileSystem.tempBytes_of_content hp hc
    have htemp := temp?_of_handle hfile hh hc
    change p.fileEvent? fd call = none
    simp only [fileEvent?, htemp]
    -- a write that succeeded would have needed the access
    split
    · next hdone =>
      rw [startOnFile_temp hfile hh, Turn.map, succeeded_map] at hdone
      rw [tempBytes, hbytes, FileStore.written?_of_readOnly hwrite call hdone, Option.map_none]
    · rfl
  | open_ | mkdir | rmdir | symlink | unlink | stat | readlink | getenv | setenv | unsetenv
  | environ | getpid | socket | resolve | dial | missing => cases hfd
  | close | fsync | dup | dup2 | onSocket => rfl

/-- What a call on a file that may not be written leaves at every path. -/
theorem tempBytes_of_readOnly (hp : p.tree.Indexed p.store) {r : Bool}
    (haccess : (p.store.file file).access? = some (r, false)) {e : ProcessEvent}
    (he : p.CallsOn file e) (path : String) : (p.next e).tempBytes path = p.tempBytes path := by
  have hbytes := (follow_next hp e).bytes path
  rwa [tempEvent?_of_readOnly hp haccess he] at hbytes

theorem tempBytes_open_of_readOnly (hp : p.tree.Indexed p.store) {flags : OpenFlags}
    (hwrite : flags.write = false) (given path : String) :
    (p.next (.call (.open_ given flags))).tempBytes path = p.tempBytes path := by
  have hevent : p.tempEvent? (.call (.open_ given flags)) = none := by
    refine Option.eq_none_iff_forall_not_mem.2 fun ev hev => ?_
    obtain ⟨-, -, -, hopens, -⟩ := openEvent?_eq_some hev
    rw [hwrite] at hopens
    cases hopens
  have hbytes := (follow_next hp (.call (.open_ given flags))).bytes path
  rwa [hevent] at hbytes

/-- Through any number of calls on a file that may not be written. -/
theorem tempBytes_onlyOn (hp : p.tree.Indexed p.store) {r : Bool} (hold : file < p.store.nextFile)
    (haccess : (p.store.file file).access? = some (r, false)) {events : List ProcessEvent}
    (honly : p.OnlyOn file events) (path : String) :
    (p.run events).tempBytes path = p.tempBytes path := by
  induction events generalizing p with
  | nil => rfl
  | cons e events ih =>
    have hkept := accessKept_next p e
    have hrest := ih (follow_next hp e).indexed (Nat.lt_of_lt_of_le hold hkept.nextFile)
      ((hkept.access file hold).trans haccess) honly.2
    exact hrest.trans (tempBytes_of_readOnly hp haccess honly.1 path)

/-- Nothing is read from a file that may not be read. -/
theorem start_of_unreadable {w : Bool} (haccess : (p.store.file file).access? = some (false, w))
    (hfile : p.table.lookup fd = .ok file) {c : FileCall} (hc : c.reads = true) :
    ∃ e, (p.start (.onFile fd c)).progress = .done (.error e) := by
  obtain ⟨h, hh, hread, -⟩ := handle_of_access haccess
  obtain ⟨e, he⟩ := p.store.startTemp_unreadable file hread hc
  refine ⟨e, ?_⟩
  change (p.startOnFile fd c).progress = _
  rw [startOnFile_temp hfile hh, Turn.map, he]
  rfl

/-- Opening without the flag for writing changes no temp file, whether it succeeds or not. If it
opens a temp file, then at any time after it, whatever has happened in between: copies of its
descriptor have its file; without the flag for writing no call on a descriptor of that file changes
a temp file, nor do all such calls together with the open; and without the flag for reading every
read through one is an error. -/
theorem access_mode_holds (s : Settings) (before : List ProcessEvent) (path : String)
    (flags : OpenFlags) :
    let p := (create s).run before
    let opened := p.next (.call (.open_ path flags))
    (flags.write = false → ∀ other, opened.tempBytes other = p.tempBytes other) ∧
    ∀ fd file h, (p.start (.open_ path flags)).progress = .done (.ok (.number fd)) →
      opened.table.lookup fd = .ok file → opened.store.file file = .temp h →
      ∀ events, let q := opened.run events
        (∀ c d copy, c.copied? = some d → q.table.lookup d = .ok file →
          (q.start c).progress = .done (.ok (.number copy)) →
          (q.next (.call c)).table.lookup copy = .ok file) ∧
        (flags.write = false →
          (∀ e, q.CallsOn file e → ∀ other, (q.next e).tempBytes other = q.tempBytes other) ∧
          (opened.OnlyOn file events → ∀ other, q.tempBytes other = p.tempBytes other)) ∧
        (flags.read = false → ∀ d c, q.table.lookup d = .ok file → c.reads →
          ∃ e, (q.start (.onFile d c)).progress = .done (.error e)) := by
  intro p opened
  have hp : p.tree.Indexed p.store := indexed_run s before
  have hopened : opened.tree.Indexed opened.store := (follow_next hp _).indexed
  refine ⟨fun hwrite => tempBytes_open_of_readOnly hp hwrite path, ?_⟩
  intro fd file h hdone hfile hh events q
  have hregistered : Registered opened := ((registered_create s).run before).next _
  have hold : file < opened.store.nextFile := hregistered.lt_of_lookup hfile
  have hfirst : (opened.store.file file).access? = some (flags.read, flags.write) := by
    rw [hh]
    exact access_open hdone hfile hh
  have haccess : (q.store.file file).access? = some (flags.read, flags.write) :=
    ((accessKept_run opened events).access file hold).trans hfirst
  have hq : q.tree.Indexed q.store := by
    have hall := indexed_run s (before ++ .call (.open_ path flags) :: events)
    rwa [run, List.foldl_append] at hall
  refine ⟨?_, fun hwrite => ⟨?_, ?_⟩, fun hread d c hd hc => ?_⟩
  · intro c d copy hc hd hcopy
    exact lookup_copy (hregistered.run events) hc hd hcopy
  · intro e he
    exact tempBytes_of_readOnly hq (hwrite ▸ haccess) he
  · intro honly other
    exact (tempBytes_onlyOn hopened hold (hwrite ▸ hfirst) honly other).trans
      (tempBytes_open_of_readOnly hp hwrite path other)
  · exact start_of_unreadable (hread ▸ haccess) hd hc

/-- A descriptor that is for neither reading nor writing, and its copy. -/
theorem access_mode_holds_for_neither :
    let before : List ProcessEvent := [.call (.open_ "/tmp/a" .writeOnly),
      .call (.onFile 3 (.write [1, 2] ""))]
    let flags : OpenFlags := { truncate := true, append := true }
    let opened := ((create {}).run before).next (.call (.open_ "/tmp/a" flags))
    let q := opened.run [.call (.dup 4), .call (.onFile 5 (.write [3] ""))]
    q.table.lookup 5 = .ok 4 ∧ q.tempBytes "/tmp/a" = [1, 2] ∧
      ∃ e, (q.start (.onFile 5 (.read 1))).progress = .done (.error e) := by
  intro before flags opened q
  have hfile : q.table.lookup 5 = .ok 4 := by decide +kernel
  have hbytes : ((create {}).run before).tempBytes "/tmp/a" = [1, 2] := by decide +kernel
  have hdone : (((create {}).run before).start (.open_ "/tmp/a" flags)).progress.number? = some 4 :=
    by decide +kernel
  have hown : opened.table.lookup 4 = .ok 4 := by decide +kernel
  have haccess : (opened.store.file 4).access? = some (false, false) := by decide +kernel
  obtain ⟨h, hh, -⟩ := handle_of_access haccess
  obtain ⟨-, hkept, hunread⟩ := (access_mode_holds {} before "/tmp/a" flags).2 4 4 h
    (Progress.eq_of_number? hdone) hown hh [.call (.dup 4), .call (.onFile 5 (.write [3] ""))]
  have hcopy : (opened.next (.call (.dup 4))).table.lookup 5 = .ok 4 := by decide +kernel
  have honly : opened.OnlyOn 4 [.call (.dup 4), .call (.onFile 5 (.write [3] ""))] :=
    ⟨⟨_, rfl, 4, List.mem_singleton_self 4, hown⟩, ⟨_, rfl, 5, List.mem_singleton_self 5, hcopy⟩,
      trivial⟩
  exact ⟨hfile, ((hkept rfl).2 honly "/tmp/a").trans hbytes, hunread rfl 5 (.read 1) hfile rfl⟩

end Process

end SyscallBridge
