import SyscallBridge.Proofs.File.Access
import SyscallBridge.Proofs.Process.Descriptors
import SyscallBridge.Proofs.Process.TempFiles

/-!
# Handles of descriptors

Which temp handle every descriptor is on, and how a turn changes that: opening a temp file puts a
new one on a descriptor, a copy shares the one it is made of, a call moves its own, and nothing
else is seen at any descriptor. A file that is closed has no descriptor left to show it.
-/

namespace SyscallBridge

/-- The number and the handle of a file that was looked up, where it is a temp file. -/
def FileStore.tempOf (fs : FileStore) : Except CallError Nat → Option (Nat × TempHandle)
  | .error _ => none
  | .ok file =>
    match fs.file file with
    | .temp h => some (file, h)
    | _ => none

namespace Process

def tempAt? (p : Process) (fd : Nat) : Option (Nat × TempHandle) :=
  p.store.tempOf (p.table.lookup fd)

variable {p p' : Process} {fd file : Nat} {h : TempHandle}

theorem tempOf_of_temp {fs : FileStore} (hf : fs.file file = .temp h) :
    fs.tempOf (.ok file) = some (file, h) := by
  rw [FileStore.tempOf, hf]

theorem tempOf_of_other {fs : FileStore} (hf : ∀ h, fs.file file ≠ .temp h) :
    fs.tempOf (.ok file) = none := by
  rw [FileStore.tempOf]
  split
  · next h hf' => exact absurd hf' (hf h)
  · rfl

theorem tempOf_congr {fs fs' : FileStore} (hf : fs'.file file = fs.file file) :
    fs'.tempOf (.ok file) = fs.tempOf (.ok file) := by
  rw [FileStore.tempOf, hf, FileStore.tempOf]

theorem tempOf_eq_none_iff {fs : FileStore} :
    fs.tempOf (.ok file) = none ↔ (fs.file file).access? = none := by
  rw [FileStore.tempOf]
  cases fs.file file <;> simp [OpenFile.access?]

theorem tempAt?_eq_some_iff :
    p.tempAt? fd = some (file, h) ↔ p.table.lookup fd = .ok file ∧ p.store.file file = .temp h := by
  rw [tempAt?]
  cases p.table.lookup fd with
  | error e => simp [FileStore.tempOf]
  | ok found =>
    constructor
    · intro hsome
      simp only [FileStore.tempOf] at hsome
      split at hsome
      · next hh =>
        cases hsome
        exact ⟨rfl, hh⟩
      · cases hsome
    · rintro ⟨heq, hh⟩
      cases heq
      exact tempOf_of_temp hh

/-- A turn after which the descriptors have the handles they had. -/
structure HandlesKept (p p' : Process) : Prop where
  tempAt : ∀ fd, p'.tempAt? fd = p.tempAt? fd
  temps : p'.tree.temps = p.tree.temps

namespace HandlesKept

theorem refl (p : Process) : HandlesKept p p := ⟨fun _ => rfl, rfl⟩

theorem trans {p'' : Process} (h : HandlesKept p p') (h' : HandlesKept p' p'') :
    HandlesKept p p'' where
  tempAt fd := (h'.tempAt fd).trans (h.tempAt fd)
  temps := h'.temps.trans h.temps

end HandlesKept

/-- A new file is at its own descriptor, and the others have what they had. -/
theorem tempAt?_allocate (hp : Registered p) (f : OpenFile) (d : Nat) :
    (p.allocate f).2.tempAt? d =
      if d = (p.allocate f).1 then (p.store.add f).2.tempOf (.ok p.store.nextFile)
      else p.tempAt? d := by
  have hlookup : (p.allocate f).2.table.lookup d =
      if d = (p.allocate f).1 then .ok p.store.nextFile else p.table.lookup d :=
    hp.accounted.lookup_allocate p.store.nextFile d
  rw [tempAt?, hlookup]
  split
  · rfl
  · rw [tempAt?]
    cases hd : p.table.lookup d with
    | error e => rfl
    | ok file =>
      have hold : file ≠ p.store.nextFile := Nat.ne_of_lt (hp.lt_of_lookup hd)
      exact tempOf_congr ((FileStore.file_add p.store f file).trans (if_neg hold))

theorem handlesKept_allocate (hp : Registered p) {f : OpenFile} (hf : ∀ h, f ≠ .temp h) :
    HandlesKept p (p.allocate f).2 where
  temps := rfl
  tempAt d := by
    rw [tempAt?_allocate hp]
    split
    · next hd =>
      have hfree : p.table.lookup d = .error (.badDescriptor d) :=
        hd ▸ DescriptorTable.lookup_fst_allocate p.table p.store.nextFile
      have hnew : ∀ h, (p.store.add f).2.file p.store.nextFile ≠ .temp h := fun h hh =>
        hf h (((FileStore.file_add p.store f _).trans (if_pos rfl)).symm.trans hh)
      rw [tempOf_of_other hnew, tempAt?, hfree]
      rfl
    · rfl

/-- The file that a table has let go of is not in the table any more. -/
theorem lookup_ne_shut {t t' : DescriptorTable Nat} (hown : t.Distinct) {shut : Nat}
    (hdrops : DescriptorTable.Drops t t' (some shut)) (d : Nat) :
    t'.lookup d ≠ .ok shut := by
  intro hd
  obtain ⟨r, hr, hfile⟩ := DescriptorTable.lookup_eq_ok_iff.1 hd
  cases hdrops with
  | record gone g held kept =>
    rw [kept] at hfile
    split at hfile
    · cases hfile
    · next hne => exact hne (hown r gone shut hfile held)

/-- Closing the file that a table has let go of is seen at no descriptor. -/
theorem tempAt?_closeFile (hp : Registered p) {table : DescriptorTable Nat} {shut : Option Nat}
    (hdrops : DescriptorTable.Drops p.table table shut) (d : Nat) :
    (Process.closeFile { p with table } shut).1.tempAt? d = p.store.tempOf (table.lookup d) := by
  cases shut with
  | none => rfl
  | some id =>
    change (p.store.close id).1.tempOf (table.lookup d) = _
    cases hd : table.lookup d with
    | error e => rfl
    | ok file =>
      have hne : file ≠ id := by
        rintro rfl
        exact lookup_ne_shut hp.distinct hdrops d hd
      exact tempOf_congr ((FileStore.file_close p.store id file).trans (if_neg hne))

theorem tempAt?_release (hp : Registered p) {shut : Option Nat} {table : DescriptorTable Nat}
    (hok : p.table.release fd = .ok (shut, table)) (d : Nat) :
    (Process.closeFile { p with table } shut).1.tempAt? d =
      if d = fd then none else p.tempAt? d := by
  rw [tempAt?_closeFile hp (DescriptorTable.release_drops hok), hp.accounted.lookup_release hok]
  split <;> rfl

/-- The cleanup of a dial empties its descriptor. -/
theorem tempAt?_finish_dialed (hp : Registered p) (fd : Nat) (e : CallError) (d : Nat) :
    (p.finish (.dialed fd) (.error e)).1.tempAt? d = if d = fd then none else p.tempAt? d := by
  simp only [finish, release]
  cases hr : p.table.release fd with
  | ok released => exact tempAt?_release hp hr d
  | error e' =>
    have hempty := DescriptorTable.lookup_of_release_error hr
    change p.tempAt? d = _
    split
    · next hd =>
      rw [hd, tempAt?, hempty]
      rfl
    · rfl

/-- A copy has the handle of its descriptor. -/
theorem tempAt?_dup2 (hp : Registered p) {target : Nat} {shut : Option Nat}
    {table : DescriptorTable Nat} (hok : p.table.dup2 fd target = .ok (shut, table)) (d : Nat) :
    (Process.closeFile { p with table } shut).1.tempAt? d =
      if d = target then p.tempAt? fd else p.tempAt? d := by
  obtain ⟨-, r, hr, -⟩ := DescriptorTable.dup2_eq_ok hok
  obtain ⟨file, hfile⟩ := hp.accounted.exists_lookup_of_slot hr
  rw [tempAt?_closeFile hp (DescriptorTable.dup2_drops hok), hp.accounted.lookup_dup2 hok hfile]
  split
  · rw [tempAt?, hfile]
  · rfl

theorem tempAt?_dup (hp : Registered p) {copy : Nat} {table : DescriptorTable Nat}
    (hok : p.table.dup fd = .ok (copy, table)) (d : Nat) :
    tempAt? { p with table } d = if d = copy then p.tempAt? fd else p.tempAt? d := by
  obtain ⟨r, hr, -⟩ := DescriptorTable.dup_eq_ok hok
  obtain ⟨file, hfile⟩ := hp.accounted.exists_lookup_of_slot hr
  rw [tempAt?, hp.accounted.lookup_dup hok hfile]
  split
  · rw [tempAt?, hfile]
  · rfl

/-! ### Turns that are nothing to temp files -/

namespace HandlesKept

theorem set_socket (s : Socket) (hsocket : (p.store.file file).socket?.isSome) :
    HandlesKept p (p.ofStore (p.store.set file (.socket s))) where
  temps := rfl
  tempAt d := by
    change (p.store.set file (.socket s)).tempOf (p.table.lookup d) = _
    rw [tempAt?]
    cases p.table.lookup d with
    | error e => rfl
    | ok found =>
      by_cases hfound : found = file
      · subst hfound
        have hnew : ∀ h, (p.store.set found (.socket s)).file found ≠ .temp h := fun h hh =>
          nomatch ((FileStore.file_set p.store found _ found).trans (if_pos rfl)).symm.trans hh
        have hold : ∀ h, p.store.file found ≠ .temp h := fun h hh => by
          rw [hh] at hsocket
          cases hsocket
        rw [tempOf_of_other hnew, tempOf_of_other hold]
      · exact tempOf_congr ((FileStore.file_set p.store file _ found).trans (if_neg hfound))

theorem finish (h : HandlesKept p p') (hp : Registered p') {next : Afterwards}
    {result : Except CallError SocketReply}
    (hnext : ∀ d e, next = .dialed d → result = .error e → p.tempAt? d = none) :
    HandlesKept p (p'.finish next result).1 := by
  unfold Process.finish
  split
  · exact h
  · exact h
  · exact h.trans (handlesKept_allocate hp nofun)
  · exact h
  · exact h
  · exact h
  · next d e =>
    refine ⟨fun d' => (tempAt?_finish_dialed hp d e d').trans ?_,
      (TempsKept.parts (parts_finish p' (.dialed d) (.error e))).temps.trans h.temps⟩
    split
    · next hd => rw [hd, hnext d e rfl rfl]
    · exact h.tempAt d'

theorem socketTurn {next : Afterwards} {t : Turn FileStore SocketReply SocketPending}
    (h : HandlesKept p (p'.ofStore t.state)) (hp : Registered (p'.ofStore t.state))
    (hnext : ∀ d e, next = .dialed d → t.progress = .done (.error e) → p.tempAt? d = none) :
    HandlesKept p (p'.socketTurn file next t).state := by
  unfold Process.socketTurn
  cases ht : t.progress with
  | pending q => exact h
  | done result => exact h.finish hp fun d e hd he => hnext d e hd (he ▸ ht)

theorem startOnSocket (h : HandlesKept p p') (hp : Registered p') (fd : Nat) {next : Afterwards}
    (hnext : ∀ d, next = .dialed d → p.tempAt? d = none) (c : SocketCall) :
    HandlesKept p (p'.startOnSocket fd next c).state := by
  unfold Process.startOnSocket
  split
  · exact h
  · split
    · exact h
    · next hs =>
      exact socketTurn (h.trans (set_socket _ (hs ▸ rfl))) (hp.ofStore (.set _))
        fun d e hd _ => hnext d hd

theorem located (hp : Registered p) (network : Network) (dials : Bool) (a : SockAddr) :
    HandlesKept p (p.located network dials a).state := by
  unfold Process.located
  split
  · unfold dialAddress
    split
    · exact refl p
    · next s _ =>
      have hallocated : HandlesKept p (p.allocate (.socket s)).2 := handlesKept_allocate hp nofun
      refine hallocated.startOnSocket (hp.allocate _) _ (fun d hd => ?_) _
      cases hd
      have hfree : p.table.lookup (p.allocate (.socket s)).1 = .error _ :=
        DescriptorTable.lookup_fst_allocate p.table p.store.nextFile
      exact congrArg p.store.tempOf hfree
  · exact refl p

theorem startLocate (hp : Registered p) (network address : String) (dials : Bool) :
    HandlesKept p (p.startLocate network address dials).state := by
  unfold Process.startLocate
  split
  · exact refl p
  · unfold locate
    split
    · exact refl p
    · split
      · exact located hp _ dials _
      · exact refl p
    · exact located hp _ dials _
    · exact refl p

theorem onTree {r : Except CallError FileSystem} (h : ∀ t, r = .ok t → t.temps = p.tree.temps) :
    HandlesKept p (p.onTree r).state := ⟨fun _ => by cases r <;> rfl, (TempsKept.onTree h).temps⟩

/-- An open that makes no handle of a temp file. -/
theorem startOpen (hp : Registered p) {path : String} {flags : OpenFlags}
    (h : ∀ f t store, p.tree.open_ p.store path flags p.tmpDir = .ok (f, t, store) →
      (∀ x, f ≠ .temp x) ∧ store = p.store ∧ t.temps = p.tree.temps) :
    HandlesKept p (p.startOpen path flags).state := by
  unfold Process.startOpen
  split
  · exact refl p
  · next f t store hopen =>
    obtain ⟨hf, rfl, htemps⟩ := h f t store hopen
    have hsame : HandlesKept p { p with tree := t } := ⟨fun _ => rfl, htemps⟩
    have hmade : Registered { p with tree := t } := hp.of_eq rfl rfl
    exact hsame.trans (handlesKept_allocate hmade hf)

end HandlesKept

/-- How a dial ends is how its socket part ends. -/
theorem progress_dialed (p : Process) (file fd : Nat)
    (t : Turn FileStore SocketReply SocketPending) :
    (p.socketTurn file (.dialed fd) t).progress = match t.progress with
      | .pending q => .pending (.onSocket file q (.dialed fd))
      | .done (.ok _) => .done (.ok (.number fd))
      | .done (.error e) => .done (.error e) := by
  unfold socketTurn
  cases t.progress with
  | pending q => rfl
  | done result =>
    cases result with
    | ok r => rfl
    | error e =>
      simp only [finish]
      split <;> rfl

theorem handlesKept_resumeSocket (p : Process) (file : Nat) (q : SocketPending)
    (a : Except HostFailure q.request.Answer) :
    HandlesKept p (p.ofStore (p.store.resumeSocket file q a).state) := by
  unfold FileStore.resumeSocket
  split
  · next hs => exact .set_socket _ (hs ▸ rfl)
  · exact .refl p

/-- Opening a temp file puts a new handle on its content at a descriptor. -/
theorem tempAt?_open (hregistered : Registered p) (hp : p.tree.Indexed p.store)
    {path target : String} (flags : OpenFlags) (hr : p.tree.links.resolve path = .ok target)
    (hu : Path.isUnder target p.tmpDir = true) (hd : target ∉ p.tree.directories) :
    ∃ fd content, (p.startOpen path flags).progress = .done (.ok (.number fd)) ∧
      (p.startOpen path flags).state.tree.temps.find? target = some content ∧
      (∀ other c, p.tree.temps.find? other = some c →
        (p.startOpen path flags).state.tree.temps.find? other = some c) ∧
      ∀ d, (p.startOpen path flags).state.tempAt? d =
        if d = fd then some (p.store.nextFile, .open_ content flags) else p.tempAt? d := by
  obtain ⟨content, t, store, hopen, hcontent, htemps, -, -, hstart⟩ :=
    startOpen_temp hp flags hr hu hd
  have hopens := opensFile hopen
  have hfiles : store.tempOf = p.store.tempOf := by
    funext found
    cases found with
    | error e => rfl
    | ok file => exact tempOf_congr (by rw [FileStore.file, hopens.files, FileStore.file])
  have hmade : Registered { p with tree := t, store } := hregistered.of_eq rfl hopens.nextFile
  refine ⟨_, content, congrArg Turn.progress hstart, ?_, ?_, fun d => ?_⟩
  · rw [hstart]
    exact hcontent
  · rw [hstart]
    exact htemps
  · rw [hstart]
    refine (tempAt?_allocate hmade (.temp (.open_ content flags)) d).trans ?_
    rw [tempOf_of_temp ((FileStore.file_add store _ _).trans (if_pos rfl))]
    change (if _ then some (store.nextFile, _) else store.tempOf (p.table.lookup d)) = _
    rw [hfiles, hopens.nextFile]
    rfl

theorem tempAt?_create (s : Settings) (fd : Nat) : (create s).tempAt? fd = none := by
  obtain ⟨blank, -, htable, -, hcreate⟩ := create_eq s
  have hblank : blank.tempAt? fd = none := by
    rw [tempAt?, htable]
    rfl
  have hp := registered_blank htable
  have hkept : HandlesKept blank (create s) := by
    rw [hcreate]
    refine (handlesKept_allocate hp ?_).trans ((handlesKept_allocate (hp.allocate _) ?_).trans
      (handlesKept_allocate ((hp.allocate _).allocate _) ?_))
    all_goals
      intro h hx
      cases hx
  rw [hkept.tempAt, hblank]

/-! ### Calls on handles -/

/-- A call on a file is seen at its own descriptors only. -/
theorem tempAt?_ofStore (hfile : p.table.lookup fd = .ok file) {store : FileStore}
    (ht : p.store.Touches file store) (d : Nat) :
    (p.ofStore store).tempAt? d =
      if p.table.lookup d = .ok file then store.tempOf (.ok file) else p.tempAt? d := by
  change store.tempOf (p.table.lookup d) = _
  split
  · next hd => rw [hd]
  · next hd =>
    rw [tempAt?]
    cases hl : p.table.lookup d with
    | error e => rfl
    | ok other =>
      refine tempOf_congr (ht.others other ?_)
      rintro rfl
      exact hd hl

theorem fileEvent?_of_none (hnone : p.tempAt? fd = none) (c : FileCall) :
    p.fileEvent? fd c = none := by
  unfold fileEvent?
  cases ht : p.temp? fd with
  | none => rfl
  | some found =>
    obtain ⟨file, content, hfile, hh, -⟩ := temp?_eq_some (h := found.2) ht
    rw [tempAt?_eq_some_iff.2 ⟨hfile, hh⟩] at hnone
    cases hnone

/-- A call on a handle that is at a path is a change at that path. -/
theorem fileEvent?_of_at (hp : p.tree.Indexed p.store) {path : String}
    (hat : p.tempAt? fd = some (file, h)) (hpath : p.tree.temps.find? path = some h.content)
    (c : FileCall) : p.fileEvent? fd c = (if (p.store.start file c).progress.succeeded then
      h.written? (p.store.bytes h.content) c else none).map (.wrote path) := by
  obtain ⟨hfile, hh⟩ := tempAt?_eq_some_iff.1 hat
  obtain ⟨content, hc, rfl⟩ := (hp.index path h.content).1 hpath
  have hbytes : p.tempBytes content.path = p.store.bytes h.content :=
    FileSystem.tempBytes_of_content hp hc
  unfold fileEvent?
  rw [temp?_of_handle hfile hh hc, startOnFile_of_lookup hfile, Turn.map, succeeded_map]
  dsimp only
  rw [hbytes]
  split <;> rfl

/-- A call on a file that is no temp file leaves it so. -/
theorem handlesKept_startOnFile (hp : Registered p) (hnone : p.tempAt? fd = none) (c : FileCall) :
    HandlesKept p (p.startOnFile fd c).state := by
  cases hfile : p.table.lookup fd with
  | error e =>
    simp only [startOnFile, hfile]
    exact HandlesKept.refl p
  | ok file =>
    rw [startOnFile_of_lookup hfile]
    refine ⟨fun d => ?_, rfl⟩
    change (p.ofStore (p.store.start file c).state).tempAt? d = _
    rw [tempAt?_ofStore hfile (FileStore.touches_start c)]
    split
    · next hd =>
      rw [tempAt?, hfile, tempOf_eq_none_iff] at hnone
      rw [tempAt?, hd, tempOf_eq_none_iff.2 hnone, tempOf_eq_none_iff,
        (FileStore.accessKept_start p.store file c).access file (hp.lt_of_lookup hfile), hnone]
    · rfl

end Process

end SyscallBridge
