import SyscallBridge.Proofs.File.Frame
import SyscallBridge.Proofs.Process.Parts

/-!
# Descriptors under system calls

A process keeps its table at rest between two turns, with files that its store has given out, each
under one record. That holds whatever is called and whatever the host answers, so it may be assumed
of the state that a waiting call finds when it goes on.
-/

namespace SyscallBridge.Process

structure Registered (p : Process) : Prop where
  accounted : p.table.Accounted none
  distinct : p.table.Distinct
  known : ∀ r f, p.table.fileOf? r = some f → f < p.store.nextFile

/-- A process whose descriptor `fd` has been released: it is empty, and the file that only it
referred to is closed. -/
structure Released (p : Process) (fd : Nat) (p' : Process) : Prop where
  emptied : p'.table.lookup fd = .error (.badDescriptor fd)
  others : ∀ d, d ≠ fd → p'.table.lookup d = p.table.lookup d
  closed : ∀ f, p.table.Sole fd f → p'.store.file f = (p.store.file f).closed
  kept : ∀ f, ¬ p.table.Sole fd f → p'.store.file f = p.store.file f

/-- The files that are opened with some flags: handles on temp files, and devices. -/
inductive Openable (flags : OpenFlags) : OpenFile → Prop where
  | temp (content : Nat) : Openable flags (.temp (.open_ content flags))
  | zone : Openable flags (.fixed ZoneData.bytes 0)
  | random (g : Xoshiro) : Openable flags (.random g)

/-- Opening adds no file to the store, since a file is only numbered with its descriptor. -/
structure OpensFile (flags : OpenFlags) (store : FileStore) (f : OpenFile) (store' : FileStore) :
    Prop where
  openable : Openable flags f
  files : store'.files = store.files
  nextFile : store'.nextFile = store.nextFile

theorem opensFile {t t' : FileSystem} {store store' : FileStore} {path tmpDir : String}
    {flags : OpenFlags} {f : OpenFile}
    (h : t.open_ store path flags tmpDir = .ok (f, t', store')) :
    OpensFile flags store f store' := by
  unfold FileSystem.open_ at h
  obtain ⟨target, -, hrest⟩ := exists_ok_of_bind h
  split at hrest
  · split at hrest
    · cases hrest
    · cases hrest
      have hcontent : (t.content store target).2.2.files = store.files ∧
          (t.content store target).2.2.nextFile = store.nextFile := by
        unfold FileSystem.content
        split <;> exact ⟨rfl, rfl⟩
      refine ⟨.temp _, ?_, ?_⟩ <;> dsimp only <;> split
      · exact hcontent.1
      · exact hcontent.1
      · exact hcontent.2
      · exact hcontent.2
  · split at hrest
    · next hdevice =>
      cases hrest
      obtain ⟨d, -, hd⟩ := Option.map_eq_some_iff.1 hdevice
      cases d with
      | zone =>
        cases hd
        exact ⟨.zone, rfl, rfl⟩
      | random =>
        cases hd
        exact ⟨.random _, rfl, rfl⟩
    · cases hrest

namespace Registered

variable {p p' : Process}

theorem of_eq (h : Registered p) (htable : p'.table = p.table)
    (hstore : p'.store.nextFile = p.store.nextFile) : Registered p' where
  accounted := htable ▸ h.accounted
  distinct := htable ▸ h.distinct
  known r f hf := by
    rw [hstore]
    exact h.known r f (htable ▸ hf)

theorem ofStore (h : Registered p) {id : Nat} {store : FileStore} (ht : p.store.Touches id store) :
    Registered (p.ofStore store) := h.of_eq rfl ht.nextFile

theorem lt_of_lookup (h : Registered p) {fd f : Nat} (hf : p.table.lookup fd = .ok f) :
    f < p.store.nextFile := by
  obtain ⟨r, -, hr⟩ := DescriptorTable.lookup_eq_ok_iff.mp hf
  exact h.known r f hr

theorem allocate (h : Registered p) (f : OpenFile) : Registered (p.allocate f).2 := by
  have hfile : ∀ r, (p.allocate f).2.table.fileOf? r =
      if r = p.table.nextRecord then some p.store.nextFile else p.table.fileOf? r :=
    DescriptorTable.fileOf?_allocate p.store.nextFile
  -- the new file is not one of the table yet
  have hnew : ∀ r, p.table.fileOf? r ≠ some p.store.nextFile :=
    fun r hr => Nat.lt_irrefl _ (h.known r _ hr)
  constructor
  · exact h.accounted.allocate p.store.nextFile
  · intro r r' g hr hr'
    rw [hfile] at hr hr'
    split at hr <;> split at hr'
    · next h₁ h₂ => rw [h₁, h₂]
    · cases hr
      exact absurd hr' (hnew r')
    · cases hr'
      exact absurd hr (hnew r)
    · exact h.distinct r r' g hr hr'
  · intro r g hr
    change g < p.store.nextFile + 1
    rw [hfile] at hr
    split at hr
    · cases hr
      exact Nat.lt_succ_self _
    · exact Nat.lt_succ_of_lt (h.known r g hr)

/-- A table that has dropped a record at most, once the file of that record is closed. -/
theorem closeFile (h : Registered p) {table : DescriptorTable Nat} {shut : Option Nat}
    (hacc : table.Accounted none) (hdrops : DescriptorTable.Drops p.table table shut) :
    Registered (Process.closeFile { p with table } shut).1 := by
  have hdropped : Registered { p with table } := by
    refine ⟨hacc, h.distinct.drops hdrops, fun r f hf => ?_⟩
    cases hdrops with
    | nothing kept => exact h.known r f ((kept r).symm.trans hf)
    | record gone g held kept =>
      have hkept := kept r
      split at hkept
      · rw [hkept] at hf
        cases hf
      · exact h.known r f (hkept.symm.trans hf)
  cases shut with
  | none => exact hdropped
  | some id => exact hdropped.ofStore (FileStore.touches_close p.store id)

theorem release (h : Registered p) {fd : Nat} {shut : Option Nat} {table : DescriptorTable Nat}
    (hr : p.table.release fd = .ok (shut, table)) :
    Registered (Process.closeFile { p with table } shut).1 :=
  h.closeFile (h.accounted.release hr) (DescriptorTable.release_drops hr)

theorem released (h : Registered p) {fd : Nat} {shut : Option Nat} {table : DescriptorTable Nat}
    (hr : p.table.release fd = .ok (shut, table)) :
    Released p fd (Process.closeFile { p with table } shut).1 := by
  have hlookup := h.accounted.lookup_release hr
  have hshut := h.accounted.release_shut h.distinct hr
  have htable : (Process.closeFile { p with table } shut).1.table = table := by
    cases shut <;> rfl
  constructor
  · rw [htable, hlookup, if_pos rfl]
  · intro d hne
    rw [htable, hlookup, if_neg hne]
  · intro f hsole
    have hf := (hshut f).mpr hsole
    subst hf
    exact FileStore.file_close_self p.store f
  · intro f hsole
    cases shut with
    | none => rfl
    | some g =>
      have hne : f ≠ g := by
        rintro rfl
        exact hsole ((hshut f).mp rfl)
      exact (FileStore.file_close p.store g f).trans (if_neg hne)

/-- The cleanup of a dial; there may be nothing left to release. -/
theorem finish_dialed (h : Registered p) (fd : Nat) (e : CallError) :
    Registered (p.finish (.dialed fd) (.error e)).1 ∧
      Released p fd (p.finish (.dialed fd) (.error e)).1 := by
  simp only [Process.finish, Process.release]
  cases hr : p.table.release fd with
  | ok found => exact ⟨h.release hr, h.released hr⟩
  | error e' =>
    have hempty := DescriptorTable.lookup_of_release_error hr
    refine ⟨h, hempty, fun _ _ => rfl, fun f hsole => ?_, fun _ _ => rfl⟩
    have hf := hsole.1
    rw [hempty] at hf
    cases hf

theorem parts (h : Registered p) (hp : Parts p p') : Registered p' := by
  induction hp with
  | refl => exact h
  | tail _ part ih =>
    cases part with
    | opens s => exact ih.allocate _
    | turns file s _ => exact ih.ofStore (.set _)
    | drops accounted drops => exact ih.closeFile (accounted ih.accounted) drops

theorem startOpen (h : Registered p) (path : String) (flags : OpenFlags) :
    Registered (p.startOpen path flags).state := by
  unfold Process.startOpen
  split
  · exact h
  · next file tree store hopen =>
    have hopened : Registered { p with tree, store } := h.of_eq rfl (opensFile hopen).nextFile
    exact hopened.allocate file

theorem startOnFile (h : Registered p) (fd : Nat) (c : FileCall) :
    Registered (p.startOnFile fd c).state := by
  unfold Process.startOnFile
  split
  · exact h
  · exact h.ofStore (FileStore.touches_start c)

theorem onTree (h : Registered p) (r : Except CallError FileSystem) :
    Registered (p.onTree r).state := by
  cases r <;> exact h.of_eq rfl rfl

theorem start (h : Registered p) (c : Syscall) : Registered (p.start c).state := by
  cases c with
  | open_ path flags => exact h.startOpen path flags
  | onFile fd c => exact h.startOnFile fd c
  | mkdir | rmdir | unlink => exact h.onTree _
  | setenv key value =>
    simp only [Process.start, startSetenv]
    split
    · exact h
    · exact h.of_eq rfl rfl
  | symlink | unsetenv => exact h.of_eq rfl rfl
  | close | dup | dup2 | socket | onSocket | resolve | dial | fsync | stat | readlink | getenv
  | environ | getpid | missing => exact h.parts (parts_start p rfl)

theorem resume (h : Registered p) (q : ProcessPending)
    (a : Except HostFailure q.request.Answer) : Registered (p.resume q a).state :=
  h.parts (parts_resume p q a)

theorem next (h : Registered p) (e : ProcessEvent) : Registered (p.next e) := by
  cases e with
  | call c => exact h.start c
  | answer q a => exact h.resume q a

theorem run (h : Registered p) (events : List ProcessEvent) : Registered (p.run events) := by
  induction events generalizing p with
  | nil => exact h
  | cons e events ih => exact ih (h.next e)

end Registered

theorem registered_blank {p : Process} (htable : p.table = {}) : Registered p := by
  refine ⟨htable ▸ DescriptorTable.accounted_empty, ?_, ?_⟩
  · intro r r' f hr
    rw [htable] at hr
    cases hr
  · intro r f hr
    rw [htable] at hr
    cases hr

theorem registered_create (s : Settings) : Registered (create s) := by
  obtain ⟨blank, -, htable, -, hcreate⟩ := create_eq s
  rw [hcreate]
  exact (((registered_blank htable).allocate _).allocate _).allocate _

end SyscallBridge.Process
