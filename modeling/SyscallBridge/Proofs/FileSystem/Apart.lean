import SyscallBridge.Proofs.File.Contents

/-!
# Directories and temp files apart

Whatever a call does to the file system is one of a few moves. A path comes among the temp files
only while it is no directory, and among the directories only while it is no temp file, and so it
is never both, even when every call finds the temp directory elsewhere.
-/

namespace SyscallBridge

/-- A call that may change the file system. -/
inductive TreeCall where
  | open_ (path : String) (flags : OpenFlags)
  | mkdir (path : String)
  | rmdir (path : String)
  | symlink (target path : String)
  | unlink (path : String)
  deriving DecidableEq, Repr

/-- A call that makes or removes a link. -/
def TreeCall.onLinks : TreeCall → Bool
  | symlink .. | unlink _ => true
  | open_ .. | mkdir _ | rmdir _ => false

/-- What a call may do besides linking while the temp directory is `tmpDir`. -/
inductive TreeMove (tmpDir : String) (t : FileSystem) : FileSystem → Prop where
  | nothing : TreeMove tmpDir t t
  | opened (path : String) (content : Nat) (under : Path.isUnder path tmpDir = true)
      (free : path ∉ t.directories) :
      TreeMove tmpDir t { t with temps := t.temps.insert path content }
  | drawn (devices : Devices) : TreeMove tmpDir t { t with devices }
  | made (path : String) (under : Path.isUnder path tmpDir = true)
      (free : t.temps.contains path = false) :
      TreeMove tmpDir t { t with directories := path :: t.directories }
  | removed (path : String) : TreeMove tmpDir t { t with directories := t.directories.erase path }

/-- What a call may do to the file system. -/
inductive TreeStep (tmpDir : String) (t : FileSystem) : FileSystem → Prop where
  | moved {t' : FileSystem} (move : TreeMove tmpDir t t') : TreeStep tmpDir t t'
  | linked (links : Links) : TreeStep tmpDir t { t with links }

theorem TreeMove.links_eq {tmpDir : String} {t t' : FileSystem} (h : TreeMove tmpDir t t') :
    t'.links = t.links := by cases h <;> rfl

namespace FileSystem

/-- The file system after a call with the result `r`; a call that fails leaves it as it is. -/
def settle (t : FileSystem) (r : Except CallError FileSystem) : FileSystem := r.toOption.getD t

/-- The file system and the contents after a call. -/
def perform (t : FileSystem) (store : FileStore) (tmpDir : String) :
    TreeCall → FileSystem × FileStore
  | .open_ path flags =>
    match t.open_ store path flags tmpDir with
    | .ok (_, t, store) => (t, store)
    | .error _ => (t, store)
  | .mkdir path => (t.settle (t.makeDirectory path tmpDir), store)
  | .rmdir path => (t.settle (t.removeDirectory path tmpDir), store)
  | .symlink target path => (t.symlink target path, store)
  | .unlink path => (t.settle (t.unlink path), store)

/-- Calls one after the other, each with the temp directory of its moment. -/
def performAll (t : FileSystem) (store : FileStore) (calls : List (String × TreeCall)) :
    FileSystem × FileStore :=
  calls.foldl (fun s call => s.1.perform s.2 call.1 call.2) (t, store)

variable {t t' : FileSystem} {tmpDir : String}

theorem move_settle {r : Except CallError FileSystem}
    (h : ∀ t', r = .ok t' → TreeMove tmpDir t t') : TreeMove tmpDir t (t.settle r) := by
  cases r with
  | ok t' => exact h t' rfl
  | error e => exact .nothing

theorem move_content (store : FileStore) {path : String} (under : Path.isUnder path tmpDir = true)
    (free : path ∉ t.directories) : TreeMove tmpDir t (t.content store path).2.1 := by
  unfold content
  cases t.temps.find? path with
  | some id => exact .nothing
  | none => exact .opened path _ under free

theorem move_open {store store' : FileStore} {path : String} {flags : OpenFlags} {f : OpenFile}
    (h : t.open_ store path flags tmpDir = .ok (f, t', store')) : TreeMove tmpDir t t' := by
  unfold open_ at h
  obtain ⟨target, -, hrest⟩ := exists_ok_of_bind h
  split at hrest
  · next under =>
    split at hrest
    · cases hrest
    · next free =>
      cases hrest
      exact move_content store under free
  · split at hrest
    · cases hrest
      exact .drawn _
    · cases hrest

/-- What comes of making a directory: it was not there before, and there was no temp file. -/
structure Made (t : FileSystem) (path tmpDir : String) (t' : FileSystem) : Prop where
  elsewhere : Path.trim path ≠ Path.trim tmpDir
  under : Path.isUnder (Path.trim path) tmpDir = true
  free : t.temps.contains (Path.trim path) = false
  new : Path.trim path ∉ t.directories
  result : t' = { t with directories := Path.trim path :: t.directories }

theorem made {path : String} (h : t.makeDirectory path tmpDir = .ok t') :
    Made t path tmpDir t' := by
  unfold makeDirectory at h
  dsimp only at h
  split at h
  · cases h
  · next helse =>
    split at h
    · cases h
    · next hunder =>
      split at h
      · cases h
      · next hfree =>
        cases h
        obtain ⟨hfree, hnew⟩ := not_or.mp hfree
        -- a path elsewhere would have to be a directory, and directories are not made again
        have under : Path.isUnder (Path.trim path) tmpDir = true := by
          cases hu : Path.isUnder (Path.trim path) tmpDir with
          | true => rfl
          | false => exact absurd ⟨by rw [hu]; rfl, hnew⟩ hunder
        exact ⟨helse, under, Bool.eq_false_iff.mpr hfree, hnew, rfl⟩

theorem move_makeDirectory {path : String} (h : t.makeDirectory path tmpDir = .ok t') :
    TreeMove tmpDir t t' := by
  have hmade : Made t path tmpDir t' := made h
  rw [hmade.result]
  exact .made _ hmade.under hmade.free

theorem move_removeDirectory {path : String} (h : t.removeDirectory path tmpDir = .ok t') :
    TreeMove tmpDir t t' := by
  unfold removeDirectory at h
  obtain ⟨target, -, hrest⟩ := exists_ok_of_bind h
  split at hrest
  · cases hrest
  · split at hrest
    · cases hrest
      exact .removed target
    · split at hrest
      · cases hrest
      · cases hrest

theorem move_perform (t : FileSystem) (store : FileStore) (tmpDir : String) {c : TreeCall}
    (h : c.onLinks = false) : TreeMove tmpDir t (t.perform store tmpDir c).1 := by
  cases c with
  | open_ path flags =>
    simp only [perform]
    split
    · next hopen => exact move_open hopen
    · exact .nothing
  | mkdir path => exact move_settle fun t' => move_makeDirectory
  | rmdir path => exact move_settle fun t' => move_removeDirectory
  | symlink target path => cases h
  | unlink path => cases h

/-- A removed link changes nothing where there was none. -/
theorem settle_unlink (t : FileSystem) (path : String) : ∃ links : Links,
    t.settle (t.unlink path) = { t with links } ∧
      ∀ other, links.find? other =
        if other = Path.trim path then none else t.links.find? other := by
  unfold unlink
  by_cases hlink : t.links.contains (Path.trim path) = true
  · rw [if_pos hlink]
    exact ⟨_, rfl, fun other => Assoc.find?_erase _ _ _⟩
  · rw [if_neg hlink]
    refine ⟨t.links, rfl, fun other => ?_⟩
    split
    · next heq =>
      rw [heq]
      exact Option.not_isSome_iff_eq_none.mp hlink
    · rfl

theorem step_perform (t : FileSystem) (store : FileStore) (tmpDir : String) (c : TreeCall) :
    TreeStep tmpDir t (t.perform store tmpDir c).1 := by
  cases c with
  | symlink target path => exact .linked _
  | unlink path =>
    obtain ⟨links, hlinks, -⟩ := settle_unlink t path
    change TreeStep tmpDir t (t.settle (t.unlink path))
    rw [hlinks]
    exact .linked links
  | open_ path flags => exact .moved (move_perform t store tmpDir rfl)
  | mkdir path => exact .moved (move_perform t store tmpDir rfl)
  | rmdir path => exact .moved (move_perform t store tmpDir rfl)

/-- No directory is a temp file. -/
def Apart (t : FileSystem) : Prop := ∀ path ∈ t.directories, t.temps.contains path = false

theorem apart_create (knownDirs : List String) (seed : UInt64) :
    Apart (create knownDirs seed) := fun _ _ => rfl

theorem Apart.move (h : Apart t) (hm : TreeMove tmpDir t t') : Apart t' := by
  cases hm with
  | nothing => exact h
  | drawn devices => exact h
  | removed gone => exact fun path hp => h path (List.mem_of_mem_erase hp)
  | opened made content under free =>
    intro path hp
    have hne : path ≠ made := by
      rintro rfl
      exact free hp
    simp only [Assoc.contains, Assoc.find?_insert, if_neg hne]
    exact h path hp
  | made made under free =>
    intro path hp
    rcases List.mem_cons.mp hp with rfl | hp
    · exact free
    · exact h path hp

theorem Apart.step (h : Apart t) (hs : TreeStep tmpDir t t') : Apart t' := by
  cases hs with
  | moved move => exact h.move move
  | linked links => exact h

theorem Apart.performAll (h : Apart t) (store : FileStore) (calls : List (String × TreeCall)) :
    Apart (t.performAll store calls).1 := by
  induction calls generalizing t store with
  | nil => exact h
  | cons call calls ih =>
    have hstep := h.step (step_perform t store call.1 call.2)
    exact ih hstep _

/-- The temp directory may be another one for each call. -/
theorem never_directory_and_temp_file (knownDirs : List String) (seed : UInt64)
    (store : FileStore) (calls : List (String × TreeCall)) (path : String) :
    let t := ((create knownDirs seed).performAll store calls).1
    ¬ (path ∈ t.directories ∧ t.temps.contains path = true) := by
  intro t hboth
  have hapart : Apart t := (apart_create knownDirs seed).performAll store calls
  have hfree := hapart path hboth.1
  rw [hboth.2] at hfree
  cases hfree

end FileSystem

end SyscallBridge
