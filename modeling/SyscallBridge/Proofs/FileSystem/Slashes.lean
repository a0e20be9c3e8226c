import Mathlib.Data.List.Forall2
import SyscallBridge.Proofs.FileSystem.Linking

/-!
# A slash at the end

Wherever a path is given, one slash at its end is taken off first: from what is opened or looked at,
from both ends of a link, and from the temp directory. So a path and the path with a slash behind it
are one path for every call. The outcomes can be told apart by an error that quotes the path as it
was given, and by nothing else, and runs of calls that differ in such slashes come to one state.
-/

namespace SyscallBridge

namespace Path

/-- A path that does not end in a slash, unless it is the root. -/
structure Plain (path : String) : Prop where
  nonempty : path ≠ ""
  unslashed : ∀ rest ≠ "", path ≠ rest ++ "/"

theorem Plain.trim_eq {path : String} (h : Plain path) : trim path = path := by
  have hsame : trimChars path.toList = path.toList := by
    refine if_neg fun hslash => ?_
    obtain ⟨rest, hrest⟩ := List.getLast?_eq_some_iff.mp hslash.2
    refine h.unslashed (String.ofList rest) ?_ (String.toList_inj.mp ?_)
    · intro hempty
      have hnil : rest = [] := by simpa using congrArg String.toList hempty
      rw [hrest, hnil] at hslash
      exact absurd hslash.1 (by decide)
    · rw [hrest, String.toList_append, String.toList_ofList]
      rfl
  rw [trim, hsame, String.ofList_toList]

theorem Plain.trim_slashed {path : String} (h : Plain path) : trim path = trim (path ++ "/") := by
  rw [h.trim_eq, trim_slash h.nonempty]

theorem isUnder_congr {directory other : String} (h : trim directory = trim other)
    (path : String) : isUnder path directory = isUnder path other := by
  have hchars : trimChars directory.toList = trimChars other.toList := by
    have hlists := congrArg String.toList h
    rwa [trim, trim, String.toList_ofList, String.toList_ofList] at hlists
  rw [isUnder, hchars, isUnder]

end Path

/-- The outcomes are the same, or they are one error, which quotes the paths that were given:
`path` in the first, `other` in the second. -/
inductive SameButQuoted (path other : String) {α : Type} :
    Except CallError α → Except CallError α → Prop where
  | same (r : Except CallError α) : SameButQuoted path other r r
  | notFound : SameButQuoted path other (.error (.notFound path)) (.error (.notFound other))
  | notSymlink : SameButQuoted path other (.error (.notSymlink path)) (.error (.notSymlink other))
  | symlinkCycle :
    SameButQuoted path other (.error (.symlinkCycle path)) (.error (.symlinkCycle other))

theorem SameButQuoted.bind {α β : Type} {path other : String} {first second : Except CallError α}
    {next next' : α → Except CallError β} (h : SameButQuoted path other first second)
    (hnext : ∀ a, SameButQuoted path other (next a) (next' a)) :
    SameButQuoted path other (first >>= next) (second >>= next') := by
  cases h with
  | same =>
    cases first with
    | ok a => exact hnext a
    | error e => exact .same _
  | notFound => exact .notFound
  | notSymlink => exact .notSymlink
  | symlinkCycle => exact .symlinkCycle

theorem SameButQuoted.eq {α : Type} {path : String} {r r' : Except CallError α}
    (h : SameButQuoted path path r r') : r = r' := by cases h <;> rfl

theorem Links.resolve_alike (links : Links) {path other : String}
    (h : Path.trim path = Path.trim other) :
    SameButQuoted path other (links.resolve path) (links.resolve other) := by
  unfold Links.resolve
  rw [← h]
  cases links.follow { path := Path.trim path } with
  | some target => exact .same _
  | none => exact .symlinkCycle

namespace FileSystem

variable {path other tmpDir tmpDir' : String}

/-! ### One call -/

theorem open_alike (t : FileSystem) (store : FileStore) (flags : OpenFlags)
    (h : Path.trim path = Path.trim other) (hdir : Path.trim tmpDir = Path.trim tmpDir') :
    SameButQuoted path other (t.open_ store path flags tmpDir)
      (t.open_ store other flags tmpDir') := by
  refine (t.links.resolve_alike h).bind fun target => ?_
  rw [← Path.isUnder_congr hdir]
  split
  · exact .same _
  · cases t.devices.open? target with
    | some opened => exact .same _
    | none => exact .notFound

theorem stat_alike (t : FileSystem) (store : FileStore) (h : Path.trim path = Path.trim other)
    (hdir : Path.trim tmpDir = Path.trim tmpDir') :
    SameButQuoted path other (t.stat store path tmpDir) (t.stat store other tmpDir') := by
  refine (t.links.resolve_alike h).bind fun target => ?_
  rw [← Path.isUnder_congr hdir, ← hdir]
  exact .same _

theorem makeDirectory_congr (t : FileSystem) (h : Path.trim path = Path.trim other)
    (hdir : Path.trim tmpDir = Path.trim tmpDir') :
    t.makeDirectory path tmpDir = t.makeDirectory other tmpDir' := by
  unfold makeDirectory
  simp only [h, hdir, Path.isUnder_congr hdir]

theorem removeDirectory_alike (t : FileSystem) (h : Path.trim path = Path.trim other)
    (hdir : Path.trim tmpDir = Path.trim tmpDir') :
    SameButQuoted path other (t.removeDirectory path tmpDir) (t.removeDirectory other tmpDir') := by
  refine (t.links.resolve_alike h).bind fun target => ?_
  rw [← Path.isUnder_congr hdir, ← hdir]
  exact .same _

theorem unlink_alike (t : FileSystem) (h : Path.trim path = Path.trim other) :
    SameButQuoted path other (t.unlink path) (t.unlink other) := by
  unfold unlink
  rw [← h]
  split
  · exact .same _
  · exact .notSymlink

theorem readLink_alike (t : FileSystem) (h : Path.trim path = Path.trim other) :
    SameButQuoted path other (t.readLink path) (t.readLink other) := by
  unfold readLink
  rw [← h]
  split
  · exact .same _
  · exact .notSymlink

theorem symlink_congr (t : FileSystem) {target target' : String}
    (htarget : Path.trim target = Path.trim target') (h : Path.trim path = Path.trim other) :
    t.symlink target path = t.symlink target' other := by
  rw [symlink, htarget, h, symlink]

end FileSystem

/-! ### Runs of calls -/

/-- The same calls, with paths that count as the same. -/
inductive TreeCall.Alike : TreeCall → TreeCall → Prop where
  | open_ {path other : String} (flags : OpenFlags) (h : Path.trim path = Path.trim other) :
    Alike (.open_ path flags) (.open_ other flags)
  | mkdir {path other : String} (h : Path.trim path = Path.trim other) :
    Alike (.mkdir path) (.mkdir other)
  | rmdir {path other : String} (h : Path.trim path = Path.trim other) :
    Alike (.rmdir path) (.rmdir other)
  | symlink {target target' path other : String} (htarget : Path.trim target = Path.trim target')
    (h : Path.trim path = Path.trim other) : Alike (.symlink target path) (.symlink target' other)
  | unlink {path other : String} (h : Path.trim path = Path.trim other) :
    Alike (.unlink path) (.unlink other)

theorem TreeCall.Alike.refl (c : TreeCall) : c.Alike c := by
  cases c with
  | open_ path flags => exact .open_ flags rfl
  | mkdir path => exact .mkdir rfl
  | rmdir path => exact .rmdir rfl
  | symlink target path => exact .symlink rfl rfl
  | unlink path => exact .unlink rfl

namespace FileSystem

variable {path other tmpDir tmpDir' : String}

theorem settle_alike (t : FileSystem) {r r' : Except CallError FileSystem}
    (h : SameButQuoted path other r r') : t.settle r = t.settle r' := by cases h <;> rfl

theorem perform_alike (t : FileSystem) (store : FileStore) {c c' : TreeCall}
    (hdir : Path.trim tmpDir = Path.trim tmpDir') (hc : c.Alike c') :
    t.perform store tmpDir c = t.perform store tmpDir' c' := by
  cases hc with
  | open_ flags h =>
    have hopen := t.open_alike store flags h hdir
    simp only [perform]
    revert hopen
    generalize t.open_ store _ flags tmpDir = r
    generalize t.open_ store _ flags tmpDir' = r'
    intro hopen
    cases hopen <;> rfl
  | mkdir h => rw [perform, t.makeDirectory_congr h hdir, perform]
  | rmdir h => rw [perform, t.settle_alike (t.removeDirectory_alike h hdir), perform]
  | symlink htarget h => rw [perform, t.symlink_congr htarget h, perform]
  | unlink h => rw [perform, t.settle_alike (t.unlink_alike h), perform]

/-- Calls that differ in slashes leave the same file system and the same contents, one by one and
all along a run. -/
theorem performAll_alike (t : FileSystem) (store : FileStore)
    {calls calls' : List (String × TreeCall)}
    (h : List.Forall₂ (fun call call' => Path.trim call.1 = Path.trim call'.1 ∧
      call.2.Alike call'.2) calls calls') :
    t.performAll store calls = t.performAll store calls' := by
  induction h generalizing t store with
  | nil => rfl
  | cons hcall _ ih =>
    have hstep := t.perform_alike store hcall.1 hcall.2
    simp only [performAll, List.foldl_cons] at ih ⊢
    rw [hstep]
    exact ih _ _

/-- Every call makes the same of `path` as of `other`, and leaves the same behind. -/
structure TakenAlike (t : FileSystem) (store : FileStore) (path other : String) : Prop where
  open_ : ∀ tmpDir flags, SameButQuoted path other (t.open_ store path flags tmpDir)
    (t.open_ store other flags tmpDir)
  stat : ∀ tmpDir, SameButQuoted path other (t.stat store path tmpDir) (t.stat store other tmpDir)
  mkdir : ∀ tmpDir, t.makeDirectory path tmpDir = t.makeDirectory other tmpDir
  rmdir : ∀ tmpDir, SameButQuoted path other (t.removeDirectory path tmpDir)
    (t.removeDirectory other tmpDir)
  unlink : SameButQuoted path other (t.unlink path) (t.unlink other)
  readlink : SameButQuoted path other (t.readLink path) (t.readLink other)
  symlink_at : ∀ target, t.symlink target path = t.symlink target other
  symlink_to : ∀ given, t.symlink path given = t.symlink other given
  after_open : ∀ tmpDir flags,
    t.perform store tmpDir (.open_ path flags) = t.perform store tmpDir (.open_ other flags)
  after_rmdir : ∀ tmpDir,
    t.perform store tmpDir (.rmdir path) = t.perform store tmpDir (.rmdir other)
  after_unlink : ∀ tmpDir,
    t.perform store tmpDir (.unlink path) = t.perform store tmpDir (.unlink other)

theorem takenAlike (t : FileSystem) (store : FileStore) (h : Path.trim path = Path.trim other) :
    TakenAlike t store path other where
  open_ _ flags := t.open_alike store flags h rfl
  stat _ := t.stat_alike store h rfl
  mkdir _ := t.makeDirectory_congr h rfl
  rmdir _ := t.removeDirectory_alike h rfl
  unlink := t.unlink_alike h
  readlink := t.readLink_alike h
  symlink_at _ := t.symlink_congr rfl h
  symlink_to _ := t.symlink_congr h rfl
  after_open _ flags := t.perform_alike store rfl (.open_ flags h)
  after_rmdir _ := t.perform_alike store rfl (.rmdir h)
  after_unlink _ := t.perform_alike store rfl (.unlink h)

/-- Every call is the same with `tmpDir` as the temp directory as with `tmpDir'`. -/
structure SameTempDirectory (t : FileSystem) (store : FileStore) (tmpDir tmpDir' : String) :
    Prop where
  open_ : ∀ path flags, t.open_ store path flags tmpDir = t.open_ store path flags tmpDir'
  stat : ∀ path, t.stat store path tmpDir = t.stat store path tmpDir'
  mkdir : ∀ path, t.makeDirectory path tmpDir = t.makeDirectory path tmpDir'
  rmdir : ∀ path, t.removeDirectory path tmpDir = t.removeDirectory path tmpDir'
  after : ∀ c, t.perform store tmpDir c = t.perform store tmpDir' c

theorem sameTempDirectory (t : FileSystem) (store : FileStore)
    (h : Path.trim tmpDir = Path.trim tmpDir') : SameTempDirectory t store tmpDir tmpDir' where
  open_ _ flags := (t.open_alike store flags rfl h).eq
  stat _ := (t.stat_alike store rfl h).eq
  mkdir _ := t.makeDirectory_congr rfl h
  rmdir _ := (t.removeDirectory_alike rfl h).eq
  after c := t.perform_alike store h (.refl c)

/-- A path with a slash behind it is that path: for every call, at both ends of a link, and as the
temp directory. -/
theorem slash_at_end_is_ignored (t : FileSystem) (store : FileStore) (path : String)
    (h : Path.Plain path) :
    TakenAlike t store path (path ++ "/") ∧ SameTempDirectory t store path (path ++ "/") :=
  ⟨t.takenAlike store h.trim_slashed, t.sameTempDirectory store h.trim_slashed⟩

/-- On links that go in a circle both texts fail, each with itself in the error. -/
theorem slash_at_end_is_ignored_on_circle :
    let t := ((create ["/tmp"] 7).symlink "/tmp/b/" "/tmp/a").symlink "/tmp/a" "/tmp/b"
    Path.Plain "/tmp/a" ∧
    TakenAlike t {} "/tmp/a" "/tmp/a/" ∧ SameTempDirectory t {} "/tmp/a" "/tmp/a/" ∧
    t.stat {} "/tmp/a" "/tmp" = .error (.symlinkCycle "/tmp/a") ∧
    t.stat {} "/tmp/a/" "/tmp" = .error (.symlinkCycle "/tmp/a/") := by
  intro t
  have hplain : Path.Plain "/tmp/a" := by
    refine ⟨by decide, fun rest _ heq => ?_⟩
    have hlast := congrArg (fun s => s.toList.getLast?) heq
    simp at hlast
  obtain ⟨htaken, hdir⟩ := slash_at_end_is_ignored t {} "/tmp/a" hplain
  exact ⟨hplain, htaken, hdir, rfl, rfl⟩

end FileSystem

end SyscallBridge
