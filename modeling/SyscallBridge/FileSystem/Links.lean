import SyscallBridge.Data.Assoc
import SyscallBridge.Error.CallError
import SyscallBridge.FileSystem.Path

/-!
# Symbolic links

Links map trimmed paths to trimmed paths. A walk goes from link to link and keeps the paths it has
passed. It ends where there is no link, and it goes in a circle when it comes to a path again. One
of the two happens, since a walk that goes on has one link less ahead of it.
-/

namespace SyscallBridge

abbrev Links := Assoc String String

/-- A walk along links: the paths it has passed and the one it has come to. -/
structure Walk where
  passed : List String := []
  path : String
  deriving DecidableEq, Repr

/-- What one step of a walk comes to. -/
inductive Walk.Step where
  | circle
  | ends (target : String)
  | on (w : Walk)
  deriving DecidableEq, Repr

namespace Links

/-- The paths at which there are links. -/
def names (links : Links) : List String := links.keys.eraseDups

/-- The links that a walk has not passed. -/
def ahead (links : Links) (w : Walk) : List String := links.names.filter (· ∉ w.passed)

def step (links : Links) (w : Walk) : Walk.Step :=
  if w.path ∈ w.passed then .circle
  else match links.find? w.path with
    | some next => .on { passed := w.path :: w.passed, path := next }
    | none => .ends w.path

theorem length_ahead_step {links : Links} {w w' : Walk} (h : links.step w = .on w') :
    (links.ahead w').length < (links.ahead w).length := by
  unfold step at h
  split at h
  · cases h
  · next hnew =>
    split at h
    · next next hlink =>
      cases h
      have hrest : links.ahead { passed := w.path :: w.passed, path := next } =
          (links.ahead w).filter (· ≠ w.path) := by simp [ahead, List.filter_filter]
      have hname : w.path ∈ links.names :=
        List.mem_eraseDups.mpr (Assoc.mem_keys_of_find? hlink)
      have hmem : w.path ∈ links.ahead w := by simp [ahead, hname, hnew]
      rw [hrest]
      exact List.length_filter_lt_length_iff_exists.mpr ⟨w.path, hmem, by simp⟩
    · cases h

-- Closed walks are to be evaluated by `rfl`, which does not unfold such a recursion by default.
/-- Where the walk ends, if it does not go in a circle. -/
@[semireducible] def follow (links : Links) (w : Walk) : Option String :=
  match _h : links.step w with
  | .on w' => links.follow w'
  | .ends target => some target
  | .circle => none
termination_by (links.ahead w).length
decreasing_by exact length_ahead_step _h

/-- The path at the end of all links. -/
def resolve (links : Links) (path : String) : Except CallError String :=
  match links.follow { path := Path.trim path } with
  | some target => .ok target
  | none => .error (.symlinkCycle path)

end Links

end SyscallBridge
