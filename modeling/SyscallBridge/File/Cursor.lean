import SyscallBridge.Error.CallError
import SyscallBridge.Text.Utf8

/-!
# Cursors

A cursor is a position of 64 bits. It may stand past the end of a file, where there is nothing to
read.
-/

namespace SyscallBridge

inductive SeekTarget where
  | fromStart (n : Nat)
  | fromCursor (d : Int)
  | fromEnd (d : Int)
  deriving DecidableEq, Repr

namespace SeekTarget

/-- The exact position, for a cursor in a file of the given size. -/
def position (t : SeekTarget) (cursor size : Nat) : Int :=
  match t with
  | fromStart n => n
  | fromCursor d => cursor + d
  | fromEnd d => size + d

def resolve (t : SeekTarget) (cursor size : Nat) : Except CallError Nat :=
  let p := t.position cursor size
  if 0 ≤ p ∧ p < UInt64.size then .ok p.toNat
  else .error (.invalidArgument "seek before start of file")

/-- A seek succeeds exactly when the exact position is one of 64 bits. -/
theorem resolve_eq_ok_iff (t : SeekTarget) (cursor size n : Nat) :
    t.resolve cursor size = .ok n ↔ t.position cursor size = n ∧ n < UInt64.size := by
  unfold resolve
  generalize t.position cursor size = p
  dsimp only
  split
  · simp only [Except.ok.injEq]; omega
  · simp only [reduceCtorEq, false_iff]; omega

end SeekTarget

/-- At most `size` bytes from `offset` on. -/
def Bytes.window (bytes : Bytes) (offset size : Nat) : Bytes := (bytes.drop offset).take size

theorem Bytes.length_window (bytes : Bytes) (offset size : Nat) :
    (bytes.window offset size).length = min size (bytes.length - offset) := by
  simp [Bytes.window]

end SyscallBridge
