/-!
# Slots

Each resource of a host holds a slot while it is not closed. A slot that was given back is handed
out again, and to give one back frees it whoever holds it.
-/

namespace SyscallBridge.InProcess

/-- Which slot is handed out next, by those that are held and those that were given back and not
handed out again, the last one first. All that counts is that nobody holds it. -/
structure SlotRule where
  next (held freed : List Nat) : Nat
  next_free : ∀ held freed, next held freed ∉ held

/-- The number above all of a list. -/
def above (l : List Nat) : Nat := l.foldr (fun n m => max (n + 1) m) 0

theorem lt_above {l : List Nat} {n : Nat} (hn : n ∈ l) : n < above l := by
  induction l with
  | nil => cases hn
  | cons m l ih =>
    change n < max (m + 1) (above l)
    rcases List.mem_cons.1 hn with rfl | hn
    · omega
    · have := ih hn
      omega

/-- The slot that was given back last, or else a new one. -/
def SlotRule.lastFreed : SlotRule where
  next held freed := (freed.find? fun n => n ∉ held).getD (above held)
  next_free held freed := by
    cases hfree : freed.find? fun n => n ∉ held with
    | none => exact fun hmem => Nat.lt_irrefl _ (lt_above hmem)
    | some n => simpa using List.find?_some hfree

structure Slots where
  rule : SlotRule := .lastFreed
  held : List Nat := []
  freed : List Nat := []
  nodup : held.Nodup := by exact List.nodup_nil

namespace Slots

/-- Hands out a slot. -/
def insert (s : Slots) : Nat × Slots :=
  let n := s.rule.next s.held s.freed
  (n, { s with
    held := n :: s.held
    freed := s.freed.erase n
    nodup := List.nodup_cons.2 ⟨s.rule.next_free s.held s.freed, s.nodup⟩ })

/-- Takes a slot back, if it is held. -/
def remove (s : Slots) (n : Nat) : Slots :=
  if n ∈ s.held then
    { s with held := s.held.erase n, freed := n :: s.freed, nodup := s.nodup.erase n }
  else s

variable (s : Slots) (n : Nat)

theorem insert_held : s.insert.2.held = s.insert.1 :: s.held := rfl

theorem remove_held : (s.remove n).held = s.held.erase n := by
  unfold remove
  split
  · rfl
  · rename_i hn
    exact (List.erase_of_not_mem hn).symm

end Slots

end SyscallBridge.InProcess
