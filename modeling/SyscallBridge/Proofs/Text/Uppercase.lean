import Mathlib.Data.List.Basic
import Mathlib.Data.String.Basic
import SyscallBridge.Text.Uppercase

/-!
# The equals sign in uppercase text

Uppercasing neither makes an equals sign out of another character nor loses one, so a key without
one still has none when it is stored.
-/

namespace SyscallBridge

theorem ofNat_eq_equals {n : Nat} (h : Char.ofNat n = '=') : n = '='.toNat := by
  by_cases hn : n.isValidChar
  · rw [Char.ofNat, dif_pos hn] at h
    exact congrArg Char.toNat h
  · rw [Char.ofNat, dif_neg hn] at h
    cases h

theorem CaseTable.equals_not_mem_expansion :
    ∀ e ∈ expansions.toList, '='.toNat ∉ e.2 := by decide +kernel

theorem CaseTable.Run.first_le {r : Run} {n : Nat} (h : r.contains n) : r.first ≤ n := by
  simp only [contains, Bool.and_eq_true, decide_eq_true_eq] at h
  exact h.1.1

theorem CaseTable.equals_lt_run : ∀ r ∈ runs.toList, ('='.toNat : Int) < r.first + r.shift := by
  decide +kernel

theorem toUpper_of_lt : ∀ n < 0x80, (Char.ofNat n).toUpper = '=' → Char.ofNat n = '=' := by
  decide

/-- Only `=` becomes `=`. -/
theorem equals_mem_upperChar {c : Char} : '=' ∈ upperChar c ↔ c = '=' := by
  constructor
  · intro h
    unfold upperChar at h
    split at h
    · next hascii =>
      have hupper := toUpper_of_lt c.toNat hascii
      rw [Char.ofNat_toNat] at hupper
      exact hupper (List.mem_singleton.mp h).symm
    · split at h
      · next e he =>
        obtain ⟨n, hn, hchar⟩ := List.mem_map.mp h
        have hmem := Array.mem_of_find?_eq_some he
        have hnone := CaseTable.equals_not_mem_expansion e hmem.val
        rw [ofNat_eq_equals hchar] at hn
        exact absurd hn hnone
      · split at h
        · next r hr =>
          -- Shifts are the same along a run, so its first character moves lowest.
          have hmem := Array.mem_of_find?_eq_some hr
          have hin := Array.find?_some hr
          have hfirst := CaseTable.Run.first_le hin
          have hshift := CaseTable.equals_lt_run r hmem.val
          have hmoved := ofNat_eq_equals (List.mem_singleton.mp h).symm
          omega
        · exact (List.mem_singleton.mp h).symm
  · rintro rfl
    decide

theorem equals_mem_uppercase {s : String} : '=' ∈ (uppercase s).toList ↔ '=' ∈ s.toList := by
  unfold uppercase
  rw [String.toList_ofList, List.mem_flatMap]
  constructor
  · rintro ⟨c, hc, hmem⟩
    exact equals_mem_upperChar.mp hmem ▸ hc
  · intro h
    exact ⟨'=', h, equals_mem_upperChar.mpr rfl⟩

end SyscallBridge
