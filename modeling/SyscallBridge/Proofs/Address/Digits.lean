import SyscallBridge.Address.Parser
import SyscallBridge.Address.Printer

/-!
# Numbers in address texts

A number that was written in a radix of at most sixteen is read back as it was, whatever follows it,
as long as what follows does not start with another digit. The readers of octets, groups and ports
are that one reader with their own radix, width and bound.
-/

namespace SyscallBridge.AddressText

/-- What follows a number: nothing, or a character that is no digit. -/
def Stops (radix : Nat) (rest : Rest) : Prop := ∀ c ∈ rest.head?, digit? radix c = none

theorem stops_nil (radix : Nat) : Stops radix [] := by
  intro c hc
  cases hc

theorem stops_cons {radix : Nat} {c : Char} {rest : Rest} (h : Hex.value? c = none) :
    Stops radix (c :: rest) := by
  intro x hx
  cases hx
  simp only [digit?, h, Option.bind_none]

theorem value?_digitChar {d : Nat} (h : d < 16) : Hex.value? d.digitChar = some d := by
  match d, h with
  | 0, _ | 1, _ | 2, _ | 3, _ | 4, _ | 5, _ | 6, _ | 7, _ | 8, _ | 9, _ | 10, _ | 11, _ | 12, _
  | 13, _ | 14, _ | 15, _ => decide
  | d + 16, h => omega

theorem digit?_digitChar {radix d : Nat} (hr : radix ≤ 16) (hd : d < radix) :
    digit? radix d.digitChar = some d := by
  rw [digit?, value?_digitChar (Nat.lt_of_lt_of_le hd hr), Option.bind_some, if_pos hd]

/-- The digits that a number is written with, the highest first. -/
structure Written (radix n : Nat) (ds : List Nat) : Prop where
  text : Nat.toDigits radix n = ds.map Nat.digitChar
  lt : ∀ d ∈ ds, d < radix
  value : valueOf radix ds = n
  head : ds.head? = some 0 → n = 0

theorem Written.ne_nil {radix n : Nat} {ds : List Nat} (w : Written radix n ds) : ds ≠ [] := by
  intro h
  apply Nat.toDigits_ne_nil (n := n) (b := radix)
  rw [w.text, h, List.map_nil]

theorem exists_written {radix : Nat} (hr : 1 < radix) (n : Nat) : ∃ ds, Written radix n ds := by
  -- the last digit comes off the end
  induction n using Nat.strongRecOn with
  | ind n ih =>
    by_cases h : n < radix
    · refine ⟨[n], ?_, ?_, ?_, ?_⟩
      · rw [Nat.toDigits_of_lt_base h, List.map_singleton]
      · intro d hd
        rw [List.mem_singleton.1 hd]
        exact h
      · simp only [valueOf, List.foldl_cons, List.foldl_nil, Nat.zero_mul, Nat.zero_add]
      · intro h0
        exact Option.some.inj h0
    · have hn : radix ≤ n := Nat.le_of_not_lt h
      have hq : 0 < n / radix := Nat.div_pos hn (by omega)
      obtain ⟨ds, w⟩ := ih (n / radix) (Nat.div_lt_self (by omega) hr)
      refine ⟨ds ++ [n % radix], ?_, ?_, ?_, ?_⟩
      · rw [Nat.toDigits_of_base_le hr hn, w.text, List.map_append, List.map_singleton]
      · intro d hd
        rcases List.mem_append.1 hd with hd | hd
        · exact w.lt d hd
        · rw [List.mem_singleton.1 hd]
          exact Nat.mod_lt n (by omega)
      · have hv : valueOf radix (ds ++ [n % radix]) = valueOf radix ds * radix + n % radix := by
          simp only [valueOf, List.foldl_append, List.foldl_cons, List.foldl_nil]
        rw [hv, w.value, Nat.div_add_mod']
      · intro h0
        cases ds with
        | nil => exact absurd rfl w.ne_nil
        | cons d ds =>
          have hz := w.head h0
          omega

theorem spanDigits_append {radix : Nat} (hr : radix ≤ 16) {ds : List Nat} {rest : Rest}
    (hd : ∀ d ∈ ds, d < radix) (hs : Stops radix rest) :
    spanDigits radix (ds.map Nat.digitChar ++ rest) = (ds, rest) := by
  induction ds with
  | nil =>
    cases rest with
    | nil => rfl
    | cons c cs => rw [List.map_nil, List.nil_append, spanDigits, hs c rfl]
  | cons d ds ih =>
    have hds := ih fun x hx => hd x (List.mem_cons_of_mem _ hx)
    rw [List.map_cons, List.cons_append, spanDigits,
      digit?_digitChar hr (hd d List.mem_cons_self)]
    simp only [hds]

/-- A written number is read back, if it is below the bound and not too wide. -/
theorem readNumber?_toDigits {radix n bound : Nat} {width : Option Nat} {zero : Bool} {rest : Rest}
    (hr : 1 < radix) (hr' : radix ≤ 16) (hn : n < bound)
    (hw : ∀ w ∈ width, (Nat.toDigits radix n).length ≤ w) (hs : Stops radix rest) :
    readNumber? radix width zero bound (Nat.toDigits radix n ++ rest) = some (n, rest) := by
  obtain ⟨ds, w⟩ := exists_written hr n
  have hspan : spanDigits radix (Nat.toDigits radix n ++ rest) = (ds, rest) := by
    rw [w.text]
    exact spanDigits_append hr' w.lt hs
  have hlength : ds.length = (Nat.toDigits radix n).length := by
    rw [w.text, List.length_map]
  have hwidth : ¬ (ds = [] ∨ width.any (· < ds.length) = true) := by
    rintro (h | h)
    · exact w.ne_nil h
    · cases width with
      | none => cases h
      | some k =>
        have hle := hw k rfl
        have hlt : k < ds.length := of_decide_eq_true h
        omega
  -- a zero in front stands alone
  have hzero : ¬ ((!zero) = true ∧ 1 < ds.length ∧ ds.head? = some 0) := by
    rintro ⟨-, h1, h0⟩
    have hz := w.head h0
    have hone : (Nat.toDigits radix n).length = 1 := by
      rw [hz, Nat.toDigits_zero, List.length_singleton]
    omega
  simp only [readNumber?, hspan]
  rw [if_neg hwidth, if_neg hzero, w.value, if_pos hn]

theorem readNumber?_rest {radix n bound : Nat} {width : Option Nat} {zero : Bool} {cs rest : Rest}
    (h : readNumber? radix width zero bound cs = some (n, rest)) :
    rest = (spanDigits radix cs).2 := by
  simp only [readNumber?] at h
  split at h
  · cases h
  · split at h
    · cases h
    · split at h
      · cases h
        rfl
      · cases h

theorem readNumber?_of_stops {radix bound : Nat} {width : Option Nat} {zero : Bool} {cs : Rest}
    (h : Stops radix cs) : readNumber? radix width zero bound cs = none := by
  have hspan : spanDigits radix cs = ([], cs) := by
    cases cs with
    | nil => rfl
    | cons c cs => rw [spanDigits, h c rfl]
  simp only [readNumber?, hspan, true_or, if_true]

theorem readOctet?_decimal (b : UInt8) {rest : Rest} (hs : Stops 10 rest) :
    readOctet? (decimal b.toNat ++ rest) = some (b, rest) := by
  have hb : b.toNat < 256 := b.toNat_lt
  have hw : ∀ w ∈ some 3, (Nat.toDigits 10 b.toNat).length ≤ w := by
    intro w hw
    cases hw
    exact (Nat.length_toDigits_le_iff (by omega) (by omega)).2 (by omega)
  rw [readOctet?, decimal, readNumber?_toDigits (by omega) (by omega) hb hw hs]
  simp only [Option.map_some, UInt8.ofNat_toNat]

theorem readGroup?_toDigits (g : UInt16) {rest : Rest} (hs : Stops 16 rest) :
    readGroup? (Nat.toDigits 16 g.toNat ++ rest) = some (g, rest) := by
  have hg : g.toNat < 65536 := g.toNat_lt
  have hw : ∀ w ∈ some 4, (Nat.toDigits 16 g.toNat).length ≤ w := by
    intro w hw
    cases hw
    exact (Nat.length_toDigits_le_iff (by omega) (by omega)).2 (by omega)
  rw [readGroup?, readNumber?_toDigits (by omega) (by omega) hg hw hs]
  simp only [Option.map_some, UInt16.ofNat_toNat]

theorem readPort?_decimal (p : UInt16) {rest : Rest} (hs : Stops 10 rest) :
    readPort? (':' :: (decimal p.toNat ++ rest)) = some (p, rest) := by
  have hp : p.toNat < 65536 := p.toNat_lt
  have hw : ∀ w ∈ (none : Option Nat), (Nat.toDigits 10 p.toNat).length ≤ w := by
    intro w hw
    cases hw
  simp only [readPort?, readChar?, if_true, Option.bind_eq_bind, Option.bind_some, decimal]
  rw [readNumber?_toDigits (by omega) (by omega) hp hw hs]
  simp only [Option.map_some, UInt16.ofNat_toNat]

end SyscallBridge.AddressText
