import Mathlib.Tactic.IntervalCases
import SyscallBridge.Text.Utf8

/-!
# Decoding and encoding

The decoder against the encoding of characters. What it reports about any bytes accounts for all of
them, in order: each character for the bytes that encode it, each fault for one to three bytes.
The other way round, the encoding of a character is always read as that character. Together they
say that `decode?` accepts the encodings of texts and nothing else.
-/

namespace SyscallBridge

/-! ### Texts as bytes -/

theorem toList_loop (bytes : ByteArray) (i : Nat) (read : Bytes) :
    ByteArray.toList.loop bytes i read = read.reverse ++ bytes.data.toList.drop i := by
  fun_induction ByteArray.toList.loop bytes i read with
  | case1 i read hlt ih =>
    have hbyte : bytes.data.toList.drop i = bytes.get! i :: bytes.data.toList.drop (i + 1) := by
      rw [List.drop_eq_getElem_cons hlt]
      simp only [ByteArray.get!, Array.getElem_toList, getElem!_pos bytes.data i hlt]
    rw [ih, hbyte, List.reverse_cons, List.append_assoc, List.singleton_append]
  | case2 i read hge =>
    have hlength : bytes.data.toList.length ≤ i := Nat.le_of_not_lt hge
    rw [List.drop_eq_nil_of_le hlength, List.append_nil]

theorem utf8Bytes_eq (s : String) : utf8Bytes s = s.toList.flatMap String.utf8EncodeChar := by
  have hs : s.toUTF8 = (s.toList.flatMap String.utf8EncodeChar).toByteArray := by
    conv_lhs => rw [← String.ofList_toList (s := s)]
    exact String.toByteArray_ofList
  rw [utf8Bytes, hs, ByteArray.toList, toList_loop, List.drop_zero, List.toList_data_toByteArray]
  rfl

theorem utf8Bytes_ofList (cs : List Char) :
    utf8Bytes (String.ofList cs) = cs.flatMap String.utf8EncodeChar := by
  rw [utf8Bytes_eq, String.toList_ofList]

theorem length_utf8Bytes (s : String) : (utf8Bytes s).length = s.utf8ByteSize := by
  have hs : s.utf8ByteSize = (s.toList.flatMap String.utf8EncodeChar).length := by
    conv_lhs => rw [← String.ofList_toList (s := s)]
    rw [← String.size_toByteArray, String.toByteArray_ofList, List.utf8Encode,
      List.size_toByteArray]
  rw [utf8Bytes_eq, hs]

namespace Utf8

/-! ### The numbers of characters -/

theorem toNat_ofNat {n : Nat} (h : n.isValidChar) : (Char.ofNat n).toNat = n := by
  rw [Char.ofNat, dif_pos h]
  rfl

/-- A byte as the number that it is. -/
theorem eq_ofNat {b : UInt8} {n : Nat} (h : b.toNat = n) : b = UInt8.ofNat n := by
  rw [← h, UInt8.ofNat_toNat]

theorem encode_one {n : Nat} (h : n < 0x80) :
    String.utf8EncodeChar (Char.ofNat n) = [UInt8.ofNat n] := by
  have hn : (Char.ofNat n).val.toNat = n := toNat_ofNat (.inl (by omega))
  simp only [String.utf8EncodeChar, hn]
  rw [if_pos (by omega)]

theorem encode_two {q x : Nat} (hq : 2 ≤ q ∧ q < 32) (hx : x < 64) :
    String.utf8EncodeChar (Char.ofNat (q * 64 + x)) =
      [UInt8.ofNat (0xC0 + q), UInt8.ofNat (0x80 + x)] := by
  have hn : (Char.ofNat (q * 64 + x)).val.toNat = q * 64 + x := toNat_ofNat (.inl (by omega))
  have h₁ : (q * 64 + x) / 64 % 32 + 0xC0 = 0xC0 + q := by omega
  have h₂ : (q * 64 + x) % 64 + 0x80 = 0x80 + x := by omega
  simp only [String.utf8EncodeChar, hn]
  rw [if_neg (by omega), if_pos (by omega), h₁, h₂]

theorem encode_three {q x y : Nat} (hq : q < 16) (hx : x < 64) (hy : y < 64)
    (hlow : 32 ≤ q * 64 + x) (hsurrogate : ¬ (0x360 ≤ q * 64 + x ∧ q * 64 + x < 0x380)) :
    String.utf8EncodeChar (Char.ofNat ((q * 64 + x) * 64 + y)) =
      [UInt8.ofNat (0xE0 + q), UInt8.ofNat (0x80 + x), UInt8.ofNat (0x80 + y)] := by
  have hvalid : ((q * 64 + x) * 64 + y).isValidChar := by
    by_cases h : (q * 64 + x) * 64 + y < 0xD800
    · exact .inl h
    · exact .inr ⟨by omega, by omega⟩
  have hn : (Char.ofNat ((q * 64 + x) * 64 + y)).val.toNat = (q * 64 + x) * 64 + y :=
    toNat_ofNat hvalid
  have h₁ : ((q * 64 + x) * 64 + y) / 4096 % 16 + 0xE0 = 0xE0 + q := by omega
  have h₂ : ((q * 64 + x) * 64 + y) / 64 % 64 + 0x80 = 0x80 + x := by omega
  have h₃ : ((q * 64 + x) * 64 + y) % 64 + 0x80 = 0x80 + y := by omega
  simp only [String.utf8EncodeChar, hn]
  rw [if_neg (by omega), if_neg (by omega), if_pos (by omega), h₁, h₂, h₃]

theorem encode_four {q x y z : Nat} (hx : x < 64) (hy : y < 64) (hz : z < 64)
    (hlow : 16 ≤ q * 64 + x) (hhigh : q * 64 + x < 0x110) :
    String.utf8EncodeChar (Char.ofNat (((q * 64 + x) * 64 + y) * 64 + z)) =
      [UInt8.ofNat (0xF0 + q), UInt8.ofNat (0x80 + x), UInt8.ofNat (0x80 + y),
        UInt8.ofNat (0x80 + z)] := by
  have hn : (Char.ofNat (((q * 64 + x) * 64 + y) * 64 + z)).val.toNat =
      ((q * 64 + x) * 64 + y) * 64 + z := toNat_ofNat (.inr ⟨by omega, by omega⟩)
  have h₁ : (((q * 64 + x) * 64 + y) * 64 + z) / 262144 % 8 + 0xF0 = 0xF0 + q := by omega
  have h₂ : (((q * 64 + x) * 64 + y) * 64 + z) / 4096 % 64 + 0x80 = 0x80 + x := by omega
  have h₃ : (((q * 64 + x) * 64 + y) * 64 + z) / 64 % 64 + 0x80 = 0x80 + y := by omega
  have h₄ : (((q * 64 + x) * 64 + y) * 64 + z) % 64 + 0x80 = 0x80 + z := by omega
  simp only [String.utf8EncodeChar, hn]
  rw [if_neg (by omega), if_neg (by omega), if_neg (by omega), h₁, h₂, h₃, h₄]

/-! ### First bytes -/

theorem begin_one {n : Nat} (h : n < 0x80) :
    begin (UInt8.ofNat n) = ([some (Char.ofNat n)], .start) := by
  have hn : (UInt8.ofNat n).toNat = n := by
    rw [UInt8.toNat_ofNat']
    omega
  simp only [begin, hn]
  rw [if_pos (by omega)]

theorem begin_two {q : Nat} (hq : 2 ≤ q ∧ q < 32) :
    begin (UInt8.ofNat (0xC0 + q)) = ([], .inside 1 0x80 0xBF q) := by
  obtain ⟨hlow, hhigh⟩ := hq
  interval_cases q <;> rfl

theorem begin_three {q : Nat} (hq : q < 16) :
    begin (UInt8.ofNat (0xE0 + q)) =
      ([], .inside 2 (if q = 0 then 0xA0 else 0x80) (if q = 13 then 0x9F else 0xBF) q) := by
  interval_cases q <;> rfl

theorem begin_four {q : Nat} (hq : q < 5) :
    begin (UInt8.ofNat (0xF0 + q)) =
      ([], .inside 3 (if q = 0 then 0x90 else 0x80) (if q = 4 then 0x8F else 0xBF) q) := by
  interval_cases q <;> rfl

/-- Every byte is a character, the first of two, three or four bytes, or a fault. -/
theorem begin_cases (b : UInt8) :
    (∃ n, n < 0x80 ∧ b = UInt8.ofNat n) ∨ (∃ q, (2 ≤ q ∧ q < 32) ∧ b = UInt8.ofNat (0xC0 + q)) ∨
      (∃ q, q < 16 ∧ b = UInt8.ofNat (0xE0 + q)) ∨ (∃ q, q < 5 ∧ b = UInt8.ofNat (0xF0 + q)) ∨
      begin b = ([none], .start) := by
  have hb : b.toNat < 256 := b.toNat_lt
  by_cases h₁ : b.toNat < 0x80
  · exact .inl ⟨b.toNat, h₁, eq_ofNat rfl⟩
  by_cases h₂ : 0xC2 ≤ b.toNat ∧ b.toNat < 0xE0
  · exact .inr (.inl ⟨b.toNat - 0xC0, by omega, eq_ofNat (by omega)⟩)
  by_cases h₃ : 0xE0 ≤ b.toNat ∧ b.toNat < 0xF0
  · exact .inr (.inr (.inl ⟨b.toNat - 0xE0, by omega, eq_ofNat (by omega)⟩))
  by_cases h₄ : 0xF0 ≤ b.toNat ∧ b.toNat < 0xF5
  · exact .inr (.inr (.inr (.inl ⟨b.toNat - 0xF0, by omega, eq_ofNat (by omega)⟩)))
  · refine .inr (.inr (.inr (.inr ?_)))
    by_cases hlow : b.toNat < 0xC2
    · simp only [begin]
      rw [if_neg (by omega), if_pos hlow]
    · simp only [begin]
      rw [if_neg (by omega), if_neg hlow, if_neg (by omega), if_neg (by omega), if_neg (by omega),
        if_neg (by omega), if_neg (by omega), if_neg (by omega), if_neg (by omega)]

/-! ### From bytes to what is read -/

/-- Bytes as a row of characters, each in its encoding, and of faults of one to three bytes. -/
inductive Reads : Bytes → List Item → Prop where
  | nil : Reads [] []
  | char (c : Char) {bytes : Bytes} {items : List Item} (rest : Reads bytes items) :
    Reads (String.utf8EncodeChar c ++ bytes) (some c :: items)
  | fault {bad bytes : Bytes} {items : List Item} (some_ : bad ≠ []) (few : bad.length ≤ 3)
    (rest : Reads bytes items) : Reads (bad ++ bytes) (none :: items)

theorem Reads.append {bytes bytes' : Bytes} {items items' : List Item} (h : Reads bytes items)
    (h' : Reads bytes' items') : Reads (bytes ++ bytes') (items ++ items') := by
  induction h with
  | nil => exact h'
  | char c _ ih =>
    rw [List.append_assoc]
    exact .char c ih
  | fault some_ few _ ih =>
    rw [List.append_assoc]
    exact .fault some_ few ih

/-- However the `owed` bytes that are still to come are chosen, they make `held` the encoding of a
character, the one that the machine arrives at from `value`. -/
def Completes (held : Bytes) : Nat → Nat → Prop
  | 0, value => held = String.utf8EncodeChar (Char.ofNat value)
  | owed + 1, value => ∀ x < 64,
    Completes (held ++ [UInt8.ofNat (0x80 + x)]) owed (value * 64 + x)

/-- The bytes of the open character. -/
inductive Opens : Bytes → State → Prop where
  | start : Opens [] .start
  | inside {held : Bytes} {owed value : Nat} {low high : UInt8} (some_ : held ≠ [])
    (few : held.length + owed < 4) (tail : 0x80 ≤ low ∧ high ≤ 0xBF)
    (completes : ∀ x < 64, low ≤ UInt8.ofNat (0x80 + x) → UInt8.ofNat (0x80 + x) ≤ high →
      Completes (held ++ [UInt8.ofNat (0x80 + x)]) owed (value * 64 + x)) :
    Opens held (.inside (owed + 1) low high value)

theorem le_tail {x : Nat} (hx : x < 64) (low : UInt8) :
    low ≤ UInt8.ofNat (0x80 + x) ↔ low.toNat ≤ 0x80 + x := by
  rw [UInt8.le_iff_toNat_le, UInt8.toNat_ofNat', Nat.mod_eq_of_lt (by omega)]

theorem tail_le {x : Nat} (hx : x < 64) (high : UInt8) :
    UInt8.ofNat (0x80 + x) ≤ high ↔ 0x80 + x ≤ high.toNat := by
  rw [UInt8.le_iff_toNat_le, UInt8.toNat_ofNat', Nat.mod_eq_of_lt (by omega)]

theorem opens_two {q : Nat} (hq : 2 ≤ q ∧ q < 32) :
    Opens [UInt8.ofNat (0xC0 + q)] (.inside 1 0x80 0xBF q) :=
  .inside (List.cons_ne_nil _ _) (by simp) (by decide) fun _ hx _ _ => (encode_two hq hx).symm

theorem opens_three {q : Nat} (hq : q < 16) :
    Opens [UInt8.ofNat (0xE0 + q)]
      (.inside 2 (if q = 0 then 0xA0 else 0x80) (if q = 13 then 0x9F else 0xBF) q) := by
  refine .inside (List.cons_ne_nil _ _) (by simp) (by split <;> split <;> decide) ?_
  intro x hx hlow hhigh y hy
  rw [le_tail hx] at hlow
  rw [tail_le hx] at hhigh
  refine (encode_three hq hx hy ?_ ?_).symm
  · split at hlow
    · change 0xA0 ≤ 0x80 + x at hlow
      omega
    · omega
  · split at hhigh
    · change 0x80 + x ≤ 0x9F at hhigh
      omega
    · omega

theorem opens_four {q : Nat} (hq : q < 5) :
    Opens [UInt8.ofNat (0xF0 + q)]
      (.inside 3 (if q = 0 then 0x90 else 0x80) (if q = 4 then 0x8F else 0xBF) q) := by
  refine .inside (List.cons_ne_nil _ _) (by simp) (by split <;> split <;> decide) ?_
  intro x hx hlow hhigh y hy z hz
  rw [le_tail hx] at hlow
  rw [tail_le hx] at hhigh
  refine (encode_four hx hy hz ?_ ?_).symm
  · split at hlow
    · change 0x90 ≤ 0x80 + x at hlow
      omega
    · omega
  · split at hhigh
    · change 0x80 + x ≤ 0x8F at hhigh
      omega
    · omega

/-- What is read of `bytes`, and what stays open. -/
def Accounts (bytes : Bytes) (read : List Item × State) : Prop :=
  ∃ done held, bytes = done ++ held ∧ Reads done read.1 ∧ Opens held read.2

theorem accounts_begin (b : UInt8) : Accounts [b] (begin b) := by
  rcases begin_cases b with ⟨n, hn, rfl⟩ | ⟨q, hq, rfl⟩ | ⟨q, hq, rfl⟩ | ⟨q, hq, rfl⟩ | hbad
  · rw [begin_one hn]
    have hchar := Reads.char (Char.ofNat n) .nil
    rw [encode_one hn] at hchar
    exact ⟨_, [], rfl, hchar, .start⟩
  · rw [begin_two hq]
    exact ⟨[], _, rfl, .nil, opens_two hq⟩
  · rw [begin_three hq]
    exact ⟨[], _, rfl, .nil, opens_three hq⟩
  · rw [begin_four hq]
    exact ⟨[], _, rfl, .nil, opens_four hq⟩
  · rw [hbad]
    have hfault : Reads ([b] ++ []) [none] := .fault (List.cons_ne_nil _ _) (by simp) .nil
    exact ⟨[b], [], rfl, hfault, .start⟩

/-- A byte in the range of a continuation, as what it adds. -/
theorem exists_tail {b low high : UInt8} (htail : 0x80 ≤ low ∧ high ≤ 0xBF)
    (hb : low ≤ b ∧ b ≤ high) : ∃ x < 64, b = UInt8.ofNat (0x80 + x) ∧ b.toNat - 0x80 = x := by
  simp only [UInt8.le_iff_toNat_le] at htail hb
  change 0x80 ≤ low.toNat ∧ high.toNat ≤ 0xBF at htail
  exact ⟨b.toNat - 0x80, by omega, eq_ofNat (by omega), rfl⟩

/-- One byte: the bytes held with it are read, or go on being held. -/
theorem accounts_step {held : Bytes} {st : State} (h : Opens held st) (b : UInt8) :
    Accounts (held ++ [b]) (step st b) := by
  cases h with
  | start => exact accounts_begin b
  | @inside _ owed value low high some_ few tail completes =>
    by_cases hb : low ≤ b ∧ b ≤ high
    · obtain ⟨x, hx, rfl, hvalue⟩ := exists_tail tail hb
      have hnext := completes x hx hb.1 hb.2
      simp only [step, if_pos hb, hvalue]
      cases owed with
      | zero =>
        have hchar := Reads.char (Char.ofNat (value * 64 + x)) .nil
        rw [← hnext, List.append_nil] at hchar
        exact ⟨_, [], (List.append_nil _).symm, hchar, .start⟩
      | succ owed =>
        have hfew : (held ++ [UInt8.ofNat (0x80 + x)]).length + owed < 4 := by
          rw [List.length_append, List.length_singleton]
          omega
        rw [if_neg (by omega)]
        exact ⟨[], _, rfl, .nil, .inside (by simp) hfew (by decide) fun y hy _ _ => hnext y hy⟩
    · simp only [step, if_neg hb]
      obtain ⟨done, held', hbytes, hdone, hheld⟩ := accounts_begin b
      refine ⟨held ++ done, held', ?_, .fault some_ (by omega) hdone, hheld⟩
      rw [hbytes, List.append_assoc]

theorem scan_cons (st : State) (b : UInt8) (bytes : Bytes) :
    scan st (b :: bytes) = (step st b).1 ++ scan (step st b).2 bytes := by
  cases st <;> rfl

theorem reads_scan_of_opens {held : Bytes} {st : State} (h : Opens held st) (bytes : Bytes) :
    Reads (held ++ bytes) (scan st bytes) := by
  induction bytes generalizing held st with
  | nil =>
    cases h with
    | start => exact .nil
    | inside some_ few _ _ => exact .fault some_ (by omega) .nil
  | cons b bytes ih =>
    obtain ⟨done, held', hbytes, hdone, hheld⟩ := accounts_step h b
    have hsplit : held ++ b :: bytes = done ++ (held' ++ bytes) := by
      rw [← List.singleton_append, ← List.append_assoc, hbytes, List.append_assoc]
    rw [scan_cons, hsplit]
    exact hdone.append (ih hheld)

theorem reads_scan (bytes : Bytes) : Reads bytes (scan .start bytes) :=
  reads_scan_of_opens .start bytes

/-! ### From characters to what is read -/

theorem scan_tail {x : Nat} (hx : x < 64) {low high : UInt8} (hlow : low.toNat ≤ 0x80 + x)
    (hhigh : 0x80 + x ≤ high.toNat) (owed value : Nat) (rest : Bytes) :
    scan (.inside (owed + 2) low high value) (UInt8.ofNat (0x80 + x) :: rest) =
      scan (.inside (owed + 1) 0x80 0xBF (value * 64 + x)) rest := by
  have hvalue : (UInt8.ofNat (0x80 + x)).toNat - 0x80 = x := by
    rw [UInt8.toNat_ofNat']
    omega
  simp only [scan_cons, step, le_tail hx, tail_le hx, hlow, hhigh, and_self, if_true, hvalue]
  rw [if_neg (by omega)]
  rfl

theorem scan_last {x : Nat} (hx : x < 64) {low high : UInt8} (hlow : low.toNat ≤ 0x80 + x)
    (hhigh : 0x80 + x ≤ high.toNat) (value : Nat) (rest : Bytes) :
    scan (.inside 1 low high value) (UInt8.ofNat (0x80 + x) :: rest) =
      some (Char.ofNat (value * 64 + x)) :: scan .start rest := by
  have hvalue : (UInt8.ofNat (0x80 + x)).toNat - 0x80 = x := by
    rw [UInt8.toNat_ofNat']
    omega
  simp only [scan_cons, step, le_tail hx, tail_le hx, hlow, hhigh, and_self, if_true, hvalue]
  rfl

theorem le_top {x : Nat} (hx : x < 64) : 0x80 + x ≤ (0xBF : UInt8).toNat := by
  change 0x80 + x ≤ 0xBF
  omega

theorem scan_two {q x : Nat} (hq : 2 ≤ q ∧ q < 32) (hx : x < 64) (rest : Bytes) :
    scan .start (UInt8.ofNat (0xC0 + q) :: UInt8.ofNat (0x80 + x) :: rest) =
      some (Char.ofNat (q * 64 + x)) :: scan .start rest := by
  rw [scan_cons, step, begin_two hq, List.nil_append]
  exact scan_last hx (Nat.le_add_right _ _) (le_top hx) _ _

theorem scan_three {q x y : Nat} (hq : q < 16) (hx : x < 64) (hy : y < 64)
    (hlow : 32 ≤ q * 64 + x) (hsurrogate : ¬ (0x360 ≤ q * 64 + x ∧ q * 64 + x < 0x380))
    (rest : Bytes) :
    scan .start (UInt8.ofNat (0xE0 + q) :: UInt8.ofNat (0x80 + x) :: UInt8.ofNat (0x80 + y) ::
      rest) = some (Char.ofNat ((q * 64 + x) * 64 + y)) :: scan .start rest := by
  have hsecond : (if q = 0 then 0xA0 else 0x80 : UInt8).toNat ≤ 0x80 + x := by
    split
    · change 0xA0 ≤ 0x80 + x
      omega
    · exact Nat.le_add_right _ _
  have hsecond' : 0x80 + x ≤ (if q = 13 then 0x9F else 0xBF : UInt8).toNat := by
    split
    · change 0x80 + x ≤ 0x9F
      omega
    · exact le_top hx
  rw [scan_cons, step, begin_three hq, List.nil_append, scan_tail hx hsecond hsecond']
  exact scan_last hy (Nat.le_add_right _ _) (le_top hy) _ _

theorem scan_four {q x y z : Nat} (hq : q < 5) (hx : x < 64) (hy : y < 64) (hz : z < 64)
    (hlow : 16 ≤ q * 64 + x) (hhigh : q * 64 + x < 0x110) (rest : Bytes) :
    scan .start (UInt8.ofNat (0xF0 + q) :: UInt8.ofNat (0x80 + x) :: UInt8.ofNat (0x80 + y) ::
      UInt8.ofNat (0x80 + z) :: rest) =
      some (Char.ofNat (((q * 64 + x) * 64 + y) * 64 + z)) :: scan .start rest := by
  have hsecond : (if q = 0 then 0x90 else 0x80 : UInt8).toNat ≤ 0x80 + x := by
    split
    · change 0x90 ≤ 0x80 + x
      omega
    · exact Nat.le_add_right _ _
  have hsecond' : 0x80 + x ≤ (if q = 4 then 0x8F else 0xBF : UInt8).toNat := by
    split
    · change 0x80 + x ≤ 0x8F
      omega
    · exact le_top hx
  rw [scan_cons, step, begin_four hq, List.nil_append, scan_tail hx hsecond hsecond',
    scan_tail hy (Nat.le_add_right _ _) (le_top hy)]
  exact scan_last hz (Nat.le_add_right _ _) (le_top hz) _ _

/-- The encoding of a character is read as that character. -/
theorem scan_encode (c : Char) (rest : Bytes) :
    scan .start (String.utf8EncodeChar c ++ rest) = some c :: scan .start rest := by
  obtain ⟨n, hvalid, rfl⟩ : ∃ n, n.isValidChar ∧ c = Char.ofNat n :=
    ⟨c.toNat, c.valid, (Char.ofNat_toNat c).symm⟩
  -- by the number of bytes, the number taken apart into what each of them holds
  by_cases h₁ : n < 0x80
  · rw [encode_one h₁, List.singleton_append, scan_cons, step, begin_one h₁]
    rfl
  by_cases h₂ : n < 0x800
  · obtain ⟨q, x, hq, hx, rfl⟩ : ∃ q x, (2 ≤ q ∧ q < 32) ∧ x < 64 ∧ n = q * 64 + x :=
      ⟨n / 64, n % 64, by omega, by omega, by omega⟩
    rw [encode_two hq hx]
    exact scan_two hq hx rest
  by_cases h₃ : n < 0x10000
  · obtain ⟨q, x, y, hq, hx, hy, rfl⟩ : ∃ q x y, q < 16 ∧ x < 64 ∧ y < 64 ∧
        n = (q * 64 + x) * 64 + y :=
      ⟨n / 4096, n / 64 % 64, n % 64, by omega, by omega, by omega, by omega⟩
    have hlow : 32 ≤ q * 64 + x := by omega
    have hsurrogate : ¬ (0x360 ≤ q * 64 + x ∧ q * 64 + x < 0x380) := by
      rcases hvalid with h | h <;> omega
    rw [encode_three hq hx hy hlow hsurrogate]
    exact scan_three hq hx hy hlow hsurrogate rest
  · have hn : n < 0x110000 := by
      rcases hvalid with h | h <;> omega
    obtain ⟨q, x, y, z, hq, hx, hy, hz, rfl⟩ : ∃ q x y z, q < 5 ∧ x < 64 ∧ y < 64 ∧ z < 64 ∧
        n = ((q * 64 + x) * 64 + y) * 64 + z :=
      ⟨n / 262144, n / 4096 % 64, n / 64 % 64, n % 64, by omega, by omega, by omega, by omega,
        by omega⟩
    have hlow : 16 ≤ q * 64 + x := by omega
    have hhigh : q * 64 + x < 0x110 := by omega
    rw [encode_four hx hy hz hlow hhigh]
    exact scan_four hq hx hy hz hlow hhigh rest

theorem scan_utf8Bytes (s : String) : scan .start (utf8Bytes s) = s.toList.map some := by
  rw [utf8Bytes_eq]
  induction s.toList with
  | nil => rfl
  | cons c cs ih => rw [List.flatMap_cons, scan_encode, ih, List.map_cons]

/-- Without faults the bytes are the encodings of the characters. -/
theorem Reads.eq_flatMap {bytes : Bytes} {cs : List Char} (h : Reads bytes (cs.map some)) :
    bytes = cs.flatMap String.utf8EncodeChar := by
  generalize hitems : cs.map some = items at h
  induction h generalizing cs with
  | nil => rw [List.map_eq_nil_iff.1 hitems, List.flatMap_nil]
  | char c _ ih =>
    obtain ⟨c', cs', rfl, hc, hcs⟩ := List.map_eq_cons_iff.1 hitems
    rw [List.flatMap_cons, Option.some.inj hc, ← ih hcs]
  | fault some_ few _ ih =>
    obtain ⟨c', cs', -, hc, -⟩ := List.map_eq_cons_iff.1 hitems
    cases hc

theorem mapM_id_eq_some_iff {items : List Item} {cs : List Char} :
    items.mapM id = some cs ↔ items = cs.map some := by
  induction items generalizing cs with
  | nil => cases cs <;> simp
  | cons i items ih =>
    cases i with
    | none => cases cs <;> simp
    | some c =>
      have hcons : (some c :: items).mapM id = (items.mapM id).map (c :: ·) := by
        rw [List.mapM_cons]
        cases items.mapM id <;> rfl
      rw [hcons, Option.map_eq_some_iff]
      constructor
      · rintro ⟨cs, hcs, rfl⟩
        rw [ih.1 hcs, List.map_cons]
      · intro h
        obtain ⟨c', cs, rfl, hc, hcs⟩ := List.map_eq_cons_iff.1 h.symm
        exact ⟨cs, ih.2 hcs.symm, by rw [Option.some.inj hc]⟩

/-- The decoder accepts what encodes a text, and answers that text. -/
theorem decode?_eq_some_iff {bytes : Bytes} {s : String} :
    decode? bytes = some s ↔ bytes = utf8Bytes s := by
  rw [decode?, Option.map_eq_some_iff]
  constructor
  · rintro ⟨cs, hcs, rfl⟩
    have hreads := reads_scan bytes
    rw [mapM_id_eq_some_iff.1 hcs] at hreads
    rw [hreads.eq_flatMap, utf8Bytes_ofList]
  · rintro rfl
    exact ⟨s.toList, mapM_id_eq_some_iff.2 (scan_utf8Bytes s), String.ofList_toList⟩

theorem decodeLossy_utf8Bytes (s : String) : decodeLossy (utf8Bytes s) = s := by
  rw [decodeLossy, scan_utf8Bytes, List.map_map]
  exact (congrArg String.ofList (List.map_id _)).trans String.ofList_toList

theorem eq_map_some {items : List Item} (h : none ∉ items) :
    items = (items.filterMap id).map some := by
  induction items with
  | nil => rfl
  | cons i items ih =>
    rw [List.mem_cons, not_or] at h
    cases i with
    | none => exact absurd rfl h.1
    | some c => exact congrArg (some c :: ·) (ih h.2)

/-- Bytes in which no fault is found are those of a text. -/
theorem not_mem_scan_iff {bytes : Bytes} :
    none ∉ scan .start bytes ↔ ∃ s, bytes = utf8Bytes s := by
  constructor
  · intro h
    have hreads := reads_scan bytes
    rw [eq_map_some h] at hreads
    exact ⟨String.ofList _, by rw [utf8Bytes_ofList, ← hreads.eq_flatMap]⟩
  · rintro ⟨s, rfl⟩
    rw [scan_utf8Bytes]
    simp

theorem utf8Bytes_injective {s t : String} (h : utf8Bytes s = utf8Bytes t) : s = t := by
  rw [← decodeLossy_utf8Bytes s, h, decodeLossy_utf8Bytes]

/-! ### Newlines -/

theorem newline_mem_encode {c : Char} (h : (10 : UInt8) ∈ String.utf8EncodeChar c) : c = '\n' := by
  have hbyte : ∀ n, (10 : UInt8) = UInt8.ofNat n → n % 256 = 10 := by
    intro n hn
    have hnat := congrArg UInt8.toNat hn
    rw [UInt8.toNat_ofNat'] at hnat
    exact hnat.symm
  -- only a character of one byte has a byte below 0x80
  simp only [String.utf8EncodeChar] at h
  split at h
  · have hn := hbyte _ (List.mem_singleton.1 h)
    rw [← Char.ofNat_toNat c, show c.toNat = 10 from (by change c.val.toNat = 10; omega)]
  · split at h
    · simp only [List.mem_cons, List.not_mem_nil, or_false] at h
      rcases h with h | h <;> (have hn := hbyte _ h; omega)
    · split at h
      · simp only [List.mem_cons, List.not_mem_nil, or_false] at h
        rcases h with h | h | h <;> (have hn := hbyte _ h; omega)
      · simp only [List.mem_cons, List.not_mem_nil, or_false] at h
        rcases h with h | h | h | h <;> (have hn := hbyte _ h; omega)

/-- Without the newlines of its bytes a text is without its newlines. -/
theorem filter_utf8Bytes (s : String) :
    (utf8Bytes s).filter (· ≠ 10) = utf8Bytes (String.ofList (s.toList.filter (· ≠ '\n'))) := by
  rw [utf8Bytes_eq, utf8Bytes_ofList]
  induction s.toList with
  | nil => rfl
  | cons c cs ih =>
    rw [List.flatMap_cons, List.filter_append, ih, List.filter_cons]
    by_cases hc : c = '\n'
    · subst hc
      rfl
    · have hkept : (String.utf8EncodeChar c).filter (· ≠ 10) = String.utf8EncodeChar c := by
        rw [List.filter_eq_self]
        intro b hb
        rw [decide_eq_true_iff]
        rintro rfl
        exact hc (newline_mem_encode hb)
      rw [hkept, if_pos (decide_eq_true hc), List.flatMap_cons]

/-! ### The size of what is read -/

/-- The character that an item is shown as. -/
def shown (i : Item) : Char := i.getD (Char.ofNat 0xFFFD)

theorem toList_decodeLossy (bytes : Bytes) :
    (decodeLossy bytes).toList = (scan .start bytes).map shown := String.toList_ofList

theorem Reads.length_le {bytes : Bytes} {items : List Item} (h : Reads bytes items) :
    items.length ≤ bytes.length := by
  induction h with
  | nil => exact Nat.le_refl _
  | char c _ ih =>
    have hc := List.length_pos_iff.2 (String.utf8EncodeChar_ne_nil (c := c))
    rw [List.length_append, List.length_cons]
    omega
  | fault some_ few _ ih =>
    have hbad := List.length_pos_iff.2 some_
    rw [List.length_append, List.length_cons]
    omega

/-- A character is shown in the bytes it was read from, a fault in three. -/
theorem Reads.length_shown {bytes : Bytes} {items : List Item} (h : Reads bytes items) :
    ((items.map shown).flatMap String.utf8EncodeChar).length ≤
      bytes.length + 2 * items.count none := by
  induction h with
  | nil => exact Nat.zero_le _
  | char c _ ih =>
    rw [List.map_cons, List.flatMap_cons, List.length_append, List.length_append,
      List.count_cons_of_ne (by simp)]
    change (String.utf8EncodeChar c).length + _ ≤ _
    omega
  | fault some_ few _ ih =>
    have hbad := List.length_pos_iff.2 some_
    have hshown : (String.utf8EncodeChar (shown none)).length = 3 := rfl
    rw [List.map_cons, List.flatMap_cons, List.length_append, List.length_append, hshown,
      List.count_cons_self]
    omega

theorem length_decodeLossy_le (bytes : Bytes) :
    (decodeLossy bytes).toList.length ≤ bytes.length := by
  rw [toList_decodeLossy, List.length_map]
  exact (reads_scan bytes).length_le

/-- A decoded text is longer than the bytes it was read from by two bytes at most for each
replacement character in it. -/
theorem size_decodeLossy_le (bytes : Bytes) : (decodeLossy bytes).utf8ByteSize ≤
    bytes.length + 2 * (decodeLossy bytes).toList.count '\uFFFD' := by
  have hsize : (decodeLossy bytes).utf8ByteSize =
      (((scan .start bytes).map shown).flatMap String.utf8EncodeChar).length := by
    rw [← length_utf8Bytes, utf8Bytes_eq, toList_decodeLossy]
  have hcount : (scan .start bytes).count none ≤ ((scan .start bytes).map shown).count '\uFFFD' :=
    List.count_le_count_map (f := shown) (x := none)
  have hshown := (reads_scan bytes).length_shown
  rw [hsize, toList_decodeLossy]
  omega

end Utf8

end SyscallBridge
