import Mathlib.Data.List.Basic
import SyscallBridge.Proofs.Text.Utf8

/-!
# Decoding in pieces

Bytes that are cut into pieces, each of which is decoded on its own. A cut inside a character puts
a fault in front of the cut, and the bytes of that character that stand behind it are faults too;
from there on both readings are the same. So the pieces of a text give back the text exactly when
each piece is a text, and what they give otherwise has faults in the place of characters and
nothing else that the text does not have.
-/

namespace SyscallBridge.Utf8

/-- What is read of bytes that go on, and where that ends. -/
def readAll (st : State) : Bytes → List Item × State
  | [] => ([], st)
  | b :: bytes =>
    let (items, next) := step st b
    let (more, last) := readAll next bytes
    (items ++ more, last)

theorem scan_append (st : State) (a b : Bytes) :
    scan st (a ++ b) = (readAll st a).1 ++ scan (readAll st a).2 b := by
  induction a generalizing st with
  | nil => rfl
  | cons x a ih =>
    rw [List.cons_append, scan_cons, ih]
    exact (List.append_assoc _ _ _).symm

theorem accounts_readAll {held : Bytes} {st : State} (h : Opens held st) (bytes : Bytes) :
    Accounts (held ++ bytes) (readAll st bytes) := by
  induction bytes generalizing held st with
  | nil => exact ⟨[], held, List.append_nil held, .nil, h⟩
  | cons b bytes ih =>
    obtain ⟨done, held', hbytes, hdone, hheld⟩ := accounts_step h b
    obtain ⟨done', held'', hrest, hdone', hheld'⟩ := ih hheld
    refine ⟨done ++ done', held'', ?_, hdone.append hdone', hheld'⟩
    rw [← List.singleton_append, ← List.append_assoc, hbytes, List.append_assoc, hrest,
      List.append_assoc]

/-- A continuation byte starts nothing. -/
theorem begin_tail {x : Nat} (hx : x < 64) :
    begin (UInt8.ofNat (0x80 + x)) = ([none], .start) := by
  have hn : (UInt8.ofNat (0x80 + x)).toNat = 0x80 + x := by
    rw [UInt8.toNat_ofNat']
    omega
  simp only [begin, hn]
  rw [if_neg (by omega), if_pos (by omega)]

/-- An open character ends in one item. Read without what stands in front of them, its bytes are
faults, one at least if it was read to its end; what follows is the same. -/
theorem scan_open (owed value : Nat) {low high : UInt8} (tail : 0x80 ≤ low ∧ high ≤ 0xBF)
    (bytes : Bytes) : ∃ item faults rest, scan (.inside owed low high value) bytes = item :: rest ∧
      scan .start bytes = List.replicate faults none ++ rest ∧ (item = none ∨ 1 ≤ faults) := by
  induction bytes generalizing owed value low high with
  | nil => exact ⟨none, 0, [], rfl, rfl, .inl rfl⟩
  | cons b bytes ih =>
    by_cases hb : low ≤ b ∧ b ≤ high
    · obtain ⟨x, hx, rfl, -⟩ := exists_tail tail hb
      have hafresh : scan .start (UInt8.ofNat (0x80 + x) :: bytes) = none :: scan .start bytes := by
        rw [scan_cons, step, begin_tail hx]
        rfl
      simp only [hafresh, scan_cons, step, if_pos hb]
      by_cases howed : owed ≤ 1
      · rw [if_pos howed]
        exact ⟨_, 1, scan .start bytes, rfl, rfl, .inr (Nat.le_refl 1)⟩
      · rw [if_neg howed]
        obtain ⟨item, faults, rest, hopen, hstart, -⟩ :=
          ih (owed - 1) (value * 64 + ((UInt8.ofNat (0x80 + x)).toNat - 0x80))
            (show (0x80 : UInt8) ≤ 0x80 ∧ (0xBF : UInt8) ≤ 0xBF by decide)
        refine ⟨item, faults + 1, rest, hopen, ?_, .inr (Nat.le_add_left 1 faults)⟩
        rw [hstart, List.replicate_succ, List.cons_append]
    · refine ⟨none, 0, scan .start (b :: bytes), ?_, rfl, .inl rfl⟩
      simp only [scan_cons, step, if_neg hb]
      rfl

/-- What a cut does: nothing between two characters, and inside one it puts faults in the place of
the item that the character gives. -/
inductive Cut (whole left right : List Item) : Prop where
  | between (same : whole = left ++ right)
  | inside (before rest : List Item) (item : Item) (faults : Nat)
    (whole_eq : whole = before ++ item :: rest) (left_eq : left = before ++ [none])
    (right_eq : right = List.replicate faults none ++ rest) (ends : item = none ∨ 1 ≤ faults)

theorem cut_scan (a b : Bytes) : Cut (scan .start (a ++ b)) (scan .start a) (scan .start b) := by
  have hleft := scan_append .start a []
  rw [List.append_nil] at hleft
  obtain ⟨done, held, -, -, hheld⟩ := accounts_readAll .start a
  rw [scan_append, hleft]
  cases hst : (readAll .start a).2 with
  | start =>
    refine .between ?_
    rw [show scan .start [] = [] from rfl, List.append_nil]
  | inside owed low high value =>
    rw [hst] at hheld
    cases hheld with
    | inside _ _ tail _ =>
      obtain ⟨item, faults, rest, hopen, hstart, hends⟩ := scan_open _ _ tail b
      exact .inside _ rest item faults (congrArg _ hopen) rfl hstart hends

namespace Cut

variable {whole left right : List Item}

theorem length_le (h : Cut whole left right) : whole.length ≤ left.length + right.length := by
  cases h with
  | between same => rw [same, List.length_append]
  | inside before rest item faults whole_eq left_eq right_eq ends =>
    rw [whole_eq, left_eq, right_eq]
    simp only [List.length_append, List.length_cons, List.length_nil, List.length_replicate]
    omega

/-- A cut between characters is seen from the number of items. -/
theorem eq_append (h : Cut whole left right) (hwhole : none ∉ whole)
    (hlength : whole.length = left.length + right.length) : whole = left ++ right := by
  cases h with
  | between same => exact same
  | inside before rest item faults whole_eq left_eq right_eq ends =>
    rw [whole_eq, left_eq, right_eq] at hlength
    simp only [List.length_append, List.length_cons, List.length_nil,
      List.length_replicate] at hlength
    rcases ends with rfl | hfaults
    · exact absurd (by simp [whole_eq]) hwhole
    · omega

theorem sublist (h : Cut whole left right) :
    ((left ++ right).filterMap id).Sublist (whole.filterMap id) := by
  cases h with
  | between same =>
    subst same
    exact List.Sublist.refl _
  | inside before rest item faults whole_eq left_eq right_eq ends =>
    have hfaults : (List.replicate faults (none : Item)).filterMap id = [] := by
      rw [List.filterMap_replicate_of_none rfl]
    have hrest : (rest.filterMap id).Sublist ((item :: rest).filterMap id) :=
      (List.sublist_cons_self item rest).filterMap id
    rw [whole_eq, left_eq, right_eq]
    simp only [List.filterMap_append, hfaults, List.nil_append]
    rw [show [(none : Item)].filterMap id = [] from rfl, List.append_nil]
    exact hrest.append_left _

end Cut

/-! ### Any number of pieces -/

theorem length_scan_flatten_le (pieces : List Bytes) :
    (scan .start pieces.flatten).length ≤ (pieces.flatMap (scan .start)).length := by
  induction pieces with
  | nil => exact Nat.le_refl _
  | cons p pieces ih =>
    have hcut := (cut_scan p pieces.flatten).length_le
    rw [List.flatten_cons, List.flatMap_cons, List.length_append]
    omega

theorem sublist_scan_flatten (pieces : List Bytes) :
    ((pieces.flatMap (scan .start)).filterMap id).Sublist
      ((scan .start pieces.flatten).filterMap id) := by
  induction pieces with
  | nil => exact List.Sublist.refl _
  | cons p pieces ih =>
    refine List.Sublist.trans ?_ (cut_scan p pieces.flatten).sublist
    rw [List.flatMap_cons, List.filterMap_append, List.filterMap_append]
    exact ih.append_left _

/-- If the pieces of a text have as many items as the text, no piece has a fault. -/
theorem not_mem_of_length_eq {pieces : List Bytes} (hwhole : none ∉ scan .start pieces.flatten)
    (hlength : (scan .start pieces.flatten).length = (pieces.flatMap (scan .start)).length) :
    ∀ p ∈ pieces, none ∉ scan .start p := by
  induction pieces with
  | nil =>
    intro p hp
    cases hp
  | cons p pieces ih =>
    have hcut := cut_scan p pieces.flatten
    have hle := hcut.length_le
    have hrest := length_scan_flatten_le pieces
    rw [List.flatten_cons] at hwhole
    rw [List.flatten_cons, List.flatMap_cons, List.length_append] at hlength
    have heq := hcut.eq_append hwhole (by omega)
    rw [heq, List.mem_append, not_or] at hwhole
    intro q hq
    rcases List.mem_cons.1 hq with rfl | hq
    · exact hwhole.1
    · exact ih hwhole.2 (by omega) q hq

/-- The pieces of a text, decoded one by one, are the text exactly when each of them is a text. -/
theorem flatMap_decodeLossy_eq_iff {pieces : List Bytes} {s : String}
    (h : pieces.flatten = utf8Bytes s) :
    (pieces.flatMap fun p => (decodeLossy p).toList) = s.toList ↔
      ∀ p ∈ pieces, ∃ t, p = utf8Bytes t := by
  constructor
  · intro heq p hp
    have hwhole : none ∉ scan .start pieces.flatten := not_mem_scan_iff.2 ⟨s, h⟩
    have hitems : (pieces.flatMap (scan .start)).length = s.toList.length := by
      rw [← heq]
      simp only [toList_decodeLossy, List.length_flatMap, List.length_map]
    have hlength : (scan .start pieces.flatten).length =
        (pieces.flatMap (scan .start)).length := by
      rw [hitems, h, scan_utf8Bytes, List.length_map]
    exact not_mem_scan_iff.1 (not_mem_of_length_eq hwhole hlength p hp)
  · intro htexts
    have hbytes : utf8Bytes (String.ofList (pieces.flatMap fun p => (decodeLossy p).toList)) =
        pieces.flatten := by
      rw [utf8Bytes_ofList, List.flatMap_assoc, List.flatten_eq_flatMap]
      refine List.flatMap_congr fun p hp => ?_
      obtain ⟨t, rfl⟩ := htexts p hp
      rw [decodeLossy_utf8Bytes, ← utf8Bytes_eq, id]
    rw [← utf8Bytes_injective (hbytes.trans h), String.toList_ofList]

/-- Replacement characters apart, the pieces of a text have no character that the text does not
have, in its order. -/
theorem sublist_decodeLossy {pieces : List Bytes} {s : String} (h : pieces.flatten = utf8Bytes s) :
    ((pieces.flatMap fun p => (decodeLossy p).toList).filter (· ≠ '\uFFFD')).Sublist s.toList := by
  have hshown : ∀ items : List Item, ((items.map shown).filter (· ≠ '\uFFFD')).Sublist
      (items.filterMap id) := by
    intro items
    induction items with
    | nil => exact List.Sublist.refl _
    | cons i items ih =>
      cases i with
      | none => exact ih
      | some c =>
        rw [List.map_cons, List.filter_cons]
        split
        · exact ih.cons_cons c
        · exact ih.cons c
  have hitems : (pieces.flatMap fun p => (decodeLossy p).toList) =
      (pieces.flatMap (scan .start)).map shown := by
    rw [List.map_flatMap]
    exact List.flatMap_congr fun p _ => toList_decodeLossy p
  have hkept := sublist_scan_flatten pieces
  rw [h, scan_utf8Bytes, List.filterMap_map] at hkept
  rw [hitems]
  rw [Function.id_comp, List.filterMap_some] at hkept
  exact (hshown _).trans hkept

end SyscallBridge.Utf8
