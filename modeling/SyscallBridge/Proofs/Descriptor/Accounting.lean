import Mathlib.Data.List.Perm.Basic
import SyscallBridge.Descriptor.Table

/-!
# Counting references

A record counts the slots that refer to it. While a call runs it may hold one more reference in
its hand: it takes a reference, puts it into a slot, and then holds what stood in the slot before.
Slots and hand together always agree with the counters, and a call ends with an empty hand.
-/

namespace SyscallBridge.DescriptorTable

variable {φ : Type} {t t' : DescriptorTable φ}

/-! ### Slots -/

/-- As if there were empty slots up to that one. -/
theorem putSlot_eq_set (slots : List (Option Nat)) (fd : Nat) (v : Option Nat) :
    putSlot slots fd v = (slots ++ List.replicate (fd + 1 - slots.length) none).set fd v := by
  unfold putSlot
  split
  · next h =>
    have hpad : fd + 1 - slots.length = 0 := by omega
    rw [hpad, List.replicate_zero, List.append_nil]
  · next h =>
    have hpad : fd + 1 - slots.length = (fd - slots.length) + 1 := by omega
    rw [List.set_append_right _ _ (Nat.le_of_not_lt h), hpad, List.replicate_succ']
    rw [List.set_append_right _ _ (Nat.le_of_eq List.length_replicate), List.length_replicate,
      Nat.sub_self, List.set_cons_zero]

/-- What is put into a slot comes in exchange for what stood there. -/
theorem count_putSlot (slots : List (Option Nat)) (fd : Nat) (v : Option Nat) (r : Nat) :
    ((slots[fd]?).join :: putSlot slots fd v).count (some r) = (v :: slots).count (some r) := by
  set padded := slots ++ List.replicate (fd + 1 - slots.length) none with hpadded
  have hfd : fd < padded.length := by
    simp only [hpadded, List.length_append, List.length_replicate]
    omega
  have hold : (slots[fd]?).join = padded[fd] := by
    by_cases h : fd < slots.length
    · simp [hpadded, h]
    · simp [hpadded, h, List.getElem_append_right (Nat.le_of_not_lt h)]
  have hperm : (padded[fd] :: padded.set fd v).Perm (v :: padded) := by
    refine ((List.set_perm_cons_eraseIdx hfd v).cons _).trans ?_
    refine (List.Perm.swap _ _ _).trans ?_
    exact (List.getElem_cons_eraseIdx_perm hfd).cons v
  have hcount : padded.count (some r) = slots.count (some r) := by
    simp [hpadded, List.count_append, List.count_replicate]
  rw [hold, putSlot_eq_set, ← hpadded, hperm.count_eq, List.count_cons, List.count_cons, hcount]

/-- A slot that exists needs no empty slots in front of it. -/
theorem putSlot_of_lt {slots : List (Option Nat)} {fd : Nat} (h : fd < slots.length)
    (v : Option Nat) : putSlot slots fd v = slots.set fd v := by
  rw [putSlot, if_pos h]

/-- The table with something else in a slot. -/
def withSlot (t : DescriptorTable φ) (fd : Nat) (v : Option Nat) : DescriptorTable φ :=
  { t with slots := putSlot t.slots fd v }

/-- The lowest free slot is empty, or behind all others. -/
theorem join_lowestFree (slots : List (Option Nat)) : (slots[lowestFree slots]?).join = none := by
  by_cases h : lowestFree slots < slots.length
  · have hfree : (slots[lowestFree slots]).isNone = true := List.findIdx_getElem (w := h)
    rw [List.getElem?_eq_getElem h]
    exact Option.isNone_iff_eq_none.mp hfree
  · rw [List.getElem?_eq_none (Nat.le_of_not_lt h)]
    rfl

theorem recordId?_place (t : DescriptorTable φ) (r : Nat) :
    (t.place r).2.recordId? (t.place r).1 = some r := by
  simp only [place, recordId?, putSlot_eq_set]
  rw [List.getElem?_set_self]
  · rfl
  · rw [List.length_append, List.length_replicate]
    omega

/-- A new descriptor is one of the file it was made for. -/
theorem lookup_allocate (t : DescriptorTable φ) (file : φ) :
    (t.allocate file).2.lookup (t.allocate file).1 = .ok file := by
  unfold allocate lookup
  rw [recordId?_place]
  simp only [place, Option.bind_some, Assoc.find?_insert, if_true]

theorem lt_length_of_recordId? {fd r : Nat} (h : t.recordId? fd = some r) :
    fd < t.slots.length := by
  by_contra hle
  rw [recordId?, List.getElem?_eq_none (Nat.le_of_not_lt hle)] at h
  cases h

theorem recordId?_mem {fd r : Nat} (h : t.recordId? fd = some r) : some r ∈ t.slots :=
  List.mem_of_getElem? (Option.join_eq_some_iff.mp h)

/-! ### Counters -/

/-- Every record is there exactly when something refers to it, and counts what does: the slots,
and the reference in `hand` that a call may hold. -/
structure Accounted (t : DescriptorTable φ) (hand : Option Nat) : Prop where
  refs_eq : ∀ r, (t.records.find? r).map DescriptorRecord.refs =
    if (hand :: t.slots).count (some r) = 0 then none else some ((hand :: t.slots).count (some r))
  unused : ∀ r, t.nextRecord ≤ r → t.records.find? r = none

theorem accounted_empty : ({} : DescriptorTable φ).Accounted none where
  refs_eq _ := rfl
  unused _ _ := rfl

/-- What something refers to has a record. -/
theorem Accounted.exists_record {hand : Option Nat} (h : t.Accounted hand) {r : Nat}
    (hr : some r ∈ hand :: t.slots) :
    ∃ d, t.records.find? r = some d ∧ d.refs = (hand :: t.slots).count (some r) := by
  have hpos : (hand :: t.slots).count (some r) ≠ 0 := Nat.ne_of_gt (List.count_pos_iff.mpr hr)
  have hrefs := h.refs_eq r
  rw [if_neg hpos, Option.map_eq_some_iff] at hrefs
  exact hrefs

/-- What has a record is referred to. -/
theorem Accounted.mem_of_find? {hand : Option Nat} (h : t.Accounted hand) {r : Nat}
    {d : DescriptorRecord φ} (hd : t.records.find? r = some d) : some r ∈ hand :: t.slots := by
  by_contra hr
  have hrefs := h.refs_eq r
  rw [hd, if_pos (List.count_eq_zero_of_not_mem hr)] at hrefs
  cases hrefs

/-- The record of an occupied slot, for a table at rest. -/
theorem Accounted.exists_record_of_slot (h : t.Accounted none) {fd r : Nat}
    (hr : t.recordId? fd = some r) :
    ∃ d, t.records.find? r = some d ∧ d.refs = t.slots.count (some r) := by
  obtain ⟨d, hd, hrefs⟩ := h.exists_record (List.mem_cons_of_mem _ (recordId?_mem hr))
  refine ⟨d, hd, ?_⟩
  rw [hrefs, List.count_cons_of_ne (by simp)]

/-- Putting what is in hand into a slot takes what the slot held into the hand. -/
theorem Accounted.exchange {hand : Option Nat} (h : t.Accounted hand) (fd : Nat) :
    (t.withSlot fd hand).Accounted (t.recordId? fd) where
  refs_eq r := by
    have hcount := count_putSlot t.slots fd hand r
    change _ = if ((t.slots[fd]?).join :: putSlot t.slots fd hand).count (some r) = 0 then none
      else some (((t.slots[fd]?).join :: putSlot t.slots fd hand).count (some r))
    rw [hcount]
    exact h.refs_eq r
  unused := h.unused

theorem Accounted.place {r : Nat} (h : t.Accounted (some r)) : (t.place r).2.Accounted none := by
  have hex := h.exchange (lowestFree t.slots)
  rw [recordId?, join_lowestFree] at hex
  exact hex

theorem Accounted.allocate (h : t.Accounted none) (file : φ) :
    (t.allocate file).2.Accounted none := by
  have hnew : t.records.find? t.nextRecord = none := h.unused _ (Nat.le_refl _)
  apply Accounted.place (r := t.nextRecord)
  constructor
  · intro r
    have hrefs := h.refs_eq r
    rw [List.count_cons_of_ne (by simp)] at hrefs
    rw [Assoc.find?_insert]
    by_cases hr : r = t.nextRecord
    · subst hr
      rw [hnew] at hrefs
      have hzero : t.slots.count (some t.nextRecord) = 0 := by
        by_contra hne
        rw [if_neg hne] at hrefs
        cases hrefs
      simp [hzero]
    · rw [if_neg hr, List.count_cons_of_ne (by simpa using fun e => hr e.symm)]
      exact hrefs
  · intro r hr
    change t.nextRecord + 1 ≤ r at hr
    rw [Assoc.find?_insert, if_neg (by omega)]
    exact h.unused r (by omega)

@[simp] theorem slots_retain (r : Nat) : (t.retain r).slots = t.slots := rfl

/-- Taking a reference to a record that is there. -/
theorem Accounted.retain (h : t.Accounted none) {r : Nat} (hr : some r ∈ t.slots) :
    (t.retain r).Accounted (some r) := by
  obtain ⟨d, hd, -⟩ := h.exists_record (List.mem_cons_of_mem _ hr)
  constructor
  · intro r'
    have hrefs := h.refs_eq r'
    rw [List.count_cons_of_ne (by simp)] at hrefs
    change ((t.records.modify r _).find? r').map _ = _
    rw [Assoc.find?_modify]
    by_cases he : r' = r
    · subst he
      rw [hd] at hrefs ⊢
      rw [if_neg (Nat.ne_of_gt (List.count_pos_iff.mpr hr)), Option.map_some,
        Option.some_inj] at hrefs
      simp [hrefs]
    · rw [if_neg he, List.count_cons_of_ne (by simpa using fun e => he e.symm)]
      exact hrefs
  · intro r' hr'
    change (t.records.modify r _).find? r' = none
    rw [Assoc.find?_modify]
    have hne : r' ≠ r := by
      rintro rfl
      rw [h.unused r' hr'] at hd
      cases hd
    rw [if_neg hne]
    exact h.unused r' hr'

/-- Giving up a reference: the last one takes the record with it. -/
theorem Accounted.letGo {r : Nat} (h : t.Accounted (some r)) : (t.letGo r).2.Accounted none := by
  obtain ⟨d, hd, hrefs⟩ := h.exists_record List.mem_cons_self
  rw [List.count_cons_self] at hrefs
  have hother : ∀ r', r' ≠ r → (t.records.find? r').map DescriptorRecord.refs =
      if (none :: t.slots).count (some r') = 0 then none
      else some ((none :: t.slots).count (some r')) := by
    intro r' hne
    have hrefs' := h.refs_eq r'
    rw [List.count_cons_of_ne (by simpa using fun e => hne e.symm)] at hrefs'
    rw [List.count_cons_of_ne (by simp)]
    exact hrefs'
  have hnew : ∀ r', t.nextRecord ≤ r' → r' ≠ r := by
    rintro r' hr' rfl
    rw [h.unused r' hr'] at hd
    cases hd
  simp only [DescriptorTable.letGo, hd]
  split
  · have hzero : t.slots.count (some r) = 0 := by omega
    constructor
    · intro r'
      rw [Assoc.find?_erase]
      by_cases he : r' = r
      · subst he
        simp [hzero]
      · rw [if_neg he]
        exact hother r' he
    · intro r' hr'
      rw [Assoc.find?_erase, if_neg (hnew r' hr')]
      exact h.unused r' hr'
  · have hpos : t.slots.count (some r) ≠ 0 := by omega
    constructor
    · intro r'
      rw [Assoc.find?_insert]
      by_cases he : r' = r
      · subst he
        simp [hrefs, hpos]
      · rw [if_neg he]
        exact hother r' he
    · intro r' hr'
      rw [Assoc.find?_insert, if_neg (hnew r' hr')]
      exact h.unused r' hr'

/-! ### Calls -/

/-- Emptying a slot, in two steps: the reference comes into the hand and is given up. -/
theorem release_eq_ok {fd : Nat} {shut : Option φ} (h : t.release fd = .ok (shut, t')) :
    ∃ r, t.recordId? fd = some r ∧
      (t.withSlot fd none).letGo r = (shut, t') := by
  rw [release] at h
  cases hr : t.recordId? fd with
  | none =>
    rw [hr] at h
    cases h
  | some r =>
    rw [hr] at h
    refine ⟨r, rfl, ?_⟩
    rw [withSlot, putSlot_of_lt (lt_length_of_recordId? hr)]
    exact Except.ok.inj h

theorem dup_eq_ok {fd copy : Nat} (h : t.dup fd = .ok (copy, t')) :
    ∃ r, t.recordId? fd = some r ∧ (t.retain r).place r = (copy, t') := by
  rw [dup] at h
  cases hr : t.recordId? fd with
  | none =>
    rw [hr] at h
    cases h
  | some r =>
    rw [hr] at h
    exact ⟨r, rfl, Except.ok.inj h⟩

/-- Replacing what a slot refers to: nothing happens to the slot's own record, and otherwise the
reference that comes out of the slot is given up. -/
theorem dup2_eq_ok {fd target : Nat} {shut : Option φ} (h : t.dup2 fd target = .ok (shut, t')) :
    target < maxDescriptors ∧ ∃ r, t.recordId? fd = some r ∧
      (fd = target ∧ shut = none ∧ t' = t ∨
        fd ≠ target ∧ t.recordId? target = none ∧ shut = none ∧
          t' = (t.retain r).withSlot target (some r) ∨
        fd ≠ target ∧ ∃ o, t.recordId? target = some o ∧
          ((t.retain r).withSlot target (some r)).letGo o = (shut, t')) := by
  rw [dup2] at h
  by_cases hmax : maxDescriptors ≤ target
  · rw [if_pos hmax] at h
    cases h
  · rw [if_neg hmax] at h
    refine ⟨Nat.lt_of_not_le hmax, ?_⟩
    cases hr : t.recordId? fd with
    | none =>
      rw [hr] at h
      cases h
    | some r =>
      simp only [hr] at h
      refine ⟨r, rfl, ?_⟩
      by_cases he : fd = target
      · rw [if_pos he] at h
        cases h
        exact .inl ⟨he, rfl, rfl⟩
      · rw [if_neg he] at h
        cases ho : t.recordId? target with
        | none =>
          simp only [ho] at h
          cases h
          exact .inr (.inl ⟨he, rfl, rfl, rfl⟩)
        | some o =>
          simp only [ho] at h
          exact .inr (.inr ⟨he, o, rfl, Except.ok.inj h⟩)

theorem Accounted.release (h : t.Accounted none) {fd : Nat} {shut : Option φ}
    (hok : t.release fd = .ok (shut, t')) : t'.Accounted none := by
  obtain ⟨r, hr, hgo⟩ := release_eq_ok hok
  have hex := h.exchange fd
  rw [hr] at hex
  have hgone := hex.letGo
  rw [hgo] at hgone
  exact hgone

theorem Accounted.dup (h : t.Accounted none) {fd copy : Nat} (hok : t.dup fd = .ok (copy, t')) :
    t'.Accounted none := by
  obtain ⟨r, hr, hplace⟩ := dup_eq_ok hok
  have hput := (h.retain (recordId?_mem hr)).place
  rw [hplace] at hput
  exact hput

theorem Accounted.dup2 (h : t.Accounted none) {fd target : Nat} {shut : Option φ}
    (hok : t.dup2 fd target = .ok (shut, t')) : t'.Accounted none := by
  obtain ⟨-, r, hr, ⟨-, -, rfl⟩ | ⟨-, ho, -, rfl⟩ | ⟨-, o, ho, hgo⟩⟩ := dup2_eq_ok hok
  · exact h
  · have hex := (h.retain (recordId?_mem hr)).exchange target
    change Accounted _ (t.recordId? target) at hex
    rw [ho] at hex
    exact hex
  · have hex := (h.retain (recordId?_mem hr)).exchange target
    change Accounted _ (t.recordId? target) at hex
    rw [ho] at hex
    have hgone := hex.letGo
    rw [hgo] at hgone
    exact hgone

/-! ### Files -/

/-- The file of a record. -/
def fileOf? (t : DescriptorTable φ) (r : Nat) : Option φ :=
  (t.records.find? r).map DescriptorRecord.file

/-- What a call may do to the records that are there: it keeps the file of each, or drops one
record and hands its file back to be closed. -/
inductive Drops (t t' : DescriptorTable φ) : Option φ → Prop where
  | nothing (kept : ∀ r, t'.fileOf? r = t.fileOf? r) : Drops t t' none
  | record (r : Nat) (f : φ) (held : t.fileOf? r = some f)
      (kept : ∀ r', t'.fileOf? r' = if r' = r then none else t.fileOf? r') : Drops t t' (some f)

theorem fileOf?_allocate (file : φ) (r : Nat) :
    (t.allocate file).2.fileOf? r = if r = t.nextRecord then some file else t.fileOf? r := by
  change ((t.records.insert t.nextRecord ⟨file, 1⟩).find? r).map _ = _
  rw [Assoc.find?_insert]
  split <;> rfl

theorem fileOf?_retain (r r' : Nat) : (t.retain r).fileOf? r' = t.fileOf? r' := by
  change ((t.records.modify r _).find? r').map _ = _
  rw [Assoc.find?_modify]
  by_cases he : r' = r
  · subst he
    rw [if_pos rfl, Option.map_map]
    rfl
  · rw [if_neg he]
    rfl

theorem letGo_drops (r : Nat) : Drops t (t.letGo r).2 (t.letGo r).1 := by
  cases hd : t.records.find? r with
  | none =>
    simp only [letGo, hd]
    exact .nothing fun _ => rfl
  | some d =>
    simp only [letGo, hd]
    split
    · refine .record r d.file (by rw [fileOf?, hd]; rfl) fun r' => ?_
      rw [fileOf?, Assoc.find?_erase]
      split <;> rfl
    · refine .nothing fun r' => ?_
      rw [fileOf?, Assoc.find?_insert]
      split
      · next he => rw [he, fileOf?, hd]; rfl
      · rfl

theorem Drops.of_fileOf?_eq {s : DescriptorTable φ} {shut : Option φ} (h : Drops s t' shut)
    (hs : ∀ r, s.fileOf? r = t.fileOf? r) : Drops t t' shut := by
  cases h with
  | nothing kept => exact .nothing fun r => (kept r).trans (hs r)
  | record r f held kept =>
    refine .record r f ((hs r).symm.trans held) fun r' => ?_
    rw [kept r', hs r']

theorem release_drops {fd : Nat} {shut : Option φ} (hok : t.release fd = .ok (shut, t')) :
    Drops t t' shut := by
  obtain ⟨r, -, hgo⟩ := release_eq_ok hok
  have hdrops := letGo_drops (t := t.withSlot fd none) r
  rw [hgo] at hdrops
  exact hdrops.of_fileOf?_eq fun _ => rfl

theorem dup_drops {fd copy : Nat} (hok : t.dup fd = .ok (copy, t')) : Drops t t' none := by
  obtain ⟨r, -, hplace⟩ := dup_eq_ok hok
  cases hplace
  exact .nothing (fileOf?_retain r)

theorem dup2_drops {fd target : Nat} {shut : Option φ} (hok : t.dup2 fd target = .ok (shut, t')) :
    Drops t t' shut := by
  obtain ⟨-, r, -, ⟨-, rfl, rfl⟩ | ⟨-, -, rfl, rfl⟩ | ⟨-, o, -, hgo⟩⟩ := dup2_eq_ok hok
  · exact .nothing fun _ => rfl
  · exact .nothing (fileOf?_retain r)
  · have hdrops := letGo_drops (t := (t.retain r).withSlot target (some r)) o
    rw [hgo] at hdrops
    exact hdrops.of_fileOf?_eq (fileOf?_retain r)

/-- Some descriptor refers to the file. -/
def Holds (t : DescriptorTable φ) (f : φ) : Prop := ∃ fd, t.lookup fd = .ok f

/-- At rest the files of the records are the files that descriptors refer to. -/
theorem Accounted.holds_iff (h : t.Accounted none) (f : φ) :
    t.Holds f ↔ ∃ r, t.fileOf? r = some f := by
  constructor
  · rintro ⟨fd, hfd⟩
    rw [lookup] at hfd
    cases hr : t.recordId? fd with
    | none =>
      rw [hr] at hfd
      cases hfd
    | some r =>
      obtain ⟨d, hd, -⟩ := h.exists_record_of_slot hr
      rw [hr, Option.bind_some, hd] at hfd
      refine ⟨r, ?_⟩
      rw [fileOf?, hd, Option.map_some]
      exact congrArg some (Except.ok.inj hfd)
  · rintro ⟨r, hr⟩
    obtain ⟨d, hd, rfl⟩ := Option.map_eq_some_iff.mp hr
    have hmem : some r ∈ t.slots := by simpa using h.mem_of_find? hd
    obtain ⟨fd, hfd⟩ := List.mem_iff_getElem?.mp hmem
    refine ⟨fd, ?_⟩
    rw [lookup, recordId?, hfd, Option.join_some, Option.bind_some, hd]

end SyscallBridge.DescriptorTable
