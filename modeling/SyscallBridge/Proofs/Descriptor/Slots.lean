import SyscallBridge.Proofs.Descriptor.Accounting

/-!
# What descriptors refer to

The calls on a table as changes to `lookup`: which descriptor they change, what it then refers to,
and that every other descriptor is left alone. A table at rest is assumed throughout, since only
there does every occupied slot have its record.
-/

namespace SyscallBridge.DescriptorTable

variable {φ : Type} {t t' : DescriptorTable φ}

/-! ### Lookups -/

theorem lookup_eq (t : DescriptorTable φ) (fd : Nat) :
    t.lookup fd = ((t.recordId? fd).bind t.fileOf?).elim (.error (.badDescriptor fd)) .ok := by
  rw [lookup]
  cases t.recordId? fd with
  | none => rfl
  | some r =>
    simp only [Option.bind_some, fileOf?]
    cases t.records.find? r <;> rfl

theorem lookup_eq_ok_iff {fd : Nat} {f : φ} :
    t.lookup fd = .ok f ↔ ∃ r, t.recordId? fd = some r ∧ t.fileOf? r = some f := by
  rw [lookup_eq, ← Option.bind_eq_some_iff]
  cases (t.recordId? fd).bind t.fileOf? <;> simp

theorem lookup_of_free {fd : Nat} (h : t.recordId? fd = none) :
    t.lookup fd = .error (.badDescriptor fd) := by
  rw [lookup_eq, h]
  rfl

theorem Accounted.exists_lookup_of_slot (h : t.Accounted none) {fd r : Nat}
    (hr : t.recordId? fd = some r) : ∃ f, t.lookup fd = .ok f := by
  obtain ⟨d, hd, -⟩ := h.exists_record_of_slot hr
  exact ⟨d.file, lookup_eq_ok_iff.2 ⟨r, hr, congrArg _ hd⟩⟩

theorem mem_files_of_lookup {fd : Nat} {f : φ} (h : t.lookup fd = .ok f) : f ∈ t.files := by
  obtain ⟨r, -, hr⟩ := lookup_eq_ok_iff.1 h
  obtain ⟨record, hrecord, rfl⟩ := Option.map_eq_some_iff.1 hr
  obtain ⟨e, he, rfl⟩ := Option.map_eq_some_iff.1 hrecord
  exact List.mem_map_of_mem (List.mem_map_of_mem (List.mem_of_find?_eq_some he))

theorem recordId?_withSlot (t : DescriptorTable φ) (fd : Nat) (v : Option Nat) (d : Nat) :
    (t.withSlot fd v).recordId? d = if d = fd then v else t.recordId? d := by
  set padded := t.slots ++ List.replicate (fd + 1 - t.slots.length) none with hpadded
  have hfd : fd < padded.length := by
    simp only [hpadded, List.length_append, List.length_replicate]
    omega
  have hset : (t.withSlot fd v).recordId? d = ((padded.set fd v)[d]?).join := by
    rw [withSlot, recordId?, putSlot_eq_set]
  by_cases hd : d = fd
  · subst hd
    rw [hset, List.getElem?_set_self hfd, if_pos rfl]
    rfl
  · rw [hset, List.getElem?_set_ne fun e => hd e.symm, if_neg hd, recordId?, hpadded]
    -- the slots added behind are as empty as no slot at all
    by_cases hlt : d < t.slots.length
    · rw [List.getElem?_append_left hlt]
    · have hge : t.slots.length ≤ d := Nat.le_of_not_lt hlt
      rw [List.getElem?_append_right hge, List.getElem?_eq_none hge, List.getElem?_replicate]
      split <;> rfl

/-! ### Allocating -/

theorem recordId?_allocate (file : φ) (d : Nat) : (t.allocate file).2.recordId? d =
    if d = (t.allocate file).1 then some t.nextRecord else t.recordId? d :=
  recordId?_withSlot t (lowestFree t.slots) (some t.nextRecord) d

theorem lookup_fst_allocate (t : DescriptorTable φ) (file : φ) :
    t.lookup (t.allocate file).1 = .error (.badDescriptor (t.allocate file).1) :=
  lookup_of_free (join_lowestFree t.slots)

theorem Accounted.lookup_allocate (h : t.Accounted none) (file : φ) (d : Nat) :
    (t.allocate file).2.lookup d = if d = (t.allocate file).1 then .ok file else t.lookup d := by
  by_cases hd : d = (t.allocate file).1
  · rw [if_pos hd, hd]
    exact t.lookup_allocate file
  · have hslot := recordId?_allocate (t := t) file d
    rw [if_neg hd] at hslot ⊢
    rw [lookup_eq, lookup_eq, hslot]
    cases hr : t.recordId? d with
    | none => rfl
    | some r =>
      obtain ⟨rec, hrec, -⟩ := h.exists_record_of_slot hr
      have hne : r ≠ t.nextRecord := by
        rintro rfl
        rw [h.unused _ (Nat.le_refl _)] at hrec
        cases hrec
      simp only [Option.bind_some]
      rw [fileOf?_allocate, if_neg hne]

/-! ### Releasing -/

@[simp] theorem slots_letGo (r : Nat) : (t.letGo r).2.slots = t.slots := by
  rw [letGo]
  split
  · rfl
  · split <;> rfl

theorem recordId?_release {fd : Nat} {shut : Option φ} (hok : t.release fd = .ok (shut, t'))
    (d : Nat) : t'.recordId? d = if d = fd then none else t.recordId? d := by
  obtain ⟨r, -, hgo⟩ := release_eq_ok hok
  have hslots : t'.slots = (t.withSlot fd none).slots := by
    rw [← slots_letGo (t := t.withSlot fd none) r, hgo]
  have hsame : t'.recordId? d = (t.withSlot fd none).recordId? d := by
    rw [recordId?, recordId?, hslots]
  rw [hsame, recordId?_withSlot]

/-- A slot that still refers to a record after a call refers to the file it had before. -/
theorem Accounted.lookup_drops (h : t'.Accounted none) {shut : Option φ} (hdrops : Drops t t' shut)
    (d : Nat) :
    t'.lookup d = ((t'.recordId? d).bind t.fileOf?).elim (.error (.badDescriptor d)) .ok := by
  rw [lookup_eq]
  cases hr : t'.recordId? d with
  | none => rfl
  | some r =>
    have hkept : t'.fileOf? r = t.fileOf? r := by
      cases hdrops with
      | nothing kept => exact kept r
      | record gone f held kept =>
        rw [kept r, if_neg]
        -- a record that was dropped has no slot left
        rintro rfl
        obtain ⟨rec, hrec, -⟩ := h.exists_record_of_slot hr
        have hnone := kept r
        rw [if_pos rfl, fileOf?, hrec] at hnone
        cases hnone
    simp only [Option.bind_some, hkept]

/-- Releasing empties one descriptor and leaves the others alone. -/
theorem Accounted.lookup_release (h : t.Accounted none) {fd : Nat} {shut : Option φ}
    (hok : t.release fd = .ok (shut, t')) (d : Nat) :
    t'.lookup d = if d = fd then .error (.badDescriptor fd) else t.lookup d := by
  rw [(h.release hok).lookup_drops (release_drops hok), recordId?_release hok]
  by_cases hd : d = fd
  · rw [if_pos hd, if_pos hd, hd]
    rfl
  · rw [if_neg hd, if_neg hd, lookup_eq]

/-- Every file has one record at most. -/
def Distinct (t : DescriptorTable φ) : Prop :=
  ∀ r r' f, t.fileOf? r = some f → t.fileOf? r' = some f → r = r'

theorem Distinct.drops (h : t.Distinct) {shut : Option φ} (hdrops : Drops t t' shut) :
    t'.Distinct := by
  cases hdrops with
  | nothing kept =>
    intro r r' f hr hr'
    rw [kept] at hr hr'
    exact h r r' f hr hr'
  | record gone g held kept =>
    intro r r' f hr hr'
    rw [kept] at hr hr'
    split at hr
    · cases hr
    · split at hr'
      · cases hr'
      · exact h r r' f hr hr'

/-- No other descriptor refers to the file of `fd`. -/
def Sole (t : DescriptorTable φ) (fd : Nat) (f : φ) : Prop :=
  t.lookup fd = .ok f ∧ ∀ d, d ≠ fd → t.lookup d ≠ .ok f

/-- A release closes the file that only its descriptor refers to. -/
theorem Accounted.release_shut (h : t.Accounted none) (hown : t.Distinct) {fd : Nat}
    {shut : Option φ} (hok : t.release fd = .ok (shut, t')) (f : φ) :
    shut = some f ↔ t.Sole fd f := by
  have hlookup := h.lookup_release hok
  have hafter := h.release hok
  -- a file with a descriptor left is one that another descriptor referred to
  have hleft : t'.Holds f ↔ ∃ d, d ≠ fd ∧ t.lookup d = .ok f := by
    constructor
    · rintro ⟨d, hd⟩
      rw [hlookup d] at hd
      split at hd
      · cases hd
      · next hne => exact ⟨d, hne, hd⟩
    · rintro ⟨d, hne, hd⟩
      exact ⟨d, by rw [hlookup d, if_neg hne, hd]⟩
  have hlost : t.Holds f ∧ ¬ t'.Holds f ↔ t.Sole fd f := by
    rw [hleft]
    constructor
    · rintro ⟨⟨d, hd⟩, hno⟩
      have hd' : d = fd := by
        by_contra hne
        exact hno ⟨d, hne, hd⟩
      exact ⟨hd' ▸ hd, fun d hne hf => hno ⟨d, hne, hf⟩⟩
    · rintro ⟨hfd, hothers⟩
      exact ⟨⟨fd, hfd⟩, fun ⟨d, hne, hd⟩ => hothers d hne hd⟩
  rw [← hlost, h.holds_iff, hafter.holds_iff]
  cases release_drops hok with
  | nothing kept => simp [kept]
  | record gone g held kept =>
    rw [Option.some_inj]
    constructor
    · rintro rfl
      refine ⟨⟨gone, held⟩, ?_⟩
      rintro ⟨r, hr⟩
      rw [kept] at hr
      split at hr
      · cases hr
      · next hne => exact hne (hown r gone g hr held)
    · rintro ⟨⟨r, hr⟩, hno⟩
      by_contra hne
      have hr' : r ≠ gone := by
        rintro rfl
        exact hne (Option.some.inj (held.symm.trans hr))
      exact hno ⟨r, by rw [kept, if_neg hr', hr]⟩

theorem lookup_of_release_error {fd : Nat} {e : CallError} (hfail : t.release fd = .error e) :
    t.lookup fd = .error (.badDescriptor fd) := by
  rw [release] at hfail
  cases hr : t.recordId? fd with
  | none => exact lookup_of_free hr
  | some r =>
    rw [hr] at hfail
    cases hfail

/-! ### Duplicating -/

/-- A call that makes the slot `copy` refer to the record of `fd` and leaves the other slots. -/
theorem Accounted.lookup_copied (h : t'.Accounted none) {shut : Option φ} (hdrops : Drops t t' shut)
    {fd copy : Nat}
    (hslots : ∀ d, t'.recordId? d = if d = copy then t.recordId? fd else t.recordId? d)
    {f : φ} (hfd : t.lookup fd = .ok f) (d : Nat) :
    t'.lookup d = if d = copy then .ok f else t.lookup d := by
  obtain ⟨r, hr, hf⟩ := lookup_eq_ok_iff.1 hfd
  rw [h.lookup_drops hdrops, hslots]
  split
  · rw [hr, Option.bind_some, hf]
    rfl
  · rw [lookup_eq]

theorem recordId?_dup {fd copy : Nat} (hok : t.dup fd = .ok (copy, t')) (d : Nat) :
    t'.recordId? d = if d = copy then t.recordId? fd else t.recordId? d := by
  obtain ⟨r, hr, hplace⟩ := dup_eq_ok hok
  cases hplace
  rw [hr]
  exact recordId?_withSlot (t.retain r) (lowestFree t.slots) (some r) d

/-- A copy refers to the file of the descriptor it is made of. -/
theorem Accounted.lookup_dup (h : t.Accounted none) {fd copy : Nat}
    (hok : t.dup fd = .ok (copy, t')) {f : φ} (hfd : t.lookup fd = .ok f) (d : Nat) :
    t'.lookup d = if d = copy then .ok f else t.lookup d :=
  (h.dup hok).lookup_copied (dup_drops hok) (recordId?_dup hok) hfd d

theorem recordId?_dup2 {fd target : Nat} {shut : Option φ}
    (hok : t.dup2 fd target = .ok (shut, t')) (d : Nat) :
    t'.recordId? d = if d = target then t.recordId? fd else t.recordId? d := by
  obtain ⟨-, r, hr, ⟨rfl, -, rfl⟩ | ⟨-, -, -, rfl⟩ | ⟨-, o, -, hgo⟩⟩ := dup2_eq_ok hok
  · split
    · next hd => rw [hd]
    · rfl
  · rw [hr]
    exact recordId?_withSlot (t.retain r) target (some r) d
  · have hslots : t'.slots = ((t.retain r).withSlot target (some r)).slots := by
      rw [← slots_letGo (t := (t.retain r).withSlot target (some r)) o, hgo]
    rw [hr, recordId?, hslots]
    exact recordId?_withSlot (t.retain r) target (some r) d

/-- The target refers to the file of the descriptor, the others to what they did. -/
theorem Accounted.lookup_dup2 (h : t.Accounted none) {fd target : Nat} {shut : Option φ}
    (hok : t.dup2 fd target = .ok (shut, t')) {f : φ} (hfd : t.lookup fd = .ok f) (d : Nat) :
    t'.lookup d = if d = target then .ok f else t.lookup d :=
  (h.dup2 hok).lookup_copied (dup2_drops hok) (recordId?_dup2 hok) hfd d

end SyscallBridge.DescriptorTable
