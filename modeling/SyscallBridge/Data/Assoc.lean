/-!
# Finite maps

Finite maps as association lists. Looking a key up after `insert` or `erase` is settled by
`find?_insert` and `find?_erase`; nothing below unfolds the list. Most keys that are inserted are
new or at the front, so what stands behind the last entry of a key is shared and not copied.
-/

namespace SyscallBridge

/-- A finite map; of several entries with one key the first counts. -/
structure Assoc (κ ν : Type) where
  entries : List (κ × ν) := []
  deriving Repr

namespace Assoc

variable {κ ν : Type} [DecidableEq κ]

instance : Inhabited (Assoc κ ν) := ⟨{}⟩

def find? (m : Assoc κ ν) (k : κ) : Option ν :=
  (m.entries.find? fun e => e.1 = k).map Prod.snd

def contains (m : Assoc κ ν) (k : κ) : Bool := (m.find? k).isSome

/-- The entries without those of a key. -/
def dropKey (k : κ) : List (κ × ν) → List (κ × ν)
  | [] => []
  | e :: es =>
    if e.1 = k then dropKey k es
    else if es.any fun e => e.1 = k then e :: es.filter fun e => e.1 ≠ k
    else e :: es

def erase (m : Assoc κ ν) (k : κ) : Assoc κ ν := ⟨dropKey k m.entries⟩

/-- Replaces what `k` held before. -/
def insert (m : Assoc κ ν) (k : κ) (v : ν) : Assoc κ ν := ⟨(k, v) :: (m.erase k).entries⟩

/-- Changes the value of a key that is there. -/
def modify (m : Assoc κ ν) (k : κ) (f : ν → ν) : Assoc κ ν :=
  match m.find? k with
  | some v => m.insert k (f v)
  | none => m

def keys (m : Assoc κ ν) : List κ := m.entries.map Prod.fst

def values (m : Assoc κ ν) : List ν := m.entries.map Prod.snd

@[simp] theorem find?_empty (k : κ) : ({} : Assoc κ ν).find? k = none := rfl

theorem dropKey_eq_filter (k : κ) (es : List (κ × ν)) :
    dropKey k es = es.filter fun e => e.1 ≠ k := by
  induction es with
  | nil => rfl
  | cons e es ih =>
    unfold dropKey
    by_cases he : e.1 = k
    · rw [if_pos he, ih, List.filter_cons_of_neg (by simpa using he)]
    · rw [if_neg he, List.filter_cons_of_pos (by simpa using he)]
      split
      · rfl
      · next hnone =>
        have hall : es.filter (fun e => e.1 ≠ k) = es := by
          apply List.filter_eq_self.2
          intro x hx
          apply decide_eq_true
          intro hk
          exact hnone (List.any_eq_true.2 ⟨x, hx, decide_eq_true hk⟩)
        rw [hall]

theorem erase_eq_filter (m : Assoc κ ν) (k : κ) :
    m.erase k = ⟨m.entries.filter fun e => e.1 ≠ k⟩ := congrArg mk (dropKey_eq_filter k m.entries)

theorem find?_erase (m : Assoc κ ν) (k l : κ) :
    (m.erase k).find? l = if l = k then none else m.find? l := by
  simp only [find?, erase_eq_filter]
  induction m.entries with
  | nil => simp
  | cons e es ih =>
    by_cases hk : e.1 = k <;> by_cases hl : e.1 = l <;> grind

theorem erase_of_find?_eq_none {m : Assoc κ ν} {k : κ} (h : m.find? k = none) :
    m.erase k = m := by
  have hnone : ∀ e ∈ m.entries, e.1 ≠ k := by simpa [find?] using h
  rw [erase_eq_filter, List.filter_eq_self.2 fun e he => by simpa using hnone e he]

theorem find?_insert (m : Assoc κ ν) (k l : κ) (v : ν) :
    (m.insert k v).find? l = if l = k then some v else m.find? l := by
  by_cases h : l = k
  · simp [find?, insert, h]
  · have hk : ¬ k = l := fun e => h e.symm
    have := find?_erase m k l
    simp only [find?, insert, List.find?_cons, hk, decide_false] at this ⊢
    simpa [h] using this

theorem find?_modify (m : Assoc κ ν) (k l : κ) (f : ν → ν) :
    (m.modify k f).find? l = if l = k then (m.find? k).map f else m.find? l := by
  unfold modify
  split
  · next v hv => rw [find?_insert, hv]; rfl
  · next hv => by_cases h : l = k <;> simp [h, hv]

theorem erase_insert (m : Assoc κ ν) (k : κ) (v : ν) : (m.insert k v).erase k = m.erase k := by
  simp [erase_eq_filter, insert]

theorem insert_insert (m : Assoc κ ν) (k : κ) (v w : ν) :
    (m.insert k v).insert k w = m.insert k w := by
  rw [insert, erase_insert, insert]

theorem modify_modify (m : Assoc κ ν) (k : κ) (f g : ν → ν) :
    (m.modify k f).modify k g = m.modify k fun v => g (f v) := by
  cases h : m.find? k with
  | none => simp only [modify, h]
  | some v =>
    have hmodified : (m.insert k (f v)).find? k = some (f v) := by rw [find?_insert, if_pos rfl]
    simp only [modify, h, hmodified, insert_insert]

theorem mem_keys_of_find? {m : Assoc κ ν} {k : κ} {v : ν} (h : m.find? k = some v) :
    k ∈ m.keys := by
  obtain ⟨e, hfind, -⟩ := Option.map_eq_some_iff.1 h
  have hkey : e.1 = k := by simpa using List.find?_some hfind
  exact hkey ▸ List.mem_map_of_mem (List.mem_of_find?_eq_some hfind)

/-! ### Maps with one entry for each key -/

theorem keys_erase (m : Assoc κ ν) (k : κ) : (m.erase k).keys = m.keys.filter fun l => l ≠ k := by
  rw [erase_eq_filter, keys, keys, List.filter_map]
  rfl

theorem nodup_keys_erase {m : Assoc κ ν} (h : m.keys.Nodup) (k : κ) : (m.erase k).keys.Nodup := by
  rw [keys_erase]
  exact h.filter _

theorem nodup_keys_insert {m : Assoc κ ν} (h : m.keys.Nodup) (k : κ) (v : ν) :
    (m.insert k v).keys.Nodup := by
  refine List.nodup_cons.mpr ⟨?_, nodup_keys_erase h k⟩
  change k ∉ (m.erase k).keys
  simp [keys_erase]

/-- Where no key has two entries, an entry is what its key holds. -/
theorem mem_entries_iff {m : Assoc κ ν} (h : m.keys.Nodup) {k : κ} {v : ν} :
    (k, v) ∈ m.entries ↔ m.find? k = some v := by
  unfold find?
  constructor
  · intro hmem
    obtain ⟨entries⟩ := m
    induction entries with
    | nil => cases hmem
    | cons e entries ih =>
      obtain ⟨hnew, hrest⟩ := List.nodup_cons.mp h
      rcases List.mem_cons.mp hmem with rfl | hmem
      · simp
      · have hne : e.1 ≠ k := by
          rintro rfl
          exact hnew (List.mem_map.mpr ⟨_, hmem, rfl⟩)
        rw [List.find?_cons_of_neg (by simpa using hne)]
        exact ih hrest hmem
  · intro hfind
    obtain ⟨⟨l, w⟩, he, rfl⟩ := Option.map_eq_some_iff.mp hfind
    obtain rfl : l = k := by simpa using List.find?_some he
    exact List.mem_of_find?_eq_some he

end Assoc

end SyscallBridge
