import SyscallBridge.File.Store
import SyscallBridge.Proofs.Descriptor.Accounting

/-!
# Closing files

A table with the store its files come from, through any sequence of calls. Every file that is
allocated gets a number of its own from the store, so what is closed can be told from everything
else. The main statement says of each file that it is closed once, by the call that empties the
last slot referring to it, and not before.
-/

namespace SyscallBridge

/-- Closing a file opens none. -/
theorem FileStore.nextFile_close (fs : FileStore) (id : Nat) :
    (fs.close id).1.nextFile = fs.nextFile := by
  simp only [close, start]
  cases fs.file id with
  | console sink => rfl
  | random g => rfl
  | fixed bytes cursor => rfl
  | temp h => rfl
  | socket s => rfl
  | unsupported => rfl

/-- A call on a table of descriptors. -/
inductive TableCall where
  | allocate (f : OpenFile)
  | release (fd : Nat)
  | dup (fd : Nat)
  | dup2 (fd target : Nat)

structure TableRun where
  store : FileStore
  table : DescriptorTable Nat := {}
  /-- The files that have been given to the table. -/
  allocated : List Nat := []
  /-- The files that have been closed, as often as they were. -/
  closed : List Nat := []

namespace TableRun

/-- Closes the file that the table has let go of. -/
def close (s : TableRun) : Option Nat → TableRun
  | none => s
  | some file => { s with store := (s.store.close file).1, closed := s.closed ++ [file] }

/-- One call. A call that fails leaves everything as it is. -/
def step (s : TableRun) : TableCall → TableRun
  | .allocate f =>
    let (file, store) := s.store.add f
    let (_, table) := s.table.allocate file
    { s with store, table, allocated := s.allocated ++ [file] }
  | .release fd =>
    match s.table.release fd with
    | .ok (file, table) => { s with table }.close file
    | .error _ => s
  | .dup fd =>
    match s.table.dup fd with
    | .ok (_, table) => { s with table }
    | .error _ => s
  | .dup2 fd target =>
    match s.table.dup2 fd target with
    | .ok (file, table) => { s with table }.close file
    | .error _ => s

def run (s : TableRun) (calls : List TableCall) : TableRun := calls.foldl step s

/-- What holds between two calls: the counters are right, each file has one record at most, and
the files without a record are those that have been closed, once each. -/
structure Settled (s : TableRun) : Prop where
  accounted : s.table.Accounted none
  old : ∀ f ∈ s.allocated, f < s.store.nextFile
  known : ∀ r f, s.table.fileOf? r = some f → f ∈ s.allocated
  own : ∀ r r' f, s.table.fileOf? r = some f → s.table.fileOf? r' = some f → r = r'
  open_ : ∀ f, s.table.Holds f → f ∉ s.closed
  closed_once : ∀ f ∈ s.allocated, ¬ s.table.Holds f → s.closed.count f = 1
  closed_known : ∀ f ∈ s.closed, f ∈ s.allocated

/-- What a call closes is the file whose last slot it empties. -/
def ClosesReleased (s s' : TableRun) : Prop :=
  ∃ shut : Option Nat, s'.closed = s.closed ++ shut.toList ∧
    ∀ f, shut = some f ↔ s.table.Holds f ∧ ¬ s'.table.Holds f

theorem settled_start (store : FileStore) : Settled ⟨store, {}, [], []⟩ where
  accounted := DescriptorTable.accounted_empty
  old _ hf := by cases hf
  known _ _ hf := by cases hf
  own _ _ _ hf := by cases hf
  open_ _ _ hf := by cases hf
  closed_once _ hf := by cases hf
  closed_known _ hf := by cases hf

section Ends

variable {s : TableRun} {table : DescriptorTable Nat} {r file : Nat}

/-- Where the files of all records are kept, the same files are held. -/
theorem Settled.holds_kept (h : s.Settled) (hacc : table.Accounted none)
    (kept : ∀ r, table.fileOf? r = s.table.fileOf? r) (f : Nat) :
    table.Holds f ↔ s.table.Holds f := by
  rw [hacc.holds_iff, h.accounted.holds_iff]
  simp only [kept]

theorem Settled.keeps (h : s.Settled) (hacc : table.Accounted none)
    (kept : ∀ r, table.fileOf? r = s.table.fileOf? r) : Settled { s with table } where
  accounted := hacc
  old := h.old
  known r f hf := h.known r f (kept r ▸ hf)
  own r r' f hf hf' := h.own r r' f (kept r ▸ hf) (kept r' ▸ hf')
  open_ f hf := h.open_ f ((h.holds_kept hacc kept f).1 hf)
  closed_once f hf hn := h.closed_once f hf fun hh => hn ((h.holds_kept hacc kept f).2 hh)
  closed_known := h.closed_known

/-- Where a record is dropped, its file is held no more, since no other record has it. -/
theorem Settled.holds_dropped (h : s.Settled) (hacc : table.Accounted none)
    (held : s.table.fileOf? r = some file)
    (kept : ∀ r', table.fileOf? r' = if r' = r then none else s.table.fileOf? r') (f : Nat) :
    table.Holds f ↔ s.table.Holds f ∧ f ≠ file := by
  rw [hacc.holds_iff, h.accounted.holds_iff]
  constructor
  · rintro ⟨r', hr'⟩
    rw [kept r'] at hr'
    split at hr'
    · cases hr'
    · next hne =>
      refine ⟨⟨r', hr'⟩, ?_⟩
      rintro rfl
      exact hne (h.own r' r f hr' held)
  · rintro ⟨⟨r', hr'⟩, hne⟩
    refine ⟨r', ?_⟩
    have hr : r' ≠ r := by
      rintro rfl
      exact hne (Option.some.inj (hr'.symm.trans held))
    rw [kept r', if_neg hr, hr']

theorem fileOf?_of_dropped
    (kept : ∀ r', table.fileOf? r' = if r' = r then none else s.table.fileOf? r') {r' f : Nat}
    (hf : table.fileOf? r' = some f) : s.table.fileOf? r' = some f := by
  rw [kept r'] at hf
  split at hf
  · cases hf
  · exact hf

theorem Settled.drops (h : s.Settled) (hacc : table.Accounted none)
    (held : s.table.fileOf? r = some file)
    (kept : ∀ r', table.fileOf? r' = if r' = r then none else s.table.fileOf? r') :
    ({ s with table }.close (some file)).Settled where
  accounted := hacc
  old f hf := by
    change f < (s.store.close file).1.nextFile
    rw [FileStore.nextFile_close]
    exact h.old f hf
  known r' f hf := h.known r' f (fileOf?_of_dropped kept hf)
  own r₁ r₂ f h₁ h₂ := h.own r₁ r₂ f (fileOf?_of_dropped kept h₁) (fileOf?_of_dropped kept h₂)
  open_ f hf := by
    obtain ⟨hold, hne⟩ := (h.holds_dropped hacc held kept f).1 hf
    simp only [TableRun.close, List.mem_append, List.mem_singleton, not_or]
    exact ⟨h.open_ f hold, hne⟩
  closed_once f hf hn := by
    simp only [TableRun.close, List.count_append, List.count_singleton]
    by_cases he : f = file
    · subst he
      have hheld : s.table.Holds f := (h.accounted.holds_iff f).2 ⟨r, held⟩
      simp [List.count_eq_zero_of_not_mem (h.open_ f hheld)]
    · have hclosed : ¬ s.table.Holds f := fun hh =>
        hn ((h.holds_dropped hacc held kept f).2 ⟨hh, he⟩)
      simp [h.closed_once f hf hclosed, Ne.symm he]
  closed_known f hf := by
    simp only [TableRun.close, List.mem_append, List.mem_singleton] at hf
    rcases hf with hf | rfl
    · exact h.closed_known f hf
    · exact h.known r f held

/-- A call that allocates nothing: the table drops a record or keeps all of them, and the file
that came with the dropped one is closed. -/
theorem Settled.close (h : s.Settled) {shut : Option Nat} (hacc : table.Accounted none)
    (hdrops : DescriptorTable.Drops s.table table shut) :
    ({ s with table }.close shut).Settled ∧ ClosesReleased s ({ s with table }.close shut) := by
  cases hdrops with
  | nothing kept =>
    refine ⟨h.keeps hacc kept, none, by simp [TableRun.close], fun f => ?_⟩
    have hsame : ({ s with table }.close none).table.Holds f ↔ s.table.Holds f :=
      h.holds_kept hacc kept f
    simp [hsame]
  | record r file held kept =>
    refine ⟨h.drops hacc held kept, some file, rfl, fun f => ?_⟩
    have hafter : ({ s with table }.close (some file)).table.Holds f ↔
        s.table.Holds f ∧ f ≠ file := h.holds_dropped hacc held kept f
    have hheld : s.table.Holds file := (h.accounted.holds_iff file).2 ⟨r, held⟩
    rw [hafter, Option.some_inj]
    constructor
    · rintro rfl
      exact ⟨hheld, fun hh => hh.2 rfl⟩
    · rintro ⟨hold, hn⟩
      by_contra hne
      exact hn ⟨hold, fun he => hne he.symm⟩

end Ends

theorem Settled.allocate {s : TableRun} (h : s.Settled) (f : OpenFile) :
    (s.step (.allocate f)).Settled ∧ ClosesReleased s (s.step (.allocate f)) := by
  have hacc : (s.step (.allocate f)).table.Accounted none :=
    h.accounted.allocate s.store.nextFile
  have hfile : ∀ r, (s.step (.allocate f)).table.fileOf? r =
      if r = s.table.nextRecord then some s.store.nextFile else s.table.fileOf? r :=
    DescriptorTable.fileOf?_allocate s.store.nextFile
  have hnew : s.table.fileOf? s.table.nextRecord = none := by
    rw [DescriptorTable.fileOf?, h.accounted.unused _ (Nat.le_refl _)]
    rfl
  have hfresh : ∀ f ∈ s.allocated, f ≠ s.store.nextFile := fun f hf => Nat.ne_of_lt (h.old f hf)
  have hholds : ∀ g, (s.step (.allocate f)).table.Holds g ↔
      s.table.Holds g ∨ g = s.store.nextFile := by
    intro g
    rw [hacc.holds_iff, h.accounted.holds_iff]
    constructor
    · rintro ⟨r, hr⟩
      rw [hfile] at hr
      split at hr
      · exact .inr (Option.some.inj hr).symm
      · exact .inl ⟨r, hr⟩
    · rintro (⟨r, hr⟩ | rfl)
      · refine ⟨r, ?_⟩
        have hne : r ≠ s.table.nextRecord := by
          rintro rfl
          rw [hnew] at hr
          cases hr
        rw [hfile, if_neg hne, hr]
      · exact ⟨s.table.nextRecord, by rw [hfile, if_pos rfl]⟩
  have hmem : ∀ g, g ∈ (s.step (.allocate f)).allocated ↔
      g ∈ s.allocated ∨ g = s.store.nextFile := by
    intro g
    simp [step, FileStore.add]
  refine ⟨?_, none, by simp [step], fun g => ?_⟩
  · constructor
    · exact hacc
    · intro g hg
      change g < s.store.nextFile + 1
      rcases (hmem g).mp hg with hg | rfl
      · exact Nat.lt_succ_of_lt (h.old g hg)
      · exact Nat.lt_succ_self _
    · intro r g hg
      rw [hfile] at hg
      split at hg
      · exact (hmem g).mpr (.inr (Option.some.inj hg).symm)
      · exact (hmem g).mpr (.inl (h.known r g hg))
    · intro r r' g hr hr'
      rw [hfile] at hr hr'
      split at hr <;> split at hr'
      · next h₁ h₂ => rw [h₁, h₂]
      · next h₂ => exact absurd (Option.some.inj hr).symm (hfresh g (h.known r' g hr'))
      · next h₂ => exact absurd (Option.some.inj hr').symm (hfresh g (h.known r g hr))
      · exact h.own r r' g hr hr'
    · intro g hg
      rcases (hholds g).mp hg with hg | rfl
      · exact h.open_ g hg
      · exact fun hc => hfresh _ (h.closed_known _ hc) rfl
    · intro g hg hn
      have hne : g ≠ s.store.nextFile := fun he => hn ((hholds g).mpr (.inr he))
      have hold : ¬ s.table.Holds g := fun hh => hn ((hholds g).mpr (.inl hh))
      exact h.closed_once g (((hmem g).mp hg).resolve_right hne) hold
    · intro g hg
      exact (hmem g).mpr (.inl (h.closed_known g hg))
  · rw [hholds]
    simp only [reduceCtorEq, false_iff, not_and, not_not]
    exact .inl

theorem Settled.step {s : TableRun} (h : s.Settled) (c : TableCall) :
    (s.step c).Settled ∧ ClosesReleased s (s.step c) := by
  have hnothing : s.Settled ∧ ClosesReleased s s := ⟨h, none, by simp, by simp⟩
  cases c with
  | allocate f => exact h.allocate f
  | release fd =>
    simp only [TableRun.step]
    split
    · next hok =>
      exact h.close (h.accounted.release hok) (DescriptorTable.release_drops hok)
    · exact hnothing
  | dup fd =>
    simp only [TableRun.step]
    split
    · next hok => exact h.close (h.accounted.dup hok) (DescriptorTable.dup_drops hok)
    · exact hnothing
  | dup2 fd target =>
    simp only [TableRun.step]
    split
    · next hok => exact h.close (h.accounted.dup2 hok) (DescriptorTable.dup2_drops hok)
    · exact hnothing

theorem Settled.run {s : TableRun} (h : s.Settled) (calls : List TableCall) :
    (s.run calls).Settled := by
  induction calls generalizing s with
  | nil => exact h
  | cons c rest ih => exact ih (h.step c).1

/-- After any calls on an empty table every record in a slot counts the slots that refer to it; no
file in a slot has been closed, and every other file that was allocated has been closed once; and
the next call closes the file whose last slot it empties, and no other. -/
theorem closed_once_by_last_release (store : FileStore) (calls : List TableCall) :
    let s := TableRun.run ⟨store, {}, [], []⟩ calls
    (∀ fd r, s.table.recordId? fd = some r →
      ∃ d, s.table.records.find? r = some d ∧ d.refs = s.table.slots.count (some r)) ∧
    (∀ f ∈ s.allocated, (s.table.Holds f → f ∉ s.closed) ∧
      (¬ s.table.Holds f → s.closed.count f = 1)) ∧
    ∀ c, ∃ shut : Option Nat, (s.step c).closed = s.closed ++ shut.toList ∧
      ∀ f, shut = some f ↔ s.table.Holds f ∧ ¬ (s.step c).table.Holds f := by
  intro s
  have h : s.Settled := (settled_start store).run calls
  refine ⟨?_, ?_, ?_⟩
  · intro fd r hr
    exact h.accounted.exists_record_of_slot hr
  · intro f hf
    exact ⟨h.open_ f, h.closed_once f hf⟩
  · intro c
    exact (h.step c).2

end TableRun

end SyscallBridge
