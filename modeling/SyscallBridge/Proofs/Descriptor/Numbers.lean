import Mathlib.Data.Finmap
import Mathlib.Data.Fintype.EquivFin
import SyscallBridge.Proofs.Descriptor.Closing
import SyscallBridge.Proofs.Descriptor.Slots

/-!
# Tables as maps of numbers

A table answers as a finite map from numbers to open files would that gives each new entry the
least number it does not have. The map has no slots: neither the holes that releases leave nor the
empty slots that `dup2` adds, so that counting slots and searching them has to come out as counting
and searching entries. One call keeps table and map together, and so does every run of calls.
-/

namespace SyscallBridge

/-- A call on a table; `dup2` has a target that no table refuses. -/
inductive DescriptorCall where
  | allocate (f : OpenFile)
  | lookup (fd : Nat)
  | release (fd : Nat)
  | dup (fd : Nat)
  | dup2 (fd : Nat) (target : Fin maxDescriptors)
  | refCount (fd : Nat)
  | size

inductive DescriptorReply where
  /-- A descriptor, or how many there are. -/
  | number (n : Nat)
  /-- An open file. -/
  | file (id : Nat)
  | done
  deriving DecidableEq, Repr

namespace DescriptorCall

/-- The call as one that changes the table, unless it only looks. -/
def change? : DescriptorCall → Option TableCall
  | allocate f => some (.allocate f)
  | release fd => some (.release fd)
  | dup fd => some (.dup fd)
  | dup2 fd target => some (.dup2 fd target)
  | lookup _ | refCount _ | size => none

/-- The call is for a new number. -/
def isNew : DescriptorCall → Bool
  | allocate _ | dup _ => true
  | _ => false

/-- The call names the number as one to change, by itself or, when it is for a new number, by its
reply. -/
def Names (c : DescriptorCall) (reply : Except CallError DescriptorReply) (n : Nat) : Prop :=
  match c with
  | allocate _ | dup _ => reply = .ok (.number n)
  | release fd => n = fd
  | dup2 _ target => n = target
  | lookup _ | refCount _ | size => False

end DescriptorCall

/-! ### Maps -/

/-- A finite map from numbers to open files, which are told apart by the order of their opening. -/
structure NumberMap where
  files : Finmap fun _ : Nat => Nat := ∅
  nextFile : Nat

namespace NumberMap

variable (m : NumberMap)

/-- The least number that is not in the map. -/
def least : Nat := Nat.find (Infinite.exists_notMem_finset m.files.keys)

/-- The open file of a number. -/
def get (n : Nat) : Except CallError Nat :=
  match m.files.lookup n with
  | some file => .ok file
  | none => .error (.badDescriptor n)

def put (n file : Nat) : NumberMap := { m with files := m.files.insert n file }

def drop (n : Nat) : NumberMap := { m with files := m.files.erase n }

/-- The numbers with the same open file as `n`. -/
def sharing (n : Nat) : Finset Nat :=
  m.files.keys.filter fun d => m.files.lookup d = m.files.lookup n

/-- The answer to a call, and the map that it leaves. -/
def step : DescriptorCall → Except CallError DescriptorReply × NumberMap
  | .allocate _ =>
    (.ok (.number m.least), { m.put m.least m.nextFile with nextFile := m.nextFile + 1 })
  | .lookup fd => ((m.get fd).map .file, m)
  | .release fd =>
    match m.get fd with
    | .ok _ => (.ok .done, m.drop fd)
    | .error e => (.error e, m)
  | .dup fd =>
    match m.get fd with
    | .ok file => (.ok (.number m.least), m.put m.least file)
    | .error e => (.error e, m)
  | .dup2 fd target =>
    match m.get fd with
    | .ok file => (.ok (.number target), m.put target file)
    | .error e => (.error e, m)
  | .refCount fd => (.ok (.number (m.sharing fd).card), m)
  | .size => (.ok (.number m.files.keys.card), m)

def replies (m : NumberMap) : List DescriptorCall → List (Except CallError DescriptorReply)
  | [] => []
  | c :: rest => (m.step c).1 :: (m.step c).2.replies rest

def run (calls : List DescriptorCall) : NumberMap := calls.foldl (fun m c => (m.step c).2) m

variable {m}

theorem get_put (n file d : Nat) : (m.put n file).get d = if d = n then .ok file else m.get d := by
  rw [get, put]
  by_cases hd : d = n
  · rw [if_pos hd, hd, Finmap.lookup_insert]
  · rw [if_neg hd, Finmap.lookup_insert_of_ne _ hd, get]

theorem get_drop (n d : Nat) :
    (m.drop n).get d = if d = n then .error (.badDescriptor n) else m.get d := by
  rw [get, drop]
  by_cases hd : d = n
  · rw [if_pos hd, hd, Finmap.lookup_erase]
  · rw [if_neg hd, Finmap.lookup_erase_ne hd, get]

theorem get_eq_ok_iff {n file : Nat} : m.get n = .ok file ↔ m.files.lookup n = some file := by
  rw [get]
  cases m.files.lookup n <;> simp

theorem mem_keys_iff {n : Nat} : n ∈ m.files.keys ↔ ∃ file, m.get n = .ok file := by
  rw [Finmap.mem_keys, Finmap.mem_iff]
  exact exists_congr fun file => get_eq_ok_iff.symm

theorem get_of_notMem {n : Nat} (h : n ∉ m.files.keys) : m.get n = .error (.badDescriptor n) := by
  rw [Finmap.mem_keys, ← Finmap.lookup_eq_none] at h
  rw [get, h]

theorem mem_of_lt_least {n : Nat} (h : n < m.least) : n ∈ m.files.keys :=
  not_not.1 (Nat.find_min (Infinite.exists_notMem_finset m.files.keys) h)

/-- There are as many entries as numbers below the least that is not in the map, or more. -/
theorem least_le_card : m.least ≤ m.files.keys.card := by
  rw [← Finset.card_range m.least]
  exact Finset.card_le_card fun n hn => mem_of_lt_least (Finset.mem_range.1 hn)

theorem step_of_isNew {c : DescriptorCall} (hc : c.isNew = true) {n : Nat}
    (hreply : (m.step c).1 = .ok (.number n)) : n = m.least := by
  cases c with
  | allocate f =>
    cases hreply
    rfl
  | dup fd =>
    rw [step] at hreply
    cases hfd : m.get fd with
    | ok file =>
      rw [hfd] at hreply
      cases hreply
      rfl
    | error e =>
      rw [hfd] at hreply
      cases hreply
  | lookup | release | dup2 | refCount | size => cases hc

theorem get_step_release (fd : Nat) :
    (m.step (.release fd)).2.get fd = .error (.badDescriptor fd) := by
  rw [step]
  by_cases hfd : fd ∈ m.files.keys
  · obtain ⟨file, hfile⟩ := mem_keys_iff.1 hfd
    rw [hfile]
    exact (get_drop fd fd).trans (if_pos rfl)
  · rw [get_of_notMem hfd]
    exact get_of_notMem hfd

/-- A call changes no entry but one that it names. -/
theorem get_step {c : DescriptorCall} {n : Nat} (hn : ¬ c.Names (m.step c).1 n) :
    (m.step c).2.get n = m.get n := by
  cases c with
  | allocate f =>
    have hne : n ≠ m.least := by
      rintro rfl
      exact hn rfl
    exact (get_put m.least m.nextFile n).trans (if_neg hne)
  | lookup | refCount | size => rfl
  | release fd =>
    rw [step]
    cases m.get fd with
    | ok file => exact (get_drop fd n).trans (if_neg hn)
    | error e => rfl
  | dup fd =>
    simp only [DescriptorCall.Names] at hn
    rw [step] at hn ⊢
    cases hfd : m.get fd with
    | ok file =>
      have hne : n ≠ m.least := by
        rintro rfl
        rw [hfd] at hn
        exact hn rfl
      exact (get_put m.least file n).trans (if_neg hne)
    | error e => rfl
  | dup2 fd target =>
    rw [step]
    cases m.get fd with
    | ok file => exact (get_put target file n).trans (if_neg hn)
    | error e => rfl

end NumberMap

/-! ### Slots of a table -/

namespace DescriptorTable

variable {φ : Type} {t : DescriptorTable φ}

/-- Counting slots is counting the numbers they have. -/
theorem card_filter_range (slots : List (Option Nat)) (p : Option Nat → Prop) [DecidablePred p] :
    ((Finset.range slots.length).filter fun d => p (slots[d]?).join).card =
      slots.countP fun v => p v := by
  induction slots using List.reverseRecOn with
  | nil => rfl
  | append_singleton slots v ih =>
    have hinit : (Finset.range slots.length).filter (fun d => p ((slots ++ [v])[d]?).join) =
        (Finset.range slots.length).filter fun d => p (slots[d]?).join :=
      Finset.filter_congr fun d hd => by
        rw [List.getElem?_append_left (Finset.mem_range.1 hd)]
    have hlast : ((slots ++ [v])[slots.length]?).join = v := by
      rw [List.getElem?_concat_length]
      rfl
    rw [List.length_append, List.length_singleton, Finset.range_add_one, Finset.filter_insert,
      hinit, hlast, List.countP_append, List.countP_singleton, ← ih]
    by_cases hv : p v
    · rw [if_pos hv, if_pos (decide_eq_true hv), Finset.card_insert_of_notMem (by simp)]
    · rw [if_neg hv, if_neg (by simpa using hv), Nat.add_zero]

theorem exists_recordId?_of_lt_lowestFree {n : Nat} (h : n < lowestFree t.slots) :
    ∃ r, t.recordId? n = some r := by
  have hlt : n < t.slots.length := Nat.lt_of_lt_of_le h List.findIdx_le_length
  have hused : t.slots[n].isNone = false := List.not_of_lt_findIdx h
  obtain ⟨r, hr⟩ := Option.isSome_iff_exists.1 (Option.isNone_eq_false_iff.1 hused)
  refine ⟨r, ?_⟩
  rw [recordId?, List.getElem?_eq_getElem hlt, hr]
  rfl

/-- At rest a slot is empty when looking it up fails. -/
theorem Accounted.recordId?_of_lookup (h : t.Accounted none) {fd : Nat} {e : CallError}
    (hfd : t.lookup fd = .error e) : t.recordId? fd = none ∧ e = .badDescriptor fd := by
  cases hr : t.recordId? fd with
  | none =>
    rw [lookup_of_free hr] at hfd
    cases hfd
    exact ⟨rfl, rfl⟩
  | some r =>
    obtain ⟨d, hd, -⟩ := h.exists_record_of_slot hr
    rw [lookup, hr, Option.bind_some, hd] at hfd
    cases hfd

/-- At rest the numbers with the file of a record are those whose slots refer to it. -/
theorem Distinct.lookup_iff (hown : t.Distinct) {r n : Nat} {f : φ} (hf : t.fileOf? r = some f) :
    t.lookup n = .ok f ↔ t.recordId? n = some r := by
  rw [lookup_eq_ok_iff]
  constructor
  · rintro ⟨r', hr', hf'⟩
    rw [hr', hown r' r f hf' hf]
  · intro hr
    exact ⟨r, hr, hf⟩

end DescriptorTable

/-! ### Replies of a table -/

/-- What closing the file that a table has let go of answers. -/
def FileStore.closeReply (fs : FileStore) : Option Nat → Progress Reply SocketPending
  | none => .done (.ok .done)
  | some id => (fs.start id .close).progress

/-- No file fails to close, and none has to wait. -/
theorem FileStore.closeReply_eq (fs : FileStore) (shut : Option Nat) :
    fs.closeReply shut = .done (.ok .done) := by
  cases shut with
  | none => rfl
  | some id =>
    simp only [closeReply, start]
    cases fs.file id <;> rfl

namespace TableRun

/-- The reply of a call that closes what it lets go of: an error of the table or of the closing, or
else `reply`. -/
def closingReply (s : TableRun) (result : Except CallError (Option Nat × DescriptorTable Nat))
    (reply : DescriptorReply) : Progress DescriptorReply SocketPending :=
  match result with
  | .ok (file, _) => (s.store.closeReply file).map (fun _ => reply) (·)
  | .error e => .done (.error e)

def reply (s : TableRun) : DescriptorCall → Progress DescriptorReply SocketPending
  | .allocate f =>
    let (file, _) := s.store.add f
    .done (.ok (.number (s.table.allocate file).1))
  | .lookup fd => .done ((s.table.lookup fd).map .file)
  | .release fd => s.closingReply (s.table.release fd) .done
  | .dup fd => .done ((s.table.dup fd).map fun (copy, _) => .number copy)
  | .dup2 fd target => s.closingReply (s.table.dup2 fd target) (.number target)
  | .refCount fd => .done (.ok (.number (s.table.refCount fd)))
  | .size => .done (.ok (.number s.table.size))

def next (s : TableRun) (c : DescriptorCall) : TableRun := c.change?.elim s s.step

def replies (s : TableRun) : List DescriptorCall → List (Progress DescriptorReply SocketPending)
  | [] => []
  | c :: rest => s.reply c :: (s.next c).replies rest

def serve (s : TableRun) (calls : List DescriptorCall) : TableRun := calls.foldl next s

variable {s : TableRun} {m : NumberMap}

@[simp] theorem table_close (s : TableRun) (shut : Option Nat) : (s.close shut).table = s.table := by
  cases shut <;> rfl

@[simp] theorem nextFile_close (s : TableRun) (shut : Option Nat) :
    (s.close shut).store.nextFile = s.store.nextFile := by
  cases shut with
  | none => rfl
  | some id => exact FileStore.nextFile_close s.store id

theorem Settled.next (h : s.Settled) (c : DescriptorCall) : (s.next c).Settled := by
  rw [TableRun.next]
  cases c.change? with
  | none => exact h
  | some c => exact (h.step c).1

/-- A table and a map that look the same from outside. -/
structure Follows (s : TableRun) (m : NumberMap) : Prop where
  settled : s.Settled
  lookup_eq : ∀ n, s.table.lookup n = m.get n
  nextFile_eq : s.store.nextFile = m.nextFile

theorem follows_start (store : FileStore) : Follows ⟨store, {}, [], []⟩ ⟨∅, store.nextFile⟩ where
  settled := settled_start store
  lookup_eq _ := rfl
  nextFile_eq := rfl

namespace Follows

theorem mem_keys_iff (h : Follows s m) {n : Nat} :
    n ∈ m.files.keys ↔ ∃ r, s.table.recordId? n = some r := by
  rw [NumberMap.mem_keys_iff]
  simp only [← h.lookup_eq]
  constructor
  · rintro ⟨file, hfile⟩
    obtain ⟨r, hr, -⟩ := DescriptorTable.lookup_eq_ok_iff.1 hfile
    exact ⟨r, hr⟩
  · rintro ⟨r, hr⟩
    exact h.settled.accounted.exists_lookup_of_slot hr

/-- The first empty slot has the least number that the map does not have. -/
theorem lowestFree_eq (h : Follows s m) : DescriptorTable.lowestFree s.table.slots = m.least := by
  refine ((Nat.find_eq_iff _).2 ⟨?_, ?_⟩).symm
  · rw [h.mem_keys_iff]
    rintro ⟨r, hr⟩
    rw [DescriptorTable.recordId?, DescriptorTable.join_lowestFree] at hr
    cases hr
  · intro n hn hfree
    exact hfree (h.mem_keys_iff.2 (DescriptorTable.exists_recordId?_of_lt_lowestFree hn))

theorem size_eq (h : Follows s m) : s.table.size = m.files.keys.card := by
  have hkeys : m.files.keys = (Finset.range s.table.slots.length).filter fun d =>
      (s.table.slots[d]?).join.isSome = true := by
    ext n
    rw [h.mem_keys_iff, Finset.mem_filter, Finset.mem_range, ← Option.isSome_iff_exists]
    refine ⟨fun hn => ⟨?_, hn⟩, fun hn => hn.2⟩
    obtain ⟨r, hr⟩ := Option.isSome_iff_exists.1 hn
    exact DescriptorTable.lt_length_of_recordId? hr
  rw [hkeys, DescriptorTable.card_filter_range _ fun v => v.isSome = true]
  simp only [Bool.decide_eq_true]
  rfl

theorem refCount_eq (h : Follows s m) (fd : Nat) :
    s.table.refCount fd = (m.sharing fd).card := by
  cases hr : s.table.recordId? fd with
  | none =>
    have hempty : m.sharing fd = ∅ := by
      refine Finset.filter_eq_empty_iff.2 fun n hn hsame => ?_
      have hfd : fd ∈ m.files.keys := by
        rw [Finmap.mem_keys, ← Finmap.lookup_isSome] at hn ⊢
        rw [← hsame, hn]
      obtain ⟨r, hr'⟩ := h.mem_keys_iff.1 hfd
      rw [hr] at hr'
      cases hr'
    rw [hempty, DescriptorTable.refCount, hr]
    rfl
  | some r =>
    obtain ⟨d, hd, hrefs⟩ := h.settled.accounted.exists_record_of_slot hr
    have hfile : s.table.fileOf? r = some d.file := congrArg _ hd
    have hown : s.table.Distinct := h.settled.own
    have hslot : ∀ n, m.files.lookup n = some d.file ↔ s.table.recordId? n = some r := by
      intro n
      rw [← NumberMap.get_eq_ok_iff, ← h.lookup_eq]
      exact hown.lookup_iff hfile
    have hsharing : m.sharing fd = (Finset.range s.table.slots.length).filter fun n =>
        (s.table.slots[n]?).join = some r := by
      ext n
      rw [NumberMap.sharing, Finset.mem_filter, (hslot fd).2 hr, hslot, Finset.mem_filter,
        Finset.mem_range]
      constructor
      · rintro ⟨-, hn⟩
        exact ⟨DescriptorTable.lt_length_of_recordId? hn, hn⟩
      · rintro ⟨-, hn⟩
        exact ⟨h.mem_keys_iff.2 ⟨r, hn⟩, hn⟩
    rw [hsharing, DescriptorTable.card_filter_range _ fun v => v = some r,
      DescriptorTable.refCount, hr, Option.bind_some, hd, Option.map_some, Option.getD_some, hrefs,
      List.count_eq_countP]
    exact List.countP_congr fun v _ => by simp

end Follows

/-! ### One call -/

/-- A reply that is the map's, and a state that still follows the map. -/
def Agrees (s : TableRun) (m : NumberMap) (c : DescriptorCall) : Prop :=
  s.reply c = .done (m.step c).1 ∧ Follows (s.next c) (m.step c).2

namespace Follows

variable {c : DescriptorCall}

theorem refused (h : Follows s m) {e : CallError} (hreply : s.reply c = .done (.error e))
    (hnext : s.next c = s) (hmap : m.step c = (.error e, m)) : Agrees s m c := by
  rw [Agrees, hreply, hnext, hmap]
  exact ⟨rfl, h⟩

theorem changed (h : Follows s m) (reply : DescriptorReply) (shut : Option Nat)
    (table : DescriptorTable Nat) (m' : NumberMap) (hreply : s.reply c = .done (.ok reply))
    (hnext : s.next c = { s with table }.close shut) (hmap : m.step c = (.ok reply, m'))
    (hlookup : ∀ n, table.lookup n = m'.get n) (hfile : m'.nextFile = m.nextFile) :
    Agrees s m c := by
  have hsettled := h.settled.next c
  rw [hnext] at hsettled
  rw [Agrees, hreply, hnext, hmap]
  refine ⟨rfl, hsettled, fun n => ?_, ?_⟩
  · rw [table_close]
    exact hlookup n
  · rw [nextFile_close, hfile]
    exact h.nextFile_eq

theorem allocate (h : Follows s m) (f : OpenFile) : Agrees s m (.allocate f) := by
  have hnumber : (s.table.allocate s.store.nextFile).1 = m.least := h.lowestFree_eq
  have hreply : s.reply (.allocate f) =
      .done (.ok (.number (s.table.allocate s.store.nextFile).1)) := rfl
  rw [hnumber] at hreply
  refine ⟨hreply, h.settled.next _, fun n => ?_, congrArg (· + 1) h.nextFile_eq⟩
  change (s.table.allocate s.store.nextFile).2.lookup n = (m.put m.least m.nextFile).get n
  rw [h.settled.accounted.lookup_allocate, hnumber, h.lookup_eq, h.nextFile_eq, NumberMap.get_put]

theorem release (h : Follows s m) (fd : Nat) : Agrees s m (.release fd) := by
  have hacc := h.settled.accounted
  cases hfd : m.get fd with
  | error e =>
    obtain ⟨hslot, rfl⟩ := hacc.recordId?_of_lookup ((h.lookup_eq fd).trans hfd)
    have hfail : s.table.release fd = .error (.badDescriptor fd) := by
      rw [DescriptorTable.release, hslot]
    refine h.refused (e := .badDescriptor fd) ?_ ?_ ?_
    · rw [reply, hfail, closingReply]
    · simp only [next, DescriptorCall.change?, Option.elim_some, step, hfail]
    · rw [NumberMap.step, hfd]
  | ok file =>
    obtain ⟨r, hr, -⟩ := DescriptorTable.lookup_eq_ok_iff.1 ((h.lookup_eq fd).trans hfd)
    obtain ⟨⟨shut, table⟩, hok⟩ : ∃ result, s.table.release fd = .ok result := by
      rw [DescriptorTable.release, hr]
      exact ⟨_, rfl⟩
    refine h.changed .done shut table (m.drop fd) ?_ ?_ ?_ ?_ rfl
    · rw [reply, hok, closingReply, FileStore.closeReply_eq]
      rfl
    · simp only [next, DescriptorCall.change?, Option.elim_some, step, hok]
    · rw [NumberMap.step, hfd]
    · intro n
      rw [hacc.lookup_release hok, NumberMap.get_drop, h.lookup_eq]

theorem dup (h : Follows s m) (fd : Nat) : Agrees s m (.dup fd) := by
  have hacc := h.settled.accounted
  cases hfd : m.get fd with
  | error e =>
    obtain ⟨hslot, rfl⟩ := hacc.recordId?_of_lookup ((h.lookup_eq fd).trans hfd)
    have hfail : s.table.dup fd = .error (.badDescriptor fd) := by
      rw [DescriptorTable.dup, hslot]
    refine h.refused (e := .badDescriptor fd) ?_ ?_ ?_
    · rw [reply, hfail]
      rfl
    · simp only [next, DescriptorCall.change?, Option.elim_some, step, hfail]
    · rw [NumberMap.step, hfd]
  | ok file =>
    have hlookup := (h.lookup_eq fd).trans hfd
    obtain ⟨r, hr, -⟩ := DescriptorTable.lookup_eq_ok_iff.1 hlookup
    obtain ⟨table, hok⟩ : ∃ table, s.table.dup fd = .ok (m.least, table) := by
      rw [DescriptorTable.dup, hr, ← h.lowestFree_eq]
      exact ⟨_, rfl⟩
    refine h.changed (.number m.least) none table (m.put m.least file) ?_ ?_ ?_ ?_ rfl
    · rw [reply, hok]
      rfl
    · simp only [next, DescriptorCall.change?, Option.elim_some, step, hok, TableRun.close]
    · rw [NumberMap.step, hfd]
    · intro n
      rw [hacc.lookup_dup hok hlookup, NumberMap.get_put, h.lookup_eq]

theorem dup2 (h : Follows s m) (fd : Nat) (target : Fin maxDescriptors) :
    Agrees s m (.dup2 fd target) := by
  have hacc := h.settled.accounted
  have htarget : ¬ maxDescriptors ≤ target := Nat.not_le_of_lt target.isLt
  cases hfd : m.get fd with
  | error e =>
    obtain ⟨hslot, rfl⟩ := hacc.recordId?_of_lookup ((h.lookup_eq fd).trans hfd)
    have hfail : s.table.dup2 fd target = .error (.badDescriptor fd) := by
      rw [DescriptorTable.dup2, if_neg htarget, hslot]
    refine h.refused (e := .badDescriptor fd) ?_ ?_ ?_
    · rw [reply, hfail, closingReply]
    · simp only [next, DescriptorCall.change?, Option.elim_some, step, hfail]
    · rw [NumberMap.step, hfd]
  | ok file =>
    have hlookup := (h.lookup_eq fd).trans hfd
    obtain ⟨r, hr, -⟩ := DescriptorTable.lookup_eq_ok_iff.1 hlookup
    obtain ⟨⟨shut, table⟩, hok⟩ : ∃ result, s.table.dup2 fd target = .ok result := by
      simp only [DescriptorTable.dup2, if_neg htarget, hr]
      split
      · exact ⟨_, rfl⟩
      · split <;> exact ⟨_, rfl⟩
    refine h.changed (.number target) shut table (m.put target file) ?_ ?_ ?_ ?_ rfl
    · rw [reply, hok, closingReply, FileStore.closeReply_eq]
      rfl
    · simp only [next, DescriptorCall.change?, Option.elim_some, step, hok]
    · rw [NumberMap.step, hfd]
    · intro n
      rw [hacc.lookup_dup2 hok hlookup, NumberMap.get_put, h.lookup_eq]

theorem agrees (h : Follows s m) (c : DescriptorCall) : Agrees s m c := by
  cases c with
  | allocate f => exact h.allocate f
  | lookup fd =>
    refine ⟨?_, h⟩
    rw [reply, h.lookup_eq, NumberMap.step]
  | release fd => exact h.release fd
  | dup fd => exact h.dup fd
  | dup2 fd target => exact h.dup2 fd target
  | refCount fd =>
    refine ⟨?_, h⟩
    rw [reply, h.refCount_eq, NumberMap.step]
  | size =>
    refine ⟨?_, h⟩
    rw [reply, h.size_eq, NumberMap.step]

theorem replies_eq (h : Follows s m) (calls : List DescriptorCall) :
    s.replies calls = (m.replies calls).map .done := by
  induction calls generalizing s m with
  | nil => rfl
  | cons c rest ih =>
    obtain ⟨hreply, hnext⟩ := h.agrees c
    rw [TableRun.replies, NumberMap.replies, List.map_cons, hreply, ih hnext]

theorem serve (h : Follows s m) (calls : List DescriptorCall) :
    Follows (s.serve calls) (m.run calls) := by
  induction calls generalizing s m with
  | nil => exact h
  | cons c rest ih => exact ih (h.agrees c).2

theorem live_iff (h : Follows s m) {n : Nat} :
    (∃ file, s.table.lookup n = .ok file) ↔ n ∈ m.files.keys := by
  rw [NumberMap.mem_keys_iff, h.lookup_eq]

theorem free_iff (h : Follows s m) {n : Nat} :
    s.table.lookup n = .error (.badDescriptor n) ↔ n ∉ m.files.keys := by
  rw [h.lookup_eq]
  constructor
  · intro hfree hn
    obtain ⟨file, hfile⟩ := NumberMap.mem_keys_iff.1 hn
    rw [hfile] at hfree
    cases hfree
  · exact NumberMap.get_of_notMem

theorem number_eq_least (h : Follows s m) (hc : c.isNew = true) {n : Nat}
    (hreply : s.reply c = .done (.ok (.number n))) : n = m.least := by
  rw [(h.agrees c).1] at hreply
  exact NumberMap.step_of_isNew hc (Progress.done.inj hreply)

/-- A new number is the free one with no free one below it. -/
theorem number_eq_iff (h : Follows s m) (hc : c.isNew = true) {n : Nat}
    (hreply : s.reply c = .done (.ok (.number n))) (d : Nat) :
    n = d ↔ s.table.lookup d = .error (.badDescriptor d) ∧
      ∀ k < d, ∃ file, s.table.lookup k = .ok file := by
  rw [h.number_eq_least hc hreply, NumberMap.least, Nat.find_eq_iff, h.free_iff]
  simp only [h.live_iff, not_not]

end Follows

/-- Through any run of calls a table answers as a map does in which a new entry takes the least
number without one, and has the same entries in the end. A new number is the one that is free with
none free below it, so that a number just released is the next one exactly when none is free below
it; and a call changes no entry but one that it names. -/
theorem answers_as_map (store : FileStore) (calls : List DescriptorCall) :
    let start : TableRun := ⟨store, {}, [], []⟩
    let empty : NumberMap := ⟨∅, store.nextFile⟩
    let s := start.serve calls
    start.replies calls = (empty.replies calls).map .done ∧
    (∀ n, s.table.lookup n = (empty.run calls).get n) ∧
    (∀ c n, c.isNew = true → s.reply c = .done (.ok (.number n)) →
      n ≤ (empty.run calls).files.keys.card ∧
      ∀ d, n = d ↔ s.table.lookup d = .error (.badDescriptor d) ∧
        ∀ k < d, ∃ file, s.table.lookup k = .ok file) ∧
    (∀ fd c n, c.isNew = true → (s.next (.release fd)).reply c = .done (.ok (.number n)) →
      (n = fd ↔ ∀ k < fd, ∃ file, s.table.lookup k = .ok file)) ∧
    ∀ c n, (∀ a, s.reply c = .done a → ¬ c.Names a n) →
      (s.next c).table.lookup n = s.table.lookup n := by
  intro start empty s
  have h : Follows s (empty.run calls) := (follows_start store).serve calls
  have hframe : ∀ c n, (∀ a, s.reply c = .done a → ¬ c.Names a n) →
      (s.next c).table.lookup n = s.table.lookup n := by
    intro c n hn
    obtain ⟨hreply, hnext⟩ := h.agrees c
    rw [hnext.lookup_eq, h.lookup_eq, NumberMap.get_step (hn _ hreply)]
  refine ⟨(follows_start store).replies_eq calls, h.lookup_eq, ?_, ?_, hframe⟩
  · intro c n hc hreply
    refine ⟨?_, h.number_eq_iff hc hreply⟩
    rw [h.number_eq_least hc hreply]
    exact NumberMap.least_le_card
  · intro fd c n hc hreply
    have hnext := (h.agrees (.release fd)).2
    have hfree : (s.next (.release fd)).table.lookup fd = .error (.badDescriptor fd) := by
      rw [hnext.lookup_eq, NumberMap.get_step_release]
    have hbelow : ∀ k < fd, (s.next (.release fd)).table.lookup k = s.table.lookup k :=
      fun k hk => hframe (.release fd) k fun _ _ => Nat.ne_of_lt hk
    rw [hnext.number_eq_iff hc hreply, and_iff_right hfree]
    exact forall₂_congr fun k hk => by rw [hbelow k hk]

/-- The holes between 0 and 5 are filled from below. -/
example : (⟨{}, {}, [], []⟩ : TableRun).replies
    [.allocate .unsupported, .dup2 0 ⟨5, by decide⟩, .release 0, .dup 5, .dup 5, .refCount 5, .size,
      .release 0, .lookup 0, .allocate .unsupported] =
    [.done (.ok (.number 0)), .done (.ok (.number 5)), .done (.ok .done), .done (.ok (.number 0)),
      .done (.ok (.number 1)), .done (.ok (.number 3)), .done (.ok (.number 3)),
      .done (.ok .done), .done (.error (.badDescriptor 0)), .done (.ok (.number 0))] := rfl

end TableRun

end SyscallBridge
