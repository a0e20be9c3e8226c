import SyscallBridge.Proofs.Descriptor.Numbers

/-!
# The limit on targets

`dup2` looks at the limit before it looks at anything else, while opening and `dup` know of no
limit. As long as no more descriptors are open at once than the limit admits, every one of them is
below it, and `dup2` gives each back that is made its own target. Beyond that some open descriptor
is refused as if it were not one.
-/

namespace SyscallBridge

namespace DescriptorTable

variable {φ : Type} {t t' : DescriptorTable φ}

/-! ### How far the slots reach -/

theorem length_putSlot (slots : List (Option Nat)) (fd : Nat) (v : Option Nat) :
    (putSlot slots fd v).length = max slots.length (fd + 1) := by
  simp only [putSlot_eq_set, List.length_set, List.length_append, List.length_replicate]
  omega

/-- With no slot empty a new descriptor takes one more slot. -/
theorem slots_place_of_full (h : lowestFree t.slots = t.slots.length) (r : Nat) :
    (t.place r).2.slots = t.slots ++ [some r] := by
  change putSlot t.slots (lowestFree t.slots) (some r) = _
  rw [h, putSlot, if_neg (Nat.lt_irrefl _), Nat.sub_self]
  rfl

/-- A slot is added only when all are in use. -/
theorem length_place_le (t : DescriptorTable φ) (r : Nat) :
    (t.place r).2.slots.length ≤ max t.slots.length (t.place r).2.size := by
  have hle : lowestFree t.slots ≤ t.slots.length := List.findIdx_le_length
  rcases Nat.lt_or_eq_of_le hle with hlt | hfull
  · have hlength : (t.place r).2.slots.length = max t.slots.length (lowestFree t.slots + 1) :=
      length_putSlot t.slots _ _
    omega
  · have hused : (t.place r).2.size = (t.place r).2.slots.length := by
      rw [size, List.countP_eq_length, slots_place_of_full hfull]
      intro v hv
      rcases List.mem_append.1 hv with hv | hv
      · exact Option.isNone_eq_false_iff.1 (List.findIdx_eq_length.1 hfull v hv)
      · rw [List.mem_singleton.1 hv]
        rfl
    omega

theorem length_dup_le {fd copy : Nat} (hok : t.dup fd = .ok (copy, t')) :
    t'.slots.length ≤ max t.slots.length t'.size := by
  obtain ⟨r, -, hplace⟩ := dup_eq_ok hok
  have hle := length_place_le (t.retain r) r
  rw [hplace] at hle
  exact hle

theorem length_release {fd : Nat} {shut : Option φ} (hok : t.release fd = .ok (shut, t')) :
    t'.slots.length = t.slots.length := by
  obtain ⟨r, hr, hgo⟩ := release_eq_ok hok
  have hslots := slots_letGo (t := t.withSlot fd none) r
  rw [hgo] at hslots
  have hlength : t'.slots.length = max t.slots.length (fd + 1) :=
    (congrArg List.length hslots).trans (length_putSlot t.slots fd none)
  have hfd := lt_length_of_recordId? hr
  omega

theorem length_dup2_le {fd target : Nat} {shut : Option φ}
    (hok : t.dup2 fd target = .ok (shut, t')) :
    t'.slots.length ≤ max t.slots.length maxDescriptors := by
  obtain ⟨htarget, r, -, ⟨-, -, rfl⟩ | ⟨-, -, -, rfl⟩ | ⟨-, o, -, hgo⟩⟩ := dup2_eq_ok hok
  · exact Nat.le_max_left _ _
  · have hlength : ((t.retain r).withSlot target (some r)).slots.length = _ :=
      length_putSlot t.slots target (some r)
    omega
  · have hslots := slots_letGo (t := (t.retain r).withSlot target (some r)) o
    rw [hgo] at hslots
    have hlength : t'.slots.length = _ :=
      (congrArg List.length hslots).trans (length_putSlot t.slots target (some r))
    omega

/-- More descriptors than the limit admits cannot all be below it. -/
theorem exists_past_limit (h : maxDescriptors < t.size) :
    ∃ fd r, maxDescriptors ≤ fd ∧ t.recordId? fd = some r := by
  have hsplit : t.size = (t.slots.take maxDescriptors).countP Option.isSome +
      (t.slots.drop maxDescriptors).countP Option.isSome := by
    rw [← List.countP_append, List.take_append_drop]
    rfl
  have hbelow : (t.slots.take maxDescriptors).countP Option.isSome ≤ maxDescriptors :=
    List.countP_le_length.trans (List.length_take_le _ _)
  have hpast : 0 < (t.slots.drop maxDescriptors).countP Option.isSome := by omega
  obtain ⟨v, hv, hsome⟩ := List.countP_pos_iff.1 hpast
  obtain ⟨r, rfl⟩ := Option.isSome_iff_exists.1 hsome
  obtain ⟨i, hi⟩ := List.mem_iff_getElem?.1 hv
  rw [List.getElem?_drop] at hi
  exact ⟨maxDescriptors + i, r, Nat.le_add_right _ _, by rw [recordId?, hi, Option.join_some]⟩

/-- A descriptor as its own target. -/
theorem dup2_itself {fd r : Nat} (hr : t.recordId? fd = some r) :
    t.dup2 fd fd =
      if fd < maxDescriptors then .ok (none, t) else .error (.badDescriptor fd) := by
  by_cases hfd : fd < maxDescriptors
  · simp only [dup2, if_neg (Nat.not_le.2 hfd), hr, if_pos hfd, if_true]
  · rw [dup2, if_pos (Nat.le_of_not_lt hfd), if_neg hfd]

end DescriptorTable

namespace TableRun

/-- What `dup2` replies, also when it refuses its target. -/
def copyReply (s : TableRun) (fd target : Nat) : Progress DescriptorReply SocketPending :=
  s.closingReply (s.table.dup2 fd target) (.number target)

variable {s : TableRun} {calls : List TableCall}

/-! ### Runs -/

/-- A call adds slots up to the limit, or as many as are in use. -/
theorem length_step_le (s : TableRun) (c : TableCall) :
    (s.step c).table.slots.length ≤
      max (max s.table.slots.length maxDescriptors) (s.step c).table.size := by
  have hsame : s.table.slots.length ≤
      max (max s.table.slots.length maxDescriptors) s.table.size := by omega
  cases c with
  | allocate f =>
    have hle := DescriptorTable.length_place_le { s.table with
      records := s.table.records.insert s.table.nextRecord ⟨s.store.nextFile, 1⟩
      nextRecord := s.table.nextRecord + 1 } s.table.nextRecord
    exact hle.trans (max_le_max_right _ (Nat.le_max_left _ _))
  | release fd =>
    simp only [step]
    split
    · next hok =>
      have hlength := DescriptorTable.length_release hok
      rw [table_close]
      dsimp only
      omega
    · exact hsame
  | dup fd =>
    simp only [step]
    split
    · next hok =>
      have hle := DescriptorTable.length_dup_le hok
      exact hle.trans (max_le_max_right _ (Nat.le_max_left _ _))
    · exact hsame
  | dup2 fd target =>
    simp only [step]
    split
    · next hok =>
      have hle := DescriptorTable.length_dup2_le hok
      rw [table_close]
      exact hle.trans (Nat.le_max_left _ _)
    · exact hsame

theorem run_concat (s : TableRun) (calls : List TableCall) (c : TableCall) :
    s.run (calls ++ [c]) = (s.run calls).step c := by
  rw [run, List.foldl_append]
  rfl

/-- The slots stay within the limit while the descriptors in use do. -/
theorem length_run_le (hs : s.table.slots.length ≤ maxDescriptors)
    (hsize : ∀ n, (s.run (calls.take n)).table.size ≤ maxDescriptors) :
    (s.run calls).table.slots.length ≤ maxDescriptors := by
  -- from the end, since the last call is the one whose outcome is counted
  induction calls using List.reverseRecOn with
  | nil => exact hs
  | append_singleton calls c ih =>
    have hbefore : ∀ n, (s.run (calls.take n)).table.size ≤ maxDescriptors := by
      intro n
      have hn := hsize (min n calls.length)
      rwa [List.take_append_of_le_length (Nat.min_le_right _ _), ← List.take_eq_take_min] at hn
    have hafter := hsize (calls.length + 1)
    rw [List.take_of_length_le (by simp), run_concat] at hafter
    have hstep := length_step_le (s.run calls) c
    have hle := ih hbefore
    rw [run_concat]
    omega

/-! ### Descriptors that are their own target -/

theorem copyReply_itself {fd f : Nat} (hfd : s.table.lookup fd = .ok f) :
    s.step (.dup2 fd fd) = s ∧ s.copyReply fd fd =
      .done (if fd < maxDescriptors then .ok (.number fd) else .error (.badDescriptor fd)) := by
  obtain ⟨r, hr, -⟩ := DescriptorTable.lookup_eq_ok_iff.1 hfd
  have hdup2 := DescriptorTable.dup2_itself hr
  rw [step, copyReply, hdup2]
  by_cases hlimit : fd < maxDescriptors
  · simp only [if_pos hlimit]
    exact ⟨rfl, rfl⟩
  · simp only [if_neg hlimit]
    exact ⟨trivial, rfl⟩

/-- An open descriptor that is made its own target changes nothing, but it is given back only below
the limit; past it the reply is that there is no such descriptor. Every open descriptor is given
back at every point of a run exactly when the run never has more of them open at once than the
limit admits. -/
theorem own_target_given_back (store : FileStore) (calls : List TableCall) :
    let start : TableRun := ⟨store, {}, [], []⟩
    let s := start.run calls
    (∀ fd f, s.table.lookup fd = .ok f → s.step (.dup2 fd fd) = s ∧ s.copyReply fd fd =
      .done (if fd < maxDescriptors then .ok (.number fd) else .error (.badDescriptor fd))) ∧
    ((∀ n fd f, (start.run (calls.take n)).table.lookup fd = .ok f →
        (start.run (calls.take n)).copyReply fd fd = .done (.ok (.number fd))) ↔
      ∀ n, (start.run (calls.take n)).table.size ≤ maxDescriptors) := by
  intro start s
  refine ⟨fun fd f => copyReply_itself, fun hback n => ?_, fun hsize n fd f hfd => ?_⟩
  · -- with too many open, one is past the limit and is not given back
    by_contra hmany
    obtain ⟨fd, r, hpast, hr⟩ := DescriptorTable.exists_past_limit (Nat.lt_of_not_le hmany)
    have hsettled := (settled_start store).run (calls.take n)
    obtain ⟨f, hfd⟩ := hsettled.accounted.exists_lookup_of_slot hr
    have hreply := hback n fd f hfd
    rw [(copyReply_itself hfd).2, if_neg (Nat.not_lt.2 hpast)] at hreply
    cases hreply
  · have hlength : (start.run (calls.take n)).table.slots.length ≤ maxDescriptors := by
      refine length_run_le (Nat.zero_le _) fun m => ?_
      rw [List.take_take]
      exact hsize _
    obtain ⟨r, hr, -⟩ := DescriptorTable.lookup_eq_ok_iff.1 hfd
    have hlt := DescriptorTable.lt_length_of_recordId? hr
    rw [(copyReply_itself hfd).2, if_pos (Nat.lt_of_lt_of_le hlt hlength)]

/-- One file, and so many duplicates of its descriptor. -/
def manyCopies (n : Nat) : List TableCall := .allocate .unsupported :: List.replicate n (.dup 0)

theorem slots_manyCopies (n : Nat) : let t := (run ⟨{}, {}, [], []⟩ (manyCopies n)).table
    t.slots = List.replicate (n + 1) (some 0) ∧ t.fileOf? 0 = some 0 := by
  induction n with
  | zero => exact ⟨rfl, rfl⟩
  | succ n ih =>
    intro t
    obtain ⟨hslots, hfile⟩ := ih
    set before := run ⟨{}, {}, [], []⟩ (manyCopies n)
    have hlast : manyCopies (n + 1) = manyCopies n ++ [.dup 0] := by
      rw [manyCopies, List.replicate_succ']
      rfl
    have hrecord : before.table.recordId? 0 = some 0 := by
      rw [DescriptorTable.recordId?, hslots]
      rfl
    have htable : t = ((before.table.retain 0).place 0).2 := by
      change (run ⟨{}, {}, [], []⟩ (manyCopies (n + 1))).table = _
      rw [hlast, run_concat, step, DescriptorTable.dup, hrecord]
    have hfull : DescriptorTable.lowestFree before.table.slots = before.table.slots.length := by
      rw [DescriptorTable.lowestFree, List.findIdx_eq_length, hslots]
      intro v hv
      rw [List.eq_of_mem_replicate hv]
      rfl
    have hplace := DescriptorTable.slots_place_of_full (t := before.table.retain 0) hfull 0
    constructor
    · rw [htable, hplace, DescriptorTable.slots_retain, hslots, List.replicate_succ' (n := n + 1)]
    · rw [htable]
      exact (DescriptorTable.fileOf?_retain 0 0).trans hfile

theorem lookup_manyCopies (n : Nat) :
    (run ⟨{}, {}, [], []⟩ (manyCopies n)).table.lookup n = .ok 0 := by
  obtain ⟨hslots, hfile⟩ := slots_manyCopies n
  have hrecord : (run ⟨{}, {}, [], []⟩ (manyCopies n)).table.recordId? n = some 0 := by
    rw [DescriptorTable.recordId?, hslots, List.getElem?_replicate_of_lt (Nat.lt_succ_self n)]
    rfl
  exact DescriptorTable.lookup_eq_ok_iff.2 ⟨0, hrecord, hfile⟩

theorem copyReply_manyCopies {n : Nat} (hn : maxDescriptors ≤ n) :
    (run ⟨{}, {}, [], []⟩ (manyCopies n)).copyReply n n = .done (.error (.badDescriptor n)) := by
  rw [(copyReply_itself (lookup_manyCopies n)).2, if_neg (Nat.not_lt.2 hn)]

/-- After 1024 duplicates the descriptor 1024 is open, and refused as its own target. -/
theorem own_target_refused :
    let s := run ⟨{}, {}, [], []⟩ (manyCopies 1024)
    s.table.lookup 1024 = .ok 0 ∧ s.copyReply 1024 1024 = .done (.error (.badDescriptor 1024)) :=
  ⟨lookup_manyCopies 1024, copyReply_manyCopies (Nat.le_refl 1024)⟩

end TableRun

end SyscallBridge
