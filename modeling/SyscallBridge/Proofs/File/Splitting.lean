import SyscallBridge.Proofs.File.Positions
import SyscallBridge.Proofs.File.Refusal

/-!
# Reads and writes in two parts

Two reads one after the other give together what one read of both sizes gives, and two writes that
succeed leave what one write of all the bytes leaves, wherever the cursor stands: inside the file,
at its end or past it, and with an appending handle too, which goes to the end before each part.
-/

namespace SyscallBridge

/-- The third reply says together what the first two say, or all say that there is an error. -/
inductive Progress.Joined {π : Type} :
    Progress Reply π → Progress Reply π → Progress Reply π → Prop
  | data (a b : Bytes) :
    Joined (.done (.ok (.data a))) (.done (.ok (.data b))) (.done (.ok (.data (a ++ b))))
  | number (m n : Nat) :
    Joined (.done (.ok (.number m))) (.done (.ok (.number n))) (.done (.ok (.number (m + n))))
  | error (e : CallError) : Joined (.done (.error e)) (.done (.error e)) (.done (.error e))

/-! ### Bytes -/

theorem drop_min_length {α : Type} (l : List α) (n : Nat) :
    l.drop (min n l.length) = l.drop n := by
  rcases Nat.le_total n l.length with h | h
  · rw [Nat.min_eq_left h]
  · rw [Nat.min_eq_right h, List.drop_length, List.drop_of_length_le h]

/-- A window is the first part of it and what stands behind that part. -/
theorem Bytes.window_add (bytes : Bytes) (offset j k : Nat) :
    bytes.window offset (j + k) =
      bytes.window offset j ++ bytes.window (offset + (bytes.window offset j).length) k := by
  have hrest : (bytes.drop offset).drop j =
      bytes.drop (offset + (bytes.window offset j).length) := by
    rw [length_window, ← List.length_drop, ← List.drop_drop, drop_min_length]
  rw [window, List.take_add, hrest]
  rfl

theorem splice_append (bytes a b : Bytes) (offset : Nat) :
    splice (splice bytes a offset) b (offset + a.length) = splice bytes (a ++ b) offset := by
  generalize hfront : (bytes ++ List.replicate (offset - bytes.length) 0).take offset = front
  have hlength : front.length = offset := by
    rw [← hfront, List.length_take, List.length_append, List.length_replicate]
    omega
  have hfirst : splice bytes a offset = front ++ a ++ bytes.drop (offset + a.length) := by
    rw [splice, hfront]
  have hreach : offset + a.length = (front ++ a).length := by
    rw [List.length_append, hlength]
  -- the first part reaches to where the second begins, so the second leaves no gap
  have hgap : offset + a.length - (splice bytes a offset).length = 0 := by
    rw [length_splice]
    omega
  have hkept : (splice bytes a offset).take (offset + a.length) = front ++ a := by
    rw [hfirst, hreach, List.take_left]
  have hbehind : (splice bytes a offset).drop (offset + a.length + b.length) =
      bytes.drop (offset + (a ++ b).length) := by
    rw [hfirst, ← List.drop_drop, hreach, List.drop_left, List.drop_drop, ← hreach,
      List.length_append, Nat.add_assoc]
  rw [splice, hgap, List.replicate_zero, List.append_nil, hkept, hbehind, splice, hfront,
    List.append_assoc front]

/-- A write of all the bytes is a write of the first part and then one of the second. -/
theorem writeAt_append (bytes a b : Bytes) (offset : Nat) :
    writeAt bytes (a ++ b) offset =
      writeAt bytes a offset >>= fun mid => writeAt mid b (offset + a.length) := by
  by_cases ha : a = []
  · rw [ha, List.nil_append]
    rfl
  · have hwhole : a ++ b ≠ [] := fun h => ha (List.append_eq_nil_iff.1 h).1
    rw [writeAt, if_neg hwhole, writeAt, if_neg ha, List.length_append, ← Nat.add_assoc]
    by_cases hfirst : offset + a.length ≤ maxFileSize
    · rw [if_pos hfirst]
      by_cases hb : b = []
      · rw [hb, List.append_nil, List.length_nil, Nat.add_zero, if_pos hfirst]
        rfl
      · change _ = writeAt (splice bytes a offset) b (offset + a.length)
        rw [writeAt, if_neg hb, splice_append]
    · have hlarge : ¬ offset + a.length + b.length ≤ maxFileSize := by omega
      rw [if_neg hfirst, if_neg hlarge]
      rfl

namespace TempHandle

variable {h h₁ h₂ : TempHandle} {bytes mid bytes' a b data : Bytes}

theorem write_eq_ok_iff :
    h.write bytes data = (h₁, .ok bytes') ↔
      h.checkWritable = .ok () ∧ SyscallBridge.writeAt bytes data (h.position bytes) = .ok bytes' ∧
        h₁ = { h with cursor := h.position bytes + data.length } := by
  have hwrote := h.wrote bytes data
  generalize h.write bytes data = result at hwrote
  cases hwrote with
  | access e hcheck => simp only [Prod.mk.injEq, reduceCtorEq, and_false, hcheck, false_and]
  | size hcheck e hlarge =>
    simp only [Prod.mk.injEq, reduceCtorEq, and_false, hlarge, false_and]
  | done hcheck mid hfits =>
    simp only [Prod.mk.injEq, Except.ok.injEq, hcheck, hfits, true_and]
    exact ⟨fun hall => ⟨hall.2, hall.1.symm⟩, fun hall => ⟨hall.2.symm, hall.1⟩⟩

/-- After a write the handle stands where it has written to, as an appending one does anyway. -/
theorem position_of_write (hw : h.write bytes a = (h₁, .ok mid)) :
    h₁.position mid = h.position bytes + a.length := by
  obtain ⟨-, hmid, rfl⟩ := write_eq_ok_iff.1 hw
  unfold position at hmid ⊢
  cases happend : h.append with
  | false => rfl
  | true =>
    simp only [happend, if_true] at hmid ⊢
    rcases writeAt_ok hmid with ⟨ha, rfl⟩ | ⟨-, rfl⟩
    · rw [ha]
      rfl
    · rw [length_splice]
      omega

theorem write_append_iff (hw : h.write bytes a = (h₁, .ok mid)) :
    h₁.write mid b = (h₂, .ok bytes') ↔ h.write bytes (a ++ b) = (h₂, .ok bytes') := by
  have hposition := position_of_write hw
  obtain ⟨hcheck, hmid, rfl⟩ := write_eq_ok_iff.1 hw
  have hsame : checkWritable { h with cursor := h.position bytes + a.length } = .ok () := hcheck
  rw [write_eq_ok_iff, write_eq_ok_iff, hposition, writeAt_append, hmid, List.length_append,
    ← Nat.add_assoc, hcheck, hsame]
  exact Iff.rfl

/-- A write of all the bytes succeeds only if that of the first part does. -/
theorem exists_write_of_append (hw : h.write bytes (a ++ b) = (h₂, .ok bytes')) :
    ∃ h₁ mid, h.write bytes a = (h₁, .ok mid) := by
  obtain ⟨hcheck, hall, -⟩ := write_eq_ok_iff.1 hw
  rw [writeAt_append] at hall
  obtain ⟨mid, hmid, -⟩ := exists_ok_of_bind hall
  exact ⟨_, mid, write_eq_ok_iff.2 ⟨hcheck, hmid, rfl⟩⟩

end TempHandle

namespace FileStore

variable {fs : FileStore} {id : Nat} {h h₁ h₂ : TempHandle} {a b data mid bytes' : Bytes}

theorem set_set (fs : FileStore) (id : Nat) (f g : OpenFile) :
    (fs.set id f).set id g = fs.set id g := by
  simp only [set, Assoc.insert_insert]

theorem setBytes_setBytes (fs : FileStore) (content : Nat) (bytes bytes' : Bytes) :
    (fs.setBytes content bytes).setBytes content bytes' = fs.setBytes content bytes' := by
  simp only [setBytes, Assoc.modify_modify]

/-- The store after a write through the handle of file `id`. -/
def written (fs : FileStore) (id : Nat) (h : TempHandle) (bytes : Bytes) : FileStore :=
  (fs.set id (.temp h)).setBytes h.content bytes

theorem file_written (fs : FileStore) (id : Nat) (h : TempHandle) (bytes : Bytes) :
    (fs.written id h bytes).file id = .temp h := (file_set fs id _ id).trans (if_pos rfl)

theorem bytes_written (hcontent : (fs.contents.find? h.content).isSome) (id : Nat)
    (bytes : Bytes) : (fs.written id h bytes).bytes h.content = bytes := by
  obtain ⟨c, hc⟩ := Option.isSome_iff_exists.1 hcontent
  have hfound : (fs.set id (.temp h)).contents.find? h.content = some c := hc
  rw [FileStore.bytes, written, find?_setBytes, if_pos rfl, hfound]
  rfl

theorem written_written (hcontent : h₂.content = h₁.content) (bytes bytes' : Bytes) :
    (fs.written id h₁ bytes).written id h₂ bytes' = fs.written id h₂ bytes' := by
  have hboth : (fs.written id h₁ bytes).written id h₂ bytes' =
      (((fs.set id (.temp h₁)).set id (.temp h₂)).setBytes h₁.content bytes).setBytes
        h₂.content bytes' := rfl
  rw [hboth, hcontent, setBytes_setBytes, set_set, ← hcontent]
  rfl

/-- A write succeeds if it does on the handle. -/
theorem start_write_succeeded_iff (hfile : fs.file id = .temp h) (data : Bytes) (source : String) :
    (fs.start id (.write data source)).progress.succeeded = true ↔
      ∃ h' bytes', h.write (fs.bytes h.content) data = (h', .ok bytes') := by
  rw [start, hfile]
  simp only [startTemp]
  cases hw : h.write (fs.bytes h.content) data with
  | mk h' result =>
    cases result with
    | ok bytes' => exact ⟨fun _ => ⟨h', bytes', rfl⟩, fun _ => rfl⟩
    | error e =>
      constructor
      · intro hdone
        cases hdone
      · rintro ⟨_, _, hok⟩
        cases hok

theorem start_write_ok (hfile : fs.file id = .temp h) (source : String)
    (hw : h.write (fs.bytes h.content) data = (h₁, .ok bytes')) :
    fs.start id (.write data source) = .ok (fs.written id h₁ bytes') (.number data.length) := by
  rw [start, hfile]
  simp only [startTemp, hw]
  rfl

/-! ### Both parts -/

/-- What two reads come to next to one of both sizes. -/
structure ReadsJoin (fs : FileStore) (id j k : Nat) : Prop where
  replies : Progress.Joined (fs.start id (.read j)).progress
    ((fs.start id (.read j)).state.start id (.read k)).progress
    (fs.start id (.read (j + k))).progress
  state : (fs.start id (.read (j + k))).state =
    ((fs.start id (.read j)).state.start id (.read k)).state
  /-- Only a handle that is not for reading has an error to reply. -/
  errors : ∀ e, (fs.start id (.read j)).progress = .done (.error e) →
    ∃ h, fs.file id = .temp h ∧ h.checkReadable = .error e

/-- A file that gives the bytes from its cursor on and moves the cursor behind them. -/
theorem readsJoin_of_window (f : Nat → OpenFile) (bytes : Bytes) {cursor : Nat}
    (hfile : fs.file id = f cursor)
    (hread : ∀ fs' : FileStore, fs'.contents = fs.contents → ∀ n size, fs'.file id = f n →
      fs'.start id (.read size) =
        .ok (fs'.set id (f (n + (bytes.window n size).length))) (.data (bytes.window n size)))
    (j k : Nat) : fs.ReadsJoin id j k := by
  have hfirst := hread fs rfl cursor j hfile
  have hwhole := hread fs rfl cursor (j + k) hfile
  have hmid : (fs.set id (f (cursor + (bytes.window cursor j).length))).file id =
      f (cursor + (bytes.window cursor j).length) := (file_set fs id _ id).trans (if_pos rfl)
  have hsecond := hread (fs.set id (f (cursor + (bytes.window cursor j).length))) rfl _ k hmid
  rw [Bytes.window_add, List.length_append, ← Nat.add_assoc] at hwhole
  refine ⟨?_, ?_, fun e he => ?_⟩
  · rw [hfirst, hwhole]
    dsimp only [Turn.ok]
    rw [hsecond]
    exact .data _ _
  · rw [hfirst, hwhole]
    dsimp only [Turn.ok]
    rw [hsecond, set_set]
    rfl
  · rw [hfirst] at he
    cases he

theorem readsJoin_fixed {bytes : Bytes} {cursor : Nat} (hfile : fs.file id = .fixed bytes cursor)
    (j k : Nat) : fs.ReadsJoin id j k := by
  refine readsJoin_of_window (.fixed bytes) bytes hfile ?_ j k
  intro fs' _ n size hfile'
  rw [start, hfile']
  rfl

theorem readsJoin_temp (hfile : fs.file id = .temp h) (j k : Nat) : fs.ReadsJoin id j k := by
  cases hcheck : h.checkReadable with
  | ok u =>
    refine readsJoin_of_window (fun cursor => .temp { h with cursor }) (fs.bytes h.content)
      hfile ?_ j k
    intro fs' hcontents n size hfile'
    have hsame : fs'.bytes h.content = fs.bytes h.content := by
      rw [FileStore.bytes, hcontents, FileStore.bytes]
    have hcheck' : TempHandle.checkReadable { h with cursor := n } = .ok u := hcheck
    rw [start, hfile']
    simp only [startTemp, TempHandle.read, hcheck', hsame]
    rfl
  | error e =>
    have hfails : ∀ size, fs.start id (.read size) = .fail fs e := by
      intro size
      rw [start, hfile]
      simp only [startTemp, TempHandle.read, hcheck]
      rfl
    refine ⟨?_, ?_, fun e' he => ?_⟩
    · rw [hfails, hfails]
      dsimp only [Turn.fail]
      rw [hfails]
      exact .error e
    · rw [hfails, hfails]
      dsimp only [Turn.fail]
      rw [hfails]
      rfl
    · rw [hfails] at he
      cases he
      exact ⟨h, hfile, hcheck⟩

/-- What two writes come to next to one of all the bytes. -/
structure WritesJoin (fs : FileStore) (id : Nat) (a b : Bytes) (source : String) : Prop where
  succeeds : (fs.start id (.write (a ++ b) source)).progress.succeeded ↔
    (fs.start id (.write a source)).progress.succeeded ∧
    ((fs.start id (.write a source)).state.start id (.write b source)).progress.succeeded
  replies : (fs.start id (.write (a ++ b) source)).progress.succeeded →
    Progress.Joined (fs.start id (.write a source)).progress
      ((fs.start id (.write a source)).state.start id (.write b source)).progress
      (fs.start id (.write (a ++ b) source)).progress
  state : (fs.start id (.write (a ++ b) source)).progress.succeeded →
    (fs.start id (.write (a ++ b) source)).state =
      ((fs.start id (.write a source)).state.start id (.write b source)).state

/-- Once the first part is written, what the handle finds for the second. -/
theorem found_after_write (hcontent : (fs.contents.find? h.content).isSome) (id : Nat)
    (hw : h.write (fs.bytes h.content) a = (h₁, .ok mid)) :
    (fs.written id h₁ mid).file id = .temp h₁ ∧
      (fs.written id h₁ mid).bytes h₁.content = mid := by
  have hsame : h₁.content = h.content := by
    obtain ⟨-, -, rfl⟩ := TempHandle.write_eq_ok_iff.1 hw
    rfl
  exact ⟨file_written fs id h₁ mid, bytes_written (hsame ▸ hcontent) id mid⟩

theorem second_write_succeeded_iff (hcontent : (fs.contents.find? h.content).isSome)
    (hw : h.write (fs.bytes h.content) a = (h₁, .ok mid)) (b : Bytes) (source : String) :
    ((fs.written id h₁ mid).start id (.write b source)).progress.succeeded = true ↔
      ∃ h₂ bytes', h.write (fs.bytes h.content) (a ++ b) = (h₂, .ok bytes') := by
  obtain ⟨hfile, hbytes⟩ := found_after_write hcontent id hw
  rw [start_write_succeeded_iff hfile, hbytes]
  simp only [TempHandle.write_append_iff hw]

/-- All of the bytes written, at once and in two parts. -/
theorem writes_of_succeeded (hfile : fs.file id = .temp h)
    (hcontent : (fs.contents.find? h.content).isSome) {source : String}
    (hdone : (fs.start id (.write (a ++ b) source)).progress.succeeded = true) :
    ∃ between after, fs.start id (.write a source) = .ok between (.number a.length) ∧
      between.start id (.write b source) = .ok after (.number b.length) ∧
      fs.start id (.write (a ++ b) source) = .ok after (.number (a.length + b.length)) := by
  obtain ⟨h₂, bytes', hall⟩ := (start_write_succeeded_iff hfile (a ++ b) source).1 hdone
  obtain ⟨h₁, mid, hw⟩ := TempHandle.exists_write_of_append hall
  obtain ⟨hfile₁, hbytes⟩ := found_after_write hcontent id hw
  have hrest : h₁.write ((fs.written id h₁ mid).bytes h₁.content) b = (h₂, .ok bytes') := by
    rw [hbytes]
    exact (TempHandle.write_append_iff hw).2 hall
  have hsame₂ : h₂.content = h₁.content := by
    obtain ⟨-, -, rfl⟩ := TempHandle.write_eq_ok_iff.1 hrest
    rfl
  refine ⟨fs.written id h₁ mid, fs.written id h₂ bytes', start_write_ok hfile source hw, ?_, ?_⟩
  · rw [start_write_ok hfile₁ source hrest, written_written hsame₂]
  · rw [start_write_ok hfile source hall, List.length_append]

theorem writesJoin (hfile : fs.file id = .temp h)
    (hcontent : (fs.contents.find? h.content).isSome) (a b : Bytes) (source : String) :
    fs.WritesJoin id a b source := by
  refine ⟨⟨fun hdone => ?_, fun hboth => ?_⟩, fun hdone => ?_, fun hdone => ?_⟩
  · obtain ⟨between, after, hfirst, hsecond, -⟩ := writes_of_succeeded hfile hcontent hdone
    rw [hfirst]
    exact ⟨rfl, congrArg (·.progress.succeeded) hsecond⟩
  · obtain ⟨h₁, mid, hw⟩ := (start_write_succeeded_iff hfile a source).1 hboth.1
    have hsecond := hboth.2
    rw [start_write_ok hfile source hw] at hsecond
    exact (start_write_succeeded_iff hfile (a ++ b) source).2
      ((second_write_succeeded_iff hcontent hw b source).1 hsecond)
  · obtain ⟨between, after, hfirst, hsecond, hwhole⟩ := writes_of_succeeded hfile hcontent hdone
    rw [hfirst, hwhole]
    dsimp only [Turn.ok]
    rw [hsecond]
    exact .number _ _
  · obtain ⟨between, after, hfirst, hsecond, hwhole⟩ := writes_of_succeeded hfile hcontent hdone
    rw [hfirst, hwhole]
    dsimp only [Turn.ok]
    rw [hsecond]
    rfl

/-- Reading a file with a cursor in two parts gives the bytes that one read of both sizes gives, and
leaves the same. Writing through a handle in two parts succeeds in both exactly when one write of
all the bytes does, and then leaves the same. -/
theorem parts_join (fs : FileStore) (id : Nat) :
    (∀ s, fs.standing? id = some s → ∀ j k, fs.ReadsJoin id j k) ∧
    (∀ h, fs.file id = .temp h → (fs.contents.find? h.content).isSome →
      ∀ a b source, fs.WritesJoin id a b source) := by
  refine ⟨fun s hs j k => ?_, fun h => writesJoin⟩
  unfold standing? at hs
  split at hs
  · next hfile => exact readsJoin_fixed hfile j k
  · next hfile => exact readsJoin_temp hfile j k
  all_goals cases hs

/-- A read across the end, and writes that both go there. -/
theorem parts_join_at_end :
    threeBytes.standing? 0 = some ⟨0, 3, true⟩ ∧ threeBytes.ReadsJoin 0 2 5 ∧
      threeBytes.WritesJoin 0 [1] [2, 3] "" ∧
      (threeBytes.start 0 (.write [1, 2, 3] "")).progress.succeeded := by
  have hstands : threeBytes.standing? 0 = some ⟨0, 3, true⟩ := by decide
  obtain ⟨hreads, hwrites⟩ := parts_join threeBytes 0
  have hjoin := hwrites ⟨0, true, true, true, 0, false⟩ rfl rfl [1] [2, 3] ""
  exact ⟨hstands, hreads _ hstands 2 5, hjoin, by decide⟩

end FileStore

end SyscallBridge
