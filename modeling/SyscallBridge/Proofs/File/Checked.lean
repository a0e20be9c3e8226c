import SyscallBridge.File.Checked
import SyscallBridge.Proofs.File.Contents

/-!
# No fault in machine words

Where sizes and cursors are words, every call in machine words has a result, and it is the one of
exact arithmetic. What is read is cut to the bytes that there are before anything is added to the
cursor, what is written is checked against the largest size first, and a seek in 128 bits has room
for every word and every offset of 64 bits.
-/

namespace SyscallBridge

/-- The offset of a seek is one of 64 bits, from the start without a sign and else with one. -/
def SeekTarget.inRange : SeekTarget → Bool
  | fromStart n => n < UInt64.size
  | fromCursor d | fromEnd d => -9223372036854775808 ≤ d ∧ d < 9223372036854775808

/-- A call that reads, writes or seeks, with an offset of 64 bits. -/
def FileCall.inRange : FileCall → Bool
  | read _ | write .. => true
  | seek t => t.inRange
  | readAt _ offset | writeAt _ offset => offset < UInt64.size
  | stat | close => false

namespace Machine

variable {bytes data : Bytes} {offset size : Nat}

theorem add?_eq {a b : Nat} (h : a + b < UInt64.size) : add? a b = some (a + b) := if_pos h

theorem sub?_eq {a b : Nat} (h : b ≤ a) : sub? a b = some (a - b) := if_pos h

theorem slice?_eq {start stop : Nat} (h : start ≤ stop) (hstop : stop ≤ bytes.length) :
    slice? bytes start stop = some ((bytes.take stop).drop start) := if_pos ⟨h, hstop⟩

theorem overwrite?_eq {start stop : Nat} (h : start ≤ stop) (hstop : stop ≤ bytes.length)
    (hdata : data.length = stop - start) :
    overwrite? bytes start stop data = some (bytes.take start ++ data ++ bytes.drop stop) :=
  if_pos ⟨h, hstop, hdata⟩

theorem length_zeros (n : Nat) : (zeros n).length = n := List.length_replicate

/-- The bytes between the clamped ends are those of the window. -/
theorem drop_take_eq_window {start n : Nat} (hstart : start = min offset bytes.length)
    (hn : n = min size (bytes.length - start)) :
    (bytes.take (start + n)).drop start = bytes.window offset size := by
  have hdrop : bytes.drop start = bytes.drop offset := List.drop_eq_drop_iff.mpr (by omega)
  rw [List.drop_take, Nat.add_sub_cancel_left, hdrop, Bytes.window]
  refine List.take_eq_take_iff.mpr ?_
  rw [List.length_drop]
  omega

theorem window?_eq (h : bytes.length < UInt64.size) (offset size : Nat) :
    window? bytes offset size = some (bytes.window offset size) := by
  unfold window?
  extract_lets start
  have hstart : start = min offset bytes.length := rfl
  have hlength := bytes.length_window offset size
  rw [sub?_eq (show start ≤ bytes.length by omega)]
  simp only [Option.bind_eq_bind, Option.bind_some, Option.pure_def]
  generalize hn : min size (bytes.length - start) = n
  have hzeros := length_zeros size
  rw [add?_eq (show start + n < UInt64.size by omega), Option.bind_some,
    slice?_eq (show start ≤ start + n by omega) (show start + n ≤ bytes.length by omega),
    Option.bind_some, drop_take_eq_window hstart hn.symm,
    overwrite?_eq (Nat.zero_le n) (show n ≤ (zeros size).length by omega) (by omega),
    Option.bind_some, List.take_zero, List.nil_append,
    List.take_left' (show (bytes.window offset size).length = n by omega)]

/-- Growing to fit and then copying in gives the bytes of the splice. -/
theorem overwrite?_grown (bytes data : Bytes) (offset : Nat) :
    overwrite? (if bytes.length < offset + data.length then
        bytes ++ zeros (offset + data.length - bytes.length) else bytes)
      offset (offset + data.length) data = some (splice bytes data offset) := by
  have hrange : offset ≤ offset + data.length := Nat.le_add_right _ _
  have hdata : data.length = offset + data.length - offset := by omega
  split
  · next hgrow =>
    have hsize : (bytes ++ zeros (offset + data.length - bytes.length)).length =
        offset + data.length := by
      rw [List.length_append, length_zeros]
      omega
    have hbefore : (bytes ++ zeros (offset + data.length - bytes.length)).take offset =
        (bytes ++ List.replicate (offset - bytes.length) 0).take offset := by
      rw [List.take_append, List.take_append, zeros, List.take_replicate, List.take_replicate]
      congr 2
      omega
    rw [overwrite?_eq hrange (Nat.le_of_eq hsize.symm) hdata, hbefore,
      List.drop_of_length_le (Nat.le_of_eq hsize), splice,
      List.drop_of_length_le (Nat.le_of_lt hgrow)]
  · next hfits =>
    have hstop : offset + data.length ≤ bytes.length := Nat.not_lt.mp hfits
    have hbefore : bytes.take offset =
        (bytes ++ List.replicate (offset - bytes.length) 0).take offset := by
      rw [Nat.sub_eq_zero_of_le (by omega), List.replicate_zero, List.append_nil]
    rw [overwrite?_eq hrange hstop hdata, hbefore, splice]

/-- A sum within the largest size is a word. -/
theorem filter_add? (a b : Nat) :
    (add? a b).filter (· ≤ maxFileSize) =
      if a + b ≤ maxFileSize then some (a + b) else none := by
  by_cases hfits : a + b ≤ maxFileSize
  · have hword : a + b < UInt64.size := Nat.lt_of_le_of_lt hfits (by decide)
    rw [add?_eq hword, if_pos hfits]
    exact if_pos (decide_eq_true hfits)
  · rw [if_neg hfits]
    unfold add?
    split
    · exact if_neg fun hle => hfits (of_decide_eq_true hle)
    · rfl

-- No bound on the offset is asked for: a sum that is no word is past the largest size as well.
theorem writeAt?_eq (bytes data : Bytes) (offset : Nat) :
    writeAt? bytes data offset = some (writeAt bytes data offset) := by
  unfold writeAt? writeAt
  rw [filter_add?]
  by_cases hnil : data = []
  · rw [if_pos hnil, if_pos hnil]
  · rw [if_neg hnil, if_neg hnil]
    by_cases hfits : offset + data.length ≤ maxFileSize
    · rw [if_pos hfits, if_pos hfits]
      dsimp only
      rw [overwrite?_grown]
      rfl
    · rw [if_neg hfits, if_neg hfits]
      rfl

theorem position?_eq {t : SeekTarget} {cursor size : Nat} (ht : t.inRange = true)
    (hcursor : cursor < UInt64.size) (hsize : size < UInt64.size) :
    position? t cursor size = some (t.position cursor size) := by
  unfold UInt64.size at hcursor hsize
  cases t with
  | fromStart n => rfl
  | fromCursor d =>
    have hd : -9223372036854775808 ≤ d ∧ d < 9223372036854775808 := by
      simpa [SeekTarget.inRange] using ht
    exact if_pos (by omega)
  | fromEnd d =>
    have hd : -9223372036854775808 ≤ d ∧ d < 9223372036854775808 := by
      simpa [SeekTarget.inRange] using ht
    exact if_pos (by omega)

theorem resolve?_eq {t : SeekTarget} {cursor size : Nat} (ht : t.inRange = true)
    (hcursor : cursor < UInt64.size) (hsize : size < UInt64.size) :
    resolve? t cursor size = some (t.resolve cursor size) := by
  rw [resolve?, position?_eq ht hcursor hsize]
  rfl

end Machine

theorem Bytes.add_window_lt {bytes : Bytes} {cursor : Nat} (hcursor : cursor < UInt64.size)
    (hsize : bytes.length < UInt64.size) (size : Nat) :
    cursor + (bytes.window cursor size).length < UInt64.size := by
  rw [bytes.length_window]
  omega

theorem add_written_lt {bytes data bytes' : Bytes} {offset : Nat} (hoffset : offset < UInt64.size)
    (hw : writeAt bytes data offset = .ok bytes') : offset + data.length < UInt64.size := by
  unfold writeAt at hw
  split at hw
  · next hnil => rwa [hnil]
  · split at hw
    · next hfits => exact Nat.lt_of_le_of_lt hfits (by decide)
    · cases hw

namespace FileStore

open Machine

variable {fs : FileStore} {id : Nat} {c : FileCall}

theorem startFixed?_eq {bytes : Bytes} {cursor : Nat} (hsize : bytes.length < UInt64.size)
    (hcursor : cursor < UInt64.size) (hc : c.inRange = true) :
    fs.startFixed? id bytes cursor c = some (fs.startFixed id bytes cursor c) := by
  cases c with
  | read size =>
    simp only [startFixed?, window?_eq hsize, Option.bind_eq_bind, Option.bind_some,
      add?_eq (Bytes.add_window_lt hcursor hsize size)]
    rfl
  | readAt size offset =>
    simp only [startFixed?, window?_eq hsize, Option.bind_eq_bind, Option.bind_some]
    rfl
  | seek t =>
    simp only [startFixed?, resolve?_eq hc hcursor hsize, Option.bind_eq_bind, Option.bind_some,
      startFixed]
    cases t.resolve cursor bytes.length <;> rfl
  | write | writeAt | stat | close => rfl

theorem startTemp?_eq {h : TempHandle} (hsize : (fs.bytes h.content).length ≤ maxFileSize)
    (hcursor : h.cursor < UInt64.size) (hc : c.inRange = true) :
    fs.startTemp? id h c = some (fs.startTemp id h c) := by
  have hword : (fs.bytes h.content).length < UInt64.size := Nat.lt_of_le_of_lt hsize (by decide)
  cases c with
  | read size =>
    simp only [startTemp?, startTemp, TempHandle.read, window?_eq hword, Option.bind_eq_bind,
      Option.bind_some, add?_eq (Bytes.add_window_lt hcursor hword size)]
    cases h.checkReadable <;> rfl
  | readAt size offset =>
    simp only [startTemp?, startTemp, TempHandle.readAt, window?_eq hword, Option.bind_eq_bind,
      Option.bind_some]
    cases h.checkReadable <;> rfl
  | seek t =>
    simp only [startTemp?, startTemp, TempHandle.seek, resolve?_eq hc hcursor hword,
      Option.bind_eq_bind, Option.bind_some]
    cases h.checkOpen with
    | error e => rfl
    | ok u => cases t.resolve h.cursor (fs.bytes h.content).length <;> rfl
  | writeAt data offset =>
    simp only [startTemp?, startTemp, TempHandle.writeAt, writeAt?_eq, Option.bind_eq_bind,
      Option.bind_some]
    cases h.checkWritable with
    | error e => rfl
    | ok u => cases SyscallBridge.writeAt (fs.bytes h.content) data offset <;> rfl
  | write data source =>
    simp only [startTemp?, startTemp, TempHandle.write, writeAt?_eq, Option.bind_eq_bind,
      Option.bind_some]
    cases h.checkWritable with
    | error e => rfl
    | ok u =>
      have hstart : (if h.append then { h with cursor := (fs.bytes h.content).length }
          else h).cursor < UInt64.size := by
        split
        · exact hword
        · exact hcursor
      revert hstart
      generalize (if h.append then { h with cursor := (fs.bytes h.content).length }
        else h) = moved
      intro hstart
      dsimp only [admitted]
      cases hw : SyscallBridge.writeAt (fs.bytes h.content) data moved.cursor with
      | error e => rfl
      | ok bytes =>
        dsimp only
        rw [add?_eq (add_written_lt hstart hw)]
        rfl
  | stat | close => rfl

end FileStore

end SyscallBridge
