import SyscallBridge.File.Temp

/-!
# Bytes as the writes left them

The bytes of a temp file, told from the writes alone: the file is as long as the furthest of them
reaches, and at each place stands what the latest write over it put there, or zero if there was
none. `Shown.write` carries this over one more write, wherever it falls.
-/

namespace SyscallBridge

/-- Bytes that were written from an offset on. -/
structure TempWrite where
  offset : Nat
  data : Bytes
  deriving DecidableEq, Repr

namespace TempWrite

/-- The place behind the last byte written. -/
def stop (w : TempWrite) : Nat := w.offset + w.data.length

/-- The byte that a write puts at a place, if it covers it. -/
def byte? (w : TempWrite) (i : Nat) : Option UInt8 :=
  if w.offset ≤ i then w.data[i - w.offset]? else none

theorem byte?_inside {w : TempWrite} {i : Nat} (h : w.offset ≤ i) :
    w.byte? i = w.data[i - w.offset]? := by
  rw [byte?, if_pos h]

theorem byte?_outside {w : TempWrite} {i : Nat} (h : i < w.offset ∨ w.stop ≤ i) :
    w.byte? i = none := by
  unfold byte?
  split
  · apply List.getElem?_eq_none
    unfold stop at h
    omega
  · rfl

end TempWrite

/-- How far the writes reach. -/
def extent (ws : List TempWrite) : Nat := ws.foldl (fun n w => max n w.stop) 0

/-- What the latest write over a place put there. -/
def latest? (ws : List TempWrite) (i : Nat) : Option UInt8 := ws.reverse.findSome? (·.byte? i)

theorem extent_append (ws : List TempWrite) (w : TempWrite) :
    extent (ws ++ [w]) = max (extent ws) w.stop := by
  simp only [extent, List.foldl_append, List.foldl_cons, List.foldl_nil]

theorem latest?_append (ws : List TempWrite) (w : TempWrite) (i : Nat) :
    latest? (ws ++ [w]) i = (w.byte? i).or (latest? ws i) := by
  rw [latest?, List.reverse_append, List.reverse_singleton, List.singleton_append,
    List.findSome?_cons]
  cases w.byte? i with
  | none => rfl
  | some b => rfl

/-! ### One write -/

theorem getElem?_splice_inside {bytes data : Bytes} {offset i : Nat} (h : offset ≤ i)
    (h' : i < offset + data.length) : (splice bytes data offset)[i]? = data[i - offset]? := by
  have hfront : ((bytes ++ List.replicate (offset - bytes.length) 0).take offset).length =
      offset := by
    rw [List.length_take, List.length_append, List.length_replicate]
    omega
  rw [splice, List.append_assoc, List.getElem?_append_right (by omega), hfront,
    List.getElem?_append_left (by omega)]

/-- Beside the bytes written, a place keeps its byte, and the gap in front has zeros. -/
theorem getElem?_splice_outside {bytes data : Bytes} {offset i : Nat}
    (h : i < offset ∨ offset + data.length ≤ i) :
    (splice bytes data offset)[i]?.getD 0 = bytes[i]?.getD 0 := by
  have hfront : ((bytes ++ List.replicate (offset - bytes.length) 0).take offset).length =
      offset := by
    rw [List.length_take, List.length_append, List.length_replicate]
    omega
  rw [splice, List.append_assoc]
  rcases h with h | h
  · rw [List.getElem?_append_left (by omega), List.getElem?_take_of_lt h]
    by_cases hi : i < bytes.length
    · rw [List.getElem?_append_left hi]
    · have hzero : i - bytes.length < offset - bytes.length := by omega
      rw [List.getElem?_append_right (by omega), List.getElem?_replicate_of_lt hzero,
        List.getElem?_eq_none (by omega : bytes.length ≤ i)]
      rfl
  · rw [List.getElem?_append_right (by omega), hfront, List.getElem?_append_right (by omega),
      List.getElem?_drop]
    have hplace : offset + data.length + (i - offset - data.length) = i := by omega
    rw [hplace]

/-! ### All writes -/

/-- The bytes are what the writes left. -/
structure Shown (ws : List TempWrite) (bytes : Bytes) : Prop where
  length : bytes.length = extent ws
  byte : ∀ i, bytes[i]?.getD 0 = (latest? ws i).getD 0

theorem shown_nil : Shown [] [] := ⟨rfl, fun _ => rfl⟩

theorem Shown.write {ws : List TempWrite} {bytes : Bytes} (h : Shown ws bytes) (w : TempWrite) :
    Shown (ws ++ [w]) (splice bytes w.data w.offset) := by
  constructor
  · rw [length_splice, extent_append, h.length]
    rfl
  · intro i
    rw [latest?_append]
    by_cases hi : w.offset ≤ i ∧ i < w.stop
    · obtain ⟨hlow, hhigh⟩ := hi
      have hsome : i - w.offset < w.data.length := by
        unfold TempWrite.stop at hhigh
        omega
      rw [TempWrite.byte?_inside hlow, getElem?_splice_inside hlow hhigh,
        List.getElem?_eq_getElem hsome]
      rfl
    · have hout : i < w.offset ∨ w.stop ≤ i := by omega
      rw [TempWrite.byte?_outside hout, getElem?_splice_outside hout, Option.none_or]
      exact h.byte i

example : splice (splice (splice [] [1, 2, 3] 0) [7, 7] 2) [9] 6 = [1, 2, 7, 7, 0, 0, 9] ∧
    (List.range 7).map (latest? [⟨0, [1, 2, 3]⟩, ⟨2, [7, 7]⟩, ⟨6, [9]⟩]) =
      [some 1, some 2, some 7, some 7, none, none, some 9] := by decide

theorem Shown.getElem {ws : List TempWrite} {bytes : Bytes} (h : Shown ws bytes) (i : Nat)
    (hi : i < bytes.length) : bytes[i] = (latest? ws i).getD 0 := by
  rw [← h.byte i, List.getElem?_eq_getElem hi]
  rfl

end SyscallBridge
