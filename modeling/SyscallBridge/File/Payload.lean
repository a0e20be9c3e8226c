import SyscallBridge.File.Store

/-!
# Payloads

What is written often repeats one piece of bytes. A temp file can tell by the size alone that it
cannot take a payload, and then the bytes need not be spelled out; `startWrite_eq` says that the
call is the same.
-/

namespace SyscallBridge

/-- A piece of bytes, so many times over. -/
structure Payload where
  piece : Bytes
  times : Nat := 1
  deriving DecidableEq, Repr

namespace Payload

def size (p : Payload) : Nat := p.times * p.piece.length

def bytes (p : Payload) : Bytes := (List.replicate p.times p.piece).flatten

theorem length_bytes (p : Payload) : p.bytes.length = p.size := by
  simp [bytes, size]

end Payload

/-- The error of a write that would come to lie past the largest size. -/
def tooLarge : CallError := .invalidArgument "write past maximum file size"

theorem writeAt_eq_error_iff {bytes data : Bytes} {offset : Nat} {e : CallError} :
    writeAt bytes data offset = .error e ↔
      data ≠ [] ∧ maxFileSize < offset + data.length ∧ e = tooLarge := by
  unfold writeAt
  split
  · next hnil => simp only [reduceCtorEq, hnil, ne_eq, not_true_eq_false, false_and]
  · next hne =>
    split
    · next hfits =>
      have hnot : ¬ maxFileSize < offset + data.length := Nat.not_lt.mpr hfits
      simp only [reduceCtorEq, hnot, false_and, and_false]
    · next hlarge =>
      simp only [Except.error.injEq, ne_eq, hne, not_false_eq_true, Nat.not_le.mp hlarge, true_and]
      exact eq_comm

/-- What a write of more bytes than any file may have leaves of the handle, and its error. -/
def TempHandle.refuse (h : TempHandle) (bytes : Bytes) : TempHandle × CallError :=
  match h.checkWritable with
  | .error e => (h, e)
  | .ok _ => (if h.append then { h with cursor := bytes.length } else h, tooLarge)

theorem TempHandle.write_of_too_large (h : TempHandle) (bytes : Bytes) {data : Bytes}
    (hdata : maxFileSize < data.length) :
    h.write bytes data = ((h.refuse bytes).1, .error (h.refuse bytes).2) := by
  have hne : data ≠ [] := List.length_pos_iff.mp (Nat.zero_lt_of_lt hdata)
  have hlarge : ∀ cursor, SyscallBridge.writeAt bytes data cursor = .error tooLarge :=
    fun cursor => writeAt_eq_error_iff.mpr ⟨hne, Nat.lt_add_left cursor hdata, rfl⟩
  unfold write refuse
  cases h.checkWritable with
  | error e => rfl
  | ok _ => simp only [hlarge]

namespace FileStore

/-- Writes a payload. -/
def startWrite (fs : FileStore) (id : Nat) (p : Payload) (source : String) : Step :=
  match fs.file id with
  | .temp h =>
    if maxFileSize < p.size then
      let (h, e) := h.refuse (fs.bytes h.content)
      .fail (fs.set id (.temp h)) e
    else fs.start id (.write p.bytes source)
  | _ => fs.start id (.write p.bytes source)

theorem startWrite_eq (fs : FileStore) (id : Nat) (p : Payload) (source : String) :
    fs.startWrite id p source = fs.start id (.write p.bytes source) := by
  unfold startWrite
  split
  · next h hfile =>
    split
    · next hsize =>
      rw [← p.length_bytes] at hsize
      simp only [start, hfile, startTemp, h.write_of_too_large _ hsize]
    · rfl
  · rfl

end FileStore

end SyscallBridge
