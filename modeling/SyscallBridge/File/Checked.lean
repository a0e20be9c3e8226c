import SyscallBridge.File.Payload

/-!
# Calls in machine words

The calls on fixed and temp files once more, as a machine of 64 bits carries them out: sums and
differences are of words, bytes are copied between ranges of two buffers, and seeking takes a
detour through 128 bits with a sign. There is no result where a sum or difference does not fit, a
range is not inside its buffer or two ranges that are copied differ in length.
-/

namespace SyscallBridge

namespace Machine

/-- The sum of two words, if it is one. -/
def add? (a b : Nat) : Option Nat := if a + b < UInt64.size then some (a + b) else none

/-- The difference of two words, if it is one. -/
def sub? (a b : Nat) : Option Nat := if b ≤ a then some (a - b) else none

/-- The sum of two numbers of 128 bits with a sign, if it is one. -/
def addWide? (a b : Int) : Option Int :=
  if -170141183460469231731687303715884105728 ≤ a + b ∧
      a + b < 170141183460469231731687303715884105728 then some (a + b)
  else none

def zeros (size : Nat) : Bytes := List.replicate size 0

def slice? (bytes : Bytes) (start stop : Nat) : Option Bytes :=
  if start ≤ stop ∧ stop ≤ bytes.length then some ((bytes.take stop).drop start) else none

/-- `bytes` with a range replaced by as many bytes. -/
def overwrite? (bytes : Bytes) (start stop : Nat) (data : Bytes) : Option Bytes :=
  if start ≤ stop ∧ stop ≤ bytes.length ∧ data.length = stop - start then
    some (bytes.take start ++ data ++ bytes.drop stop)
  else none

/-- Copies at most `size` bytes from `offset` on into a buffer of that size. -/
def window? (bytes : Bytes) (offset size : Nat) : Option Bytes := do
  let start := min offset bytes.length
  let left ← sub? bytes.length start
  let n := min size left
  let stop ← add? start n
  let got ← slice? bytes start stop
  let buffer ← overwrite? (zeros size) 0 n got
  return buffer.take n

/-- Lets the bytes grow to fit, and copies `data` in. -/
def writeAt? (bytes data : Bytes) (offset : Nat) : Option (Except CallError Bytes) :=
  if data = [] then some (.ok bytes)
  else match (add? offset data.length).filter (· ≤ maxFileSize) with
    | none => some (.error tooLarge)
    | some stop =>
      let grown := if bytes.length < stop then bytes ++ zeros (stop - bytes.length) else bytes
      (overwrite? grown offset stop data).map .ok

/-- The exact position in 128 bits. -/
def position? (t : SeekTarget) (cursor size : Nat) : Option Int :=
  match t with
  | .fromStart n => some n
  | .fromCursor d => addWide? cursor d
  | .fromEnd d => addWide? size d

def cursorAt (position : Int) : Except CallError Nat :=
  if 0 ≤ position ∧ position < UInt64.size then .ok position.toNat
  else .error (.invalidArgument "seek before start of file")

def resolve? (t : SeekTarget) (cursor size : Nat) : Option (Except CallError Nat) :=
  (position? t cursor size).map cursorAt

end Machine

namespace FileStore

open Machine

def startFixed? (fs : FileStore) (id : Nat) (bytes : Bytes) (cursor : Nat) :
    FileCall → Option Step
  | .read size => do
    let got ← window? bytes cursor size
    let cursor ← add? cursor got.length
    return .ok (fs.set id (.fixed bytes cursor)) (.data got)
  | .readAt size offset => do return .ok fs (.data (← window? bytes offset size))
  | .seek t => do
    match ← resolve? t cursor bytes.length with
    | .ok cursor => return .ok (fs.set id (.fixed bytes cursor)) (.number cursor)
    | .error e => return .fail fs e
  | c => some (fs.startFixed id bytes cursor c)

/-- Goes on only if the handle admits it. -/
def admitted (fs : FileStore) (check : Except CallError Unit) (next : Option Step) :
    Option Step :=
  match check with
  | .ok _ => next
  | .error e => some (.fail fs e)

def startTemp? (fs : FileStore) (id : Nat) (h : TempHandle) : FileCall → Option Step
  | .read size => fs.admitted h.checkReadable do
    let got ← window? (fs.bytes h.content) h.cursor size
    let cursor ← add? h.cursor got.length
    return .ok (fs.set id (.temp { h with cursor })) (.data got)
  | .write data _ => (fs.set id (.temp h)).admitted h.checkWritable do
    let bytes := fs.bytes h.content
    let h := if h.append then { h with cursor := bytes.length } else h
    match ← writeAt? bytes data h.cursor with
    | .ok bytes =>
      let cursor ← add? h.cursor data.length
      return .ok ((fs.set id (.temp { h with cursor })).setBytes h.content bytes)
        (.number data.length)
    | .error e => return .fail (fs.set id (.temp h)) e
  | .seek t => fs.admitted h.checkOpen do
    match ← resolve? t h.cursor (fs.bytes h.content).length with
    | .ok cursor => return .ok (fs.set id (.temp { h with cursor })) (.number cursor)
    | .error e => return .fail fs e
  | .readAt size offset => fs.admitted h.checkReadable do
    return .ok fs (.data (← window? (fs.bytes h.content) offset size))
  | .writeAt data offset => fs.admitted h.checkWritable do
    match ← writeAt? (fs.bytes h.content) data offset with
    | .ok bytes => return .ok (fs.setBytes h.content bytes) (.number data.length)
    | .error e => return .fail fs e
  | c => some (fs.startTemp id h c)

/-- A call in machine words; the other kinds of files have no positions. -/
def start? (fs : FileStore) (id : Nat) (c : FileCall) : Option Step :=
  match fs.file id with
  | .fixed bytes cursor => fs.startFixed? id bytes cursor c
  | .temp h => fs.startTemp? id h c
  | .console _ | .random _ | .socket _ | .unsupported => some (fs.start id c)

end FileStore

end SyscallBridge
