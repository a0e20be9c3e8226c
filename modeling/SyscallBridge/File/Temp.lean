import SyscallBridge.File.Cursor
import SyscallBridge.File.Flags
import SyscallBridge.File.Stat

/-!
# Temp files

The content of a temp file is shared by all its handles; a handle has its own cursor and access.
Writing past the end fills the gap with zeros, and no file grows past `maxFileSize`.
-/

namespace SyscallBridge

/-- The largest size of a temp file, one gibibyte. -/
def maxFileSize : Nat := 1073741824

structure TempContent where
  path : String
  bytes : Bytes := []
  deriving DecidableEq, Repr, Inhabited

/-- `bytes` with `data` put in at `offset`. -/
def splice (bytes data : Bytes) (offset : Nat) : Bytes :=
  (bytes ++ List.replicate (offset - bytes.length) 0).take offset ++ data ++
    bytes.drop (offset + data.length)

theorem length_splice (bytes data : Bytes) (offset : Nat) :
    (splice bytes data offset).length = max bytes.length (offset + data.length) := by
  simp only [splice, List.length_append, List.length_take, List.length_drop, List.length_replicate]
  omega

/-- Writing nothing changes nothing, wherever it is done. -/
def writeAt (bytes data : Bytes) (offset : Nat) : Except CallError Bytes :=
  if data = [] then .ok bytes
  else if offset + data.length ≤ maxFileSize then .ok (splice bytes data offset)
  else .error (.invalidArgument "write past maximum file size")

/-- An open handle on the content numbered `content`. -/
structure TempHandle where
  content : Nat
  readable : Bool
  writable : Bool
  append : Bool
  cursor : Nat := 0
  closed : Bool := false
  deriving DecidableEq, Repr

namespace TempHandle

def open_ (content : Nat) (flags : OpenFlags) : TempHandle :=
  { content, readable := flags.read, writable := flags.write, append := flags.append }

def checkOpen (h : TempHandle) : Except CallError Unit :=
  if h.closed then .error (.invalidState "file is closed") else .ok ()

def checkReadable (h : TempHandle) : Except CallError Unit := do
  h.checkOpen
  if h.readable then .ok () else .error (.notOpenFor "reading")

def checkWritable (h : TempHandle) : Except CallError Unit := do
  h.checkOpen
  if h.writable then .ok () else .error (.notOpenFor "writing")

theorem checkOpen_of_open {h : TempHandle} (isOpen : h.closed = false) : h.checkOpen = .ok () :=
  if_neg (isOpen ▸ Bool.false_ne_true)

theorem checkOpen_of_closed {h : TempHandle} (closed : h.closed = true) :
    h.checkOpen = .error (.invalidState "file is closed") := if_pos closed

theorem checkReadable_of_open {h : TempHandle} (isOpen : h.closed = false) :
    h.checkReadable = if h.readable then .ok () else .error (.notOpenFor "reading") := by
  rw [checkReadable, checkOpen_of_open isOpen]
  rfl

theorem checkWritable_of_open {h : TempHandle} (isOpen : h.closed = false) :
    h.checkWritable = if h.writable then .ok () else .error (.notOpenFor "writing") := by
  rw [checkWritable, checkOpen_of_open isOpen]
  rfl

theorem checkWritable_of_closed {h : TempHandle} (closed : h.closed = true) :
    h.checkWritable = .error (.invalidState "file is closed") := by
  rw [checkWritable, checkOpen_of_closed closed]
  rfl

def stat (h : TempHandle) (bytes : Bytes) : Except CallError FileStat := do
  h.checkOpen
  return .regular bytes.length

def read (h : TempHandle) (bytes : Bytes) (size : Nat) : Except CallError (Bytes × TempHandle) := do
  h.checkReadable
  let got := bytes.window h.cursor size
  return (got, { h with cursor := h.cursor + got.length })

def readAt (h : TempHandle) (bytes : Bytes) (size offset : Nat) : Except CallError Bytes := do
  h.checkReadable
  return bytes.window offset size

/-- An appending handle moves to the end before it writes. -/
def write (h : TempHandle) (bytes data : Bytes) : TempHandle × Except CallError Bytes :=
  match h.checkWritable with
  | .error e => (h, .error e)
  | .ok _ =>
    let h := if h.append then { h with cursor := bytes.length } else h
    match SyscallBridge.writeAt bytes data h.cursor with
    | .error e => (h, .error e)
    | .ok bytes => ({ h with cursor := h.cursor + data.length }, .ok bytes)

def writeAt (h : TempHandle) (bytes data : Bytes) (offset : Nat) : Except CallError Bytes := do
  h.checkWritable
  SyscallBridge.writeAt bytes data offset

def seek (h : TempHandle) (bytes : Bytes) (t : SeekTarget) : Except CallError TempHandle := do
  h.checkOpen
  return { h with cursor := ← t.resolve h.cursor bytes.length }

end TempHandle

end SyscallBridge
