import SyscallBridge.Data.Assoc
import SyscallBridge.File.ConsoleSink
import SyscallBridge.File.Temp
import SyscallBridge.Random.Xoshiro
import SyscallBridge.Socket.Call

/-!
# Open files

All open files by number, and the contents of temp files by a number of their own. Only a socket
has to wait for the host; every other call on a file is done at once.
-/

namespace SyscallBridge

inductive OpenFile where
  | console (sink : ConsoleSink)
  /-- Reads give pseudo-random bytes. -/
  | random (g : Xoshiro)
  /-- Bytes that never change, with a cursor. -/
  | fixed (bytes : Bytes) (cursor : Nat)
  | temp (h : TempHandle)
  | socket (s : Socket)
  /-- Every call fails. -/
  | unsupported
  deriving Repr, Inhabited

namespace OpenFile

def typeName : OpenFile → String
  | console _ => "console"
  | random _ => "random"
  | fixed .. => "static"
  | temp _ => "buffer"
  | socket _ => "socket"
  | unsupported => "unsupported"

def socket? : OpenFile → Option Socket
  | socket s => some s
  | _ => none

/-- The host resource a file holds. -/
def resource? (f : OpenFile) : Option Resource := f.socket?.bind (·.endpoint.resource?)

end OpenFile

inductive FileCall where
  | stat
  | read (size : Nat)
  | write (data : Bytes) (source : String)
  | seek (t : SeekTarget)
  | readAt (size offset : Nat)
  | writeAt (data : Bytes) (offset : Nat)
  | close
  deriving DecidableEq, Repr

namespace FileCall

/-- How an error names a call. -/
def name : FileCall → String
  | stat => "stat"
  | read _ => "read"
  | write .. => "write"
  | seek _ => "seek"
  | readAt .. => "pread"
  | writeAt .. => "pwrite"
  | close => "close"

end FileCall

structure FileStore where
  files : Assoc Nat OpenFile := {}
  contents : Assoc Nat TempContent := {}
  nextFile : Nat := 0
  nextContent : Nat := 0

namespace FileStore

abbrev Step := Turn FileStore Reply SocketPending

def add (fs : FileStore) (f : OpenFile) : Nat × FileStore :=
  (fs.nextFile, { fs with files := fs.files.insert fs.nextFile f, nextFile := fs.nextFile + 1 })

/-- The file of a number; a number never given out is a file on which everything fails. -/
def file (fs : FileStore) (id : Nat) : OpenFile := (fs.files.find? id).getD .unsupported

def set (fs : FileStore) (id : Nat) (f : OpenFile) : FileStore :=
  { fs with files := fs.files.insert id f }

def addContent (fs : FileStore) (path : String) : Nat × FileStore :=
  (fs.nextContent, { fs with
    contents := fs.contents.insert fs.nextContent { path }
    nextContent := fs.nextContent + 1 })

def bytes (fs : FileStore) (content : Nat) : Bytes :=
  ((fs.contents.find? content).map TempContent.bytes).getD []

def setBytes (fs : FileStore) (content : Nat) (bytes : Bytes) : FileStore :=
  { fs with contents := fs.contents.modify content fun c => { c with bytes } }

/-! ## Sockets -/

/-- A turn of the socket in file `id` as a turn of the store. -/
def socketTurn (fs : FileStore) (id : Nat) (t : Socket.Step) :
    Turn FileStore SocketReply SocketPending :=
  t.map (fun s => fs.set id (.socket s)) (·) (·)

/-- The reply to a call that accepts nothing. -/
def plainReply : SocketReply → Reply
  | .plain r => r
  | .accepted _ peer => .address peer

def startSocket (fs : FileStore) (id : Nat) (s : Socket) (c : SocketCall) :
    Turn FileStore SocketReply SocketPending := fs.socketTurn id (s.start c)

def resumeSocket (fs : FileStore) (id : Nat) (p : SocketPending)
    (answer : Except HostFailure p.request.Answer) : Turn FileStore SocketReply SocketPending :=
  match fs.file id with
  | .socket s => fs.socketTurn id (s.resume p answer)
  | _ => .fail fs .endOfStream

/-! ## Calls on files -/

def startConsole (fs : FileStore) (sink : ConsoleSink) : FileCall → Step
  | .stat => .ok fs (.stat .device)
  | .write data source =>
    ⟨fs, (sink.records data source).map .log, .done (.ok (.number data.length))⟩
  | .close => .ok fs .done
  | c => .fail fs (.unsupported c.name)

def startRandom (fs : FileStore) (id : Nat) (g : Xoshiro) : FileCall → Step
  | .stat => .ok fs (.stat .device)
  | .read size | .readAt size _ =>
    let (bytes, g) := g.bytes size
    .ok (fs.set id (.random g)) (.data bytes)
  | .close => .ok fs .done
  | c => .fail fs (.unsupported c.name)

def startFixed (fs : FileStore) (id : Nat) (bytes : Bytes) (cursor : Nat) : FileCall → Step
  | .stat => .ok fs (.stat (.regular bytes.length))
  | .read size =>
    let got := bytes.window cursor size
    .ok (fs.set id (.fixed bytes (cursor + got.length))) (.data got)
  | .readAt size offset => .ok fs (.data (bytes.window offset size))
  | .seek t =>
    match t.resolve cursor bytes.length with
    | .ok cursor => .ok (fs.set id (.fixed bytes cursor)) (.number cursor)
    | .error e => .fail fs e
  | .close => .ok fs .done
  | c => .fail fs (.unsupported c.name)

def startTemp (fs : FileStore) (id : Nat) (h : TempHandle) : FileCall → Step
  | .stat => .result fs ((h.stat (fs.bytes h.content)).map .stat)
  | .read size =>
    match h.read (fs.bytes h.content) size with
    | .ok (got, h) => .ok (fs.set id (.temp h)) (.data got)
    | .error e => .fail fs e
  | .write data _ =>
    match h.write (fs.bytes h.content) data with
    | (h, .ok bytes) => .ok ((fs.set id (.temp h)).setBytes h.content bytes) (.number data.length)
    | (h, .error e) => .fail (fs.set id (.temp h)) e
  | .seek t =>
    match h.seek (fs.bytes h.content) t with
    | .ok h => .ok (fs.set id (.temp h)) (.number h.cursor)
    | .error e => .fail fs e
  | .readAt size offset => .result fs ((h.readAt (fs.bytes h.content) size offset).map .data)
  | .writeAt data offset =>
    match h.writeAt (fs.bytes h.content) data offset with
    | .ok bytes => .ok (fs.setBytes h.content bytes) (.number data.length)
    | .error e => .fail fs e
  | .close => .ok (fs.set id (.temp { h with closed := true })) .done

def startOnSocket (fs : FileStore) (id : Nat) (s : Socket) : FileCall → Step
  | .stat => .ok fs (.stat .socket)
  | .read size => (fs.startSocket id s (.read size)).map (·) plainReply (·)
  | .write data _ => (fs.startSocket id s (.write data)).map (·) plainReply (·)
  | .close => (fs.startSocket id s .close).map (·) plainReply (·)
  | c => .fail fs (.unsupported c.name)

/-- Closing a file that nothing happens to is no failure. -/
def startUnsupported (fs : FileStore) : FileCall → Step
  | .close => .ok fs .done
  | c => .fail fs (.unsupported c.name)

def start (fs : FileStore) (id : Nat) (c : FileCall) : Step :=
  match fs.file id with
  | .console sink => fs.startConsole sink c
  | .random g => fs.startRandom id g c
  | .fixed bytes cursor => fs.startFixed id bytes cursor c
  | .temp h => fs.startTemp id h c
  | .socket s => fs.startOnSocket id s c
  | .unsupported => fs.startUnsupported c

/-- Goes on with a read or write of a socket. -/
def resume (fs : FileStore) (id : Nat) (p : SocketPending)
    (answer : Except HostFailure p.request.Answer) : Step :=
  (fs.resumeSocket id p answer).map (·) plainReply (·)

/-- Closes a file and what it holds of the host; that cannot fail. -/
def close (fs : FileStore) (id : Nat) : FileStore × List Effect :=
  let turn := fs.start id .close
  (turn.state, turn.effects)

/-- The host resources that the given files hold. -/
def resources (fs : FileStore) (ids : List Nat) : List Resource :=
  ids.filterMap fun id => (fs.file id).resource?

end FileStore

end SyscallBridge
