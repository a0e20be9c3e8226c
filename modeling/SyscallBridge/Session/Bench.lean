import SyscallBridge.Session.Drive

/-!
# The bench

Commands on the objects that a session has beside its bridge. None of them waits for the host.
-/

namespace SyscallBridge.Session

variable {α : Type}

/-! ## Files -/

/-- What a command on a missing object is answered with. -/
def missing : Outcome α := .done

/-- Makes a file from its description. -/
def makeFile (s : Session α) : FileSpec → Except CallError OpenFile
  | .unsupported => .ok .unsupported
  | .fixed bytes => .ok (.fixed bytes 0)
  | .random seed => .ok (.random (.ofSeed seed))
  | .console level chunkSize => .ok (.console ⟨level, chunkSize⟩)
  | .handle shared flags => .ok (.temp (.open_ ((s.shared? shared).getD 0) flags))
  | .socket domain type protocol => (Socket.create domain type protocol).map .socket

/-- Closes the file that a table has let go of. -/
def closeFile (s : Session α) : Option Nat → Session α
  | none => s
  | some id =>
    let (store, effects) := s.store.close id
    { s with store }.effects effects

/-- A command on the table that yields a result and a new table. -/
def onTable {β : Type} (s : Session α) (result : Except CallError (β × DescriptorTable Nat))
    (next : β → Session α → Session α × Outcome α) : Session α × Outcome α :=
  match result with
  | .ok (b, table) => next b { s with table }
  | .error e => (s, .failed e)

def runTable (s : Session α) : TableCommand → Session α × Outcome α
  | .allocate spec =>
    match s.makeFile spec with
    | .error e => (s, .failed e)
    | .ok f =>
      let (id, store) := s.store.add f
      let (fd, table) := s.table.allocate id
      ({ s with store, table }, .number fd)
  | .lookup fd => (s, .ofReply ((s.table.lookup fd).map fun id => .text (s.store.file id).typeName))
  | .hold fd id =>
    match s.table.lookup fd with
    | .ok file => (s.keep id (.file file), .done)
    | .error e => (s, .failed e)
  | .release fd => s.onTable (s.table.release fd) fun file s => (s.closeFile file, .done)
  | .dup fd => s.onTable (s.table.dup fd) fun copy s => (s, .number copy)
  | .dup2 fd target =>
    s.onTable (s.table.dup2 fd target) fun file s => (s.closeFile file, .number target)
  | .refCount fd => (s, .number (s.table.refCount fd))
  | .size => (s, .ok (.size s.table.size none))

/-- The size of a shared content, with its path. -/
def sharedSize (s : Session α) (content : Nat) : Outcome α :=
  .ok (.size (s.store.bytes content).length ((s.store.contents.find? content).map TempContent.path))

/-- A command on the contents shared under a name. -/
def onShared (s : Session α) (id : String) (next : Nat → Session α × Outcome α) :
    Session α × Outcome α :=
  match s.shared? id with
  | some content => next content
  | none => (s, missing)

/-- Says of a file that it is no socket. -/
def notSocket : Outcome α := .text "not a socket"

/-- What a file that is no console has in place of a level. -/
def levelOf : OpenFile → Outcome α
  | .console sink => .number sink.level.code
  | _ => .done

/-- A turn of a file of the bench. -/
def plainTurn (s : Session α) (file : Nat) (t : FileStore.Step) : Session α × After α :=
  s.fileTurn file none (t.map (·) .plain (·))

/-- A call on a file of the bench up to its first request. -/
def startFile (s : Session α) (file : Nat) (c : FileCall) : Session α × After α :=
  s.plainTurn file (s.store.start file c)

/-- A call on a socket of the bench up to its first request. A bad address is found only after the
file has turned out to be a socket. -/
def startSocket (s : Session α) (file : Nat) (keep : Option String)
    (c : Except CallError SocketCall) : Session α × After α :=
  match (s.store.file file).socket?, c with
  | some socket, .ok c => s.fileTurn file keep (s.store.startSocket file socket c)
  | some _, .error e => (s, .ended (.failed e))
  | none, _ => (s, .ended notSocket)

def socketInfo (f : OpenFile) : Outcome α :=
  match f.socket? with
  | some socket => .ok (.socket socket.protocol socket.family socket.state)
  | none => notSocket

/-- A command on the file of a name. -/
def onFile (s : Session α) (id : String) (next : Nat → Session α × After α) : Session α × After α :=
  match s.file? id with
  | some file => next file
  | none => (s, .ended missing)

def startFileCommand (s : Session α) : FileCommand → Session α × After α
  | .newShared id path =>
    let (content, store) := s.store.addContent path
    ({ s with store }.keep id (.shared content), .ended .done)
  | .sharedInfo id =>
    let (s, o) := s.onShared id fun content => (s, s.sharedSize content)
    (s, .ended o)
  | .truncateShared id =>
    let (s, o) := s.onShared id fun content =>
      let s := { s with store := s.store.setBytes content [] }
      (s, s.sharedSize content)
    (s, .ended o)
  | .new id spec =>
    match s.makeFile spec with
    | .ok f => (s.keepFile id f, .ended .done)
    | .error e => (s, .ended (.failed e))
  | .typeName id => s.onFile id fun file => (s, .ended (.text (s.store.file file).typeName))
  | .call id c => s.onFile id fun file => s.startFile file c
  | .write id p source =>
    s.onFile id fun file => s.plainTurn file (s.store.startWrite file p source)
  | .level id => s.onFile id fun file => (s, .ended (levelOf (s.store.file file)))
  | .socketInfo id => s.onFile id fun file => (s, .ended (socketInfo (s.store.file file)))
  | .socketCall id c => s.onFile id fun file => s.startSocket file none c
  | .socketAccept id new => s.onFile id fun file => s.startSocket file (some new) (.ok .accept)

/-! ## The file system, the devices and the environment -/

/-- A command that changes nothing but the file system. -/
def onTree (s : Session α) : Except CallError FileSystem → Session α × Outcome α
  | .ok tree => ({ s with tree }, .done)
  | .error e => (s, .failed e)

def openTree (s : Session α) (path : String) (flags : OpenFlags) (tmpDir id : String) :
    Session α × Outcome α :=
  match s.tree.open_ s.store path flags tmpDir with
  | .error e => (s, .failed e)
  | .ok (f, tree, store) => ({ s with tree, store }.keepFile id f, .text f.typeName)

def openDevice (s : Session α) (path id : String) : Session α × Outcome α :=
  match s.devices.open? path with
  | some (f, devices) => ({ s with devices }.keepFile id f, .text f.typeName)
  | none => (s, .done)

def runTree (s : Session α) : TreeCommand → Session α × Outcome α
  | .reset knownDirs seed => ({ s with tree := .create knownDirs seed }, .done)
  | .resolve path => (s, .ofReply ((s.tree.links.resolve path).map .text))
  | .open_ path flags tmpDir id => s.openTree path flags tmpDir id
  | .symlink target path => ({ s with tree := s.tree.symlink target path }, .done)
  | .unlink path => s.onTree (s.tree.unlink path)
  | .readlink path => (s, .ofReply ((s.tree.readLink path).map .text))
  | .mkdir path tmpDir => s.onTree (s.tree.makeDirectory path tmpDir)
  | .rmdir path tmpDir => s.onTree (s.tree.removeDirectory path tmpDir)
  | .stat path tmpDir => (s, .ofReply ((s.tree.stat s.store path tmpDir).map .stat))
  | .resetDevices seed => ({ s with devices := .ofSeed seed }, .done)
  | .hasDevice path => (s, .ok (.flag (Devices.contains path)))
  | .deviceStat path => (s, .ok (.maybeStat (Devices.stat? path)))
  | .openDevice path id => s.openDevice path id
  | .resetEnvironment tmpDir tolerated =>
    ({ s with environment := .create tmpDir tolerated }, .done)
  | .getVariable key =>
    let (value, notices) := s.environment.get key
    (s.notify notices, .ok (.reply (.maybeText value)))
  | .setVariable key value => ({ s with environment := s.environment.set key value }, .done)
  | .unsetVariable key => ({ s with environment := s.environment.unset key }, .done)
  | .listVariables => (s, .ok (.reply (.texts s.environment.list)))
  | .tmpDir => (s, .ok (.reply (.maybeText s.environment.tmpDir?)))

/-! ## The lifecycle -/

def recorderHandlers : Option Recorder → Handlers
  | some r => r.handlers
  | none => .quiet

/-- Notes what handlers with a journal have been given. -/
def journal (s : Session α) (h : Option Handlers) (before after : Lifecycle) : Session α :=
  if h.any (·.journal) then
    { s with received := s.received ++ after.received.drop before.received.length }
  else s

def lifecycleExtras (l : Lifecycle) : List Extra := [.phase l.phase, .waiting l.waiting.length]

def runLifecycle (s : Session α) : LifecycleCommand → Session α × Outcome α × List Extra
  | .deliver e =>
    let d := s.lifecycle.deliver e
    let s := { s with lifecycle := d.state }.journal s.lifecycle.handlers s.lifecycle d.state
    let s := s.notify d.notices
    (s, .ofEnding .flag d.ending, lifecycleExtras d.state)
  | .register r =>
    let h := recorderHandlers r
    let d := s.lifecycle.register h
    let s := { s with lifecycle := d.state }.journal (some h) s.lifecycle d.state
    let s := s.notify d.notices
    (s, .ofEnding (fun _ => .reply .done) d.ending, lifecycleExtras d.state)
  | .phase => (s, .ok (.phase s.lifecycle.phase s.lifecycle.waiting.length), [])

end SyscallBridge.Session
