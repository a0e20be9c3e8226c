import SyscallBridge.Process.Basic

/-!
# Answering system calls

`Process.start` runs a call up to its first request to the host and `Process.resume` goes on with
the answer. Nothing of the process is held in between: other calls may run, and may release the
very descriptor that the first one works on.
-/

namespace SyscallBridge.Process

def ofStore (p : Process) (store : FileStore) : Process := { p with store }

/-- Closes the file that the last descriptor has let go of. -/
def closeFile (p : Process) (file : Option Nat) : Process × List Effect :=
  match file with
  | none => (p, [])
  | some id =>
    let (store, effects) := p.store.close id
    (p.ofStore store, effects)

def release (p : Process) (fd : Nat) : Except CallError (Process × List Effect) :=
  (p.table.release fd).map fun (file, table) => closeFile { p with table } file

/-- A call that changes nothing but the file system. -/
def onTree (p : Process) (r : Except CallError FileSystem) : Step :=
  match r with
  | .ok tree => .ok { p with tree } .done
  | .error e => .fail p e

def startOpen (p : Process) (path : String) (flags : OpenFlags) : Step :=
  match p.tree.open_ p.store path flags p.tmpDir with
  | .error e => .fail p e
  | .ok (file, tree, store) =>
    let (fd, p) := allocate { p with tree, store } file
    .ok p (.number fd)

def startClose (p : Process) (fd : Nat) : Step :=
  match p.release fd with
  | .error e => .fail p e
  | .ok (p, effects) => ⟨p, effects, .done (.ok .done)⟩

def startDup2 (p : Process) (fd target : Nat) : Step :=
  match p.table.dup2 fd target with
  | .error e => .fail p e
  | .ok (file, table) =>
    let (p, effects) := closeFile { p with table } file
    ⟨p, effects, .done (.ok (.number target))⟩

def startSetenv (p : Process) (key value : String) : Step :=
  if key = "" ∨ '=' ∈ key.toList then .fail p (.invalidArgument "environment key")
  else .ok { p with environment := p.environment.set key value } .done

def startGetenv (p : Process) (key : String) : Step :=
  let (value, notices) := p.environment.get key
  ⟨p, notices.map .notice, .done (.ok (.maybeText value))⟩

def startSocket (p : Process) (domain type protocol : Int) : Step :=
  match Socket.create domain type protocol with
  | .error e => .fail p e
  | .ok s =>
    let (fd, p) := p.allocate (.socket s)
    .ok p (.number fd)

/-- Ends the socket part of a call. -/
def finish (p : Process) (next : Afterwards) (result : Except CallError SocketReply) :
    Process × List Effect × Except CallError Reply :=
  match next, result with
  | .nothing, .ok r => (p, [], .ok (FileStore.plainReply r))
  | .nothing, .error e => (p, [], .error e)
  | .allocate, .ok (.accepted s peer) =>
    let (fd, p) := p.allocate (.socket s)
    (p, [], .ok (.accepted fd peer))
  | .allocate, .ok (.plain r) => (p, [], .ok r)
  | .allocate, .error e => (p, [], .error e)
  | .dialed fd, .ok _ => (p, [], .ok (.number fd))
  | .dialed fd, .error e =>
    match p.release fd with
    | .ok (p, effects) => (p, effects, .error e)
    | .error _ => (p, [], .error e)

/-- A turn of the socket in `file` as a turn of the process. -/
def socketTurn (p : Process) (file : Nat) (next : Afterwards)
    (t : Turn FileStore SocketReply SocketPending) : Step :=
  let p := p.ofStore t.state
  match t.progress with
  | .pending q => ⟨p, t.effects, .pending (.onSocket file q next)⟩
  | .done result =>
    let (p, effects, result) := p.finish next result
    ⟨p, t.effects ++ effects, .done result⟩

def startOnSocket (p : Process) (fd : Nat) (next : Afterwards) (c : SocketCall) : Step :=
  match p.table.lookup fd with
  | .error e => .fail p e
  | .ok file =>
    match (p.store.file file).socket? with
    | none => .fail p (.notSocket fd)
    | some s => p.socketTurn file next (p.store.startSocket file s c)

def startOnFile (p : Process) (fd : Nat) (c : FileCall) : Step :=
  match p.table.lookup fd with
  | .error e => .fail p e
  | .ok file => (p.store.start file c).map p.ofStore (·) fun q => .onSocket file q .nothing

/-- The socket type that a protocol takes. -/
def socketType : Protocol → Int
  | .tcp => Socket.streamType
  | .udp => Socket.datagramType

/-- Connects a new socket to an address that is known by now. -/
def dialAddress (p : Process) (protocol : Protocol) (a : SockAddr) : Step :=
  match Socket.create a.family.code (socketType protocol) 0 with
  | .error e => .fail p e
  | .ok s =>
    let (fd, p) := p.allocate (.socket s)
    p.startOnSocket fd (.dialed fd) (.connect a)

/-- Replies with an address, or dials it. -/
def located (p : Process) (network : Network) (dials : Bool) (a : SockAddr) : Step :=
  if dials then p.dialAddress network.protocol a else .ok p (.address a)

/-- A numeric address must have a family that the network takes; a port alone stands for the
wildcard; a name is looked up. -/
def locate (p : Process) (network : Network) (address : String) (dials : Bool) : Step :=
  match Dialed.parse? address with
  | none => .fail p (.malformedAddress address)
  | some (.numeric a) =>
    if network.hint.accepts a.toNet then p.located network dials a
    else .fail p (.malformedAddress address)
  | some (.wildcard port) =>
    let family := if network.hint = .ipv6 then Family.inet6 else .inet4
    p.located network dials ((SockAddr.unspecified family).withPort port)
  | some (.named name port) => .ask p (.resolving network name port dials)

def startLocate (p : Process) (network address : String) (dials : Bool) : Step :=
  match Network.parse network with
  | .error e => .fail p e
  | .ok network => p.locate network address dials

def start (p : Process) : Syscall → Step
  | .open_ path flags => p.startOpen path flags
  | .close fd => p.startClose fd
  | .onFile fd c => p.startOnFile fd c
  | .fsync fd => .result p ((p.table.lookup fd).map fun _ => .done)
  | .dup fd =>
    match p.table.dup fd with
    | .ok (copy, table) => .ok { p with table } (.number copy)
    | .error e => .fail p e
  | .dup2 fd target => p.startDup2 fd target
  | .stat path => .result p ((p.tree.stat p.store path p.tmpDir).map .stat)
  | .mkdir path => p.onTree (p.tree.makeDirectory path p.tmpDir)
  | .rmdir path => p.onTree (p.tree.removeDirectory path p.tmpDir)
  | .symlink target path => .ok { p with tree := p.tree.symlink target path } .done
  | .unlink path => p.onTree (p.tree.unlink path)
  | .readlink path => .result p ((p.tree.readLink path).map .text)
  | .getenv key => p.startGetenv key
  | .setenv key value => p.startSetenv key value
  | .unsetenv key => .ok { p with environment := p.environment.unset key } .done
  | .environ => .ok p (.texts p.environment.list)
  | .getpid => .ok p (.number processNumber)
  | .socket domain type protocol => p.startSocket domain type protocol
  | .onSocket fd .accept => p.startOnSocket fd .allocate .accept
  | .onSocket fd c => p.startOnSocket fd .nothing c
  | .resolve network address => p.startLocate network address false
  | .dial network address => p.startLocate network address true
  | .missing c => .fail p (.unimplemented c.name)

/-- The first address that the hint accepts. -/
def chooseAddress (hint : AddressHint) (found : List NetAddress) : Except CallError SockAddr :=
  match found.find? fun a => hint.accepts a with
  | some a => .ok (.ofNet a)
  | none => .error (.host .nameNotResolved)

def resume (p : Process) : (q : ProcessPending) → Except HostFailure q.request.Answer → Step
  | .onSocket file q next, answer => p.socketTurn file next (p.store.resumeSocket file q answer)
  | .resolving network _ _ dials, answer =>
    match (answer : Except HostFailure (List NetAddress)) with
    | .error f => .fail p (.ofHost f)
    | .ok found =>
      match chooseAddress network.hint found with
      | .error e => .fail p e
      | .ok a => p.located network dials a

end SyscallBridge.Process
