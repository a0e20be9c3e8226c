import SyscallBridge.Socket.Basic

/-!
# Socket calls

`Socket.start` runs a call up to its first request to the host, and `Socket.resume` goes on with
the answer. Between the two the socket is not held: other calls may change or close it, and
`resume` looks at what it finds. A call that finds a socket it did not expect closes what the host
has just given it.
-/

namespace SyscallBridge

inductive SocketCall where
  | bind (a : SockAddr)
  | listen
  | accept
  | connect (a : SockAddr)
  | ownName
  | peerName
  | read (size : Nat)
  | write (data : Bytes)
  | sendTo (data : Bytes) (a : SockAddr)
  | receiveFrom (size : Nat)
  | stopIo
  | close
  | setDeadline | setReadDeadline | setWriteDeadline
  deriving DecidableEq, Repr

/-- What a socket call gives back; an accepted socket has no descriptor yet. -/
inductive SocketReply where
  | plain (r : Reply)
  | accepted (s : Socket) (peer : SockAddr)
  deriving DecidableEq, Repr

/-- What a first use of a datagram port is for. -/
inductive DatagramUse where
  | send (data : Bytes) (a : SockAddr)
  | receive (size : Nat)
  deriving DecidableEq, Repr

/-- A socket call that waits for the host. -/
inductive SocketPending where
  | listening (protocol : Protocol) (a : NetAddress)
  | accepting (l : ListenerHandle)
  | connecting (protocol : Protocol) (own : Option NetAddress) (a : SockAddr)
  | reading (c : ConnectionHandle) (size : Nat)
  /-- A read that also reports the peer. -/
  | readingFrom (c : ConnectionHandle) (size : Nat) (peer : SockAddr)
  | writing (c : ConnectionHandle) (data : Bytes)
  | claiming (a : NetAddress) (use : DatagramUse)
  | sending (p : PortHandle) (data : Bytes) (a : SockAddr)
  | receiving (p : PortHandle) (size : Nat)
  deriving DecidableEq, Repr

namespace SocketPending

/-- What the host is asked. -/
def request : SocketPending → Request
  | listening protocol a => .listen protocol a
  | accepting l => .accept l
  | connecting protocol own a => .dial protocol own a.toNet
  | reading c size => .read c size
  | readingFrom c size _ => .read c size
  | writing c data => .write c data
  | claiming a _ => .bindPort a
  | sending p data a => .sendTo p data a.toNet
  | receiving p size => .receiveFrom p size

end SocketPending

namespace Socket

abbrev Step := Turn Socket SocketReply SocketPending

def reply (s : Socket) (r : Reply) : Step := .ok s (.plain r)

def failed (s : Socket) (e : CallError) : Step := .fail s e

def invalid (s : Socket) (reason : String) : Step := .fail s (.invalidState reason)

/-- Goes on when a check passes. -/
def guarded {α : Type} (s : Socket) (check : Except CallError α) (next : α → Step) : Step :=
  match check with
  | .ok a => next a
  | .error e => s.failed e

/-- The bound address as the host takes it. -/
def boundAddress (address : String) : Except CallError NetAddress :=
  (SockAddr.parse address).map SockAddr.toNet

/-! ## Up to the host -/

def startBind (s : Socket) (a : SockAddr) : Step :=
  s.guarded (s.checkFamily a) fun _ =>
    match s.endpoint with
    | .unbound => (s.withEndpoint (.bound a.text)).reply .done
    | .closed => s.invalid "socket is closed"
    | _ => s.invalid "socket is already bound"

def startListen (s : Socket) : Step :=
  if s.protocol = .udp then s.failed (.unsupported "listen")
  else match s.endpoint with
    | .bound address =>
      s.guarded (boundAddress address) fun a => .ask s (.listening s.protocol a)
    | .unbound => s.invalid "listen requires a prior bind"
    | .listening _ => s.invalid "socket is already listening"
    | .connected .. | .datagram _ => s.invalid "socket is connected"
    | .closed => s.invalid "socket is closed"

def startAccept (s : Socket) : Step :=
  match s.endpoint with
  | .listening l => .ask s (.accepting l)
  | .closed => s.failed .endOfStream
  | _ => s.invalid "accept requires a listening socket"

/-- A port that was claimed already is given back and becomes the near side of the connection. -/
def startConnect (s : Socket) (a : SockAddr) : Step :=
  s.guarded (s.checkFamily a) fun _ =>
    s.guarded (checkPort a) fun _ =>
      match s.endpoint with
      | .unbound => .ask s (.connecting s.protocol none a)
      | .bound address =>
        s.guarded (boundAddress address) fun own => .ask s (.connecting s.protocol (some own) a)
      | .datagram p =>
        let s' := s.withEndpoint (.bound p.own.text)
        match boundAddress p.own.text with
        | .ok own => ⟨s', s.endpoint.closing, .pending (.connecting s.protocol (some own) a)⟩
        | .error e => s'.failed e
      | .listening _ => s.invalid "connect on a listening socket"
      | .connected .. => s.invalid "socket is already connected"
      | .closed => s.invalid "socket is closed"

def startOwnName (s : Socket) : Step :=
  match s.endpoint with
  | .unbound => s.reply (.address (.unspecified s.family))
  | .bound address => s.guarded (SockAddr.parse address) fun a => s.reply (.address a)
  | .listening l => s.reply (.address (.ofNet l.address))
  | .connected c _ => s.reply (.address (.ofNet c.own))
  | .datagram p => s.reply (.address (.ofNet p.own))
  | .closed => s.invalid "socket is closed"

def startPeerName (s : Socket) : Step :=
  match s.endpoint with
  | .connected _ peer => s.reply (.address peer)
  | _ => s.invalid "socket is not connected"

/-- A closed socket reads nothing. -/
def startRead (s : Socket) (size : Nat) : Step :=
  match s.endpoint with
  | .connected c _ => .ask s (.reading c size)
  | .closed => s.reply (.data [])
  | _ => s.invalid "socket is not connected"

def startWrite (s : Socket) (data : Bytes) : Step :=
  match s.endpoint with
  | .connected c _ => .ask s (.writing c data)
  | .closed => s.failed .endOfStream
  | _ => s.invalid "socket is not connected"

/-- Uses the datagram port of a socket, which must claim one first if it has none. -/
def useDatagram (s : Socket) (use : DatagramUse) : Step :=
  match s.endpoint with
  | .datagram p => .ask s (match use with
    | .send data a => .sending p data a
    | .receive size => .receiving p size)
  | .unbound => .ask s (.claiming (SockAddr.unspecified s.family).toNet use)
  | .bound address => s.guarded (boundAddress address) fun a => .ask s (.claiming a use)
  | .closed => s.invalid "socket is closed"
  | _ => s.invalid "socket is not a datagram endpoint"

/-- A connected socket sends to its peer; a datagram socket insists that the peer is meant. -/
def startSendTo (s : Socket) (data : Bytes) (a : SockAddr) : Step :=
  s.guarded (s.checkFamily a) fun _ =>
    match s.endpoint with
    | .connected c peer =>
      if s.protocol = .udp ∧ peer ≠ a then s.invalid "socket is connected elsewhere"
      else .ask s (.writing c data)
    | _ =>
      if s.protocol = .tcp then s.invalid "socket is not connected"
      else s.guarded (checkPort a) fun _ => s.useDatagram (.send data a)

def startReceiveFrom (s : Socket) (size : Nat) : Step :=
  match s.endpoint with
  | .connected c peer => .ask s (.readingFrom c size peer)
  | _ =>
    if s.protocol = .tcp then s.invalid "socket is not connected"
    else s.useDatagram (.receive size)

/-- Closes the host resource and keeps the socket as it is. -/
def startStopIo (s : Socket) : Step := ⟨s, s.endpoint.closing, .done (.ok (.plain .done))⟩

def startClose (s : Socket) : Step :=
  ⟨s.withEndpoint .closed, s.endpoint.closing, .done (.ok (.plain .done))⟩

def start (s : Socket) : SocketCall → Step
  | .bind a => s.startBind a
  | .listen => s.startListen
  | .accept => s.startAccept
  | .connect a => s.startConnect a
  | .ownName => s.startOwnName
  | .peerName => s.startPeerName
  | .read size => s.startRead size
  | .write data => s.startWrite data
  | .sendTo data a => s.startSendTo data a
  | .receiveFrom size => s.startReceiveFrom size
  | .stopIo => s.startStopIo
  | .close => s.startClose
  | .setDeadline | .setReadDeadline | .setWriteDeadline => s.failed .deadlineUnsupported

/-! ## On from the answer -/

/-- Goes on with an answer; a failure of the host fails the call. -/
def answered {α : Type} (s : Socket) (answer : Except HostFailure α) (next : α → Step) : Step :=
  match answer with
  | .ok a => next a
  | .error f => s.failed (.ofHost f)

/-- Closes what the host gave, since the socket is no longer what it was given for. -/
def overtaken (s : Socket) (r : Resource) (reason : String) : Step :=
  ⟨s, [.close r], .done (.error (.invalidState reason))⟩

def resumeListen (s : Socket) (l : ListenerHandle) : Step :=
  match s.endpoint with
  | .bound _ => (s.withEndpoint (.listening l)).reply .done
  | _ => s.overtaken l.resource "socket changed during listen"

def resumeConnect (s : Socket) (a : SockAddr) (c : ConnectionHandle) : Step :=
  match s.endpoint with
  | .unbound | .bound _ => (s.withEndpoint (.connected c a)).reply .done
  | _ => s.overtaken c.resource "socket changed during connect"

/-- Another call may have claimed a port meanwhile; then that one is used. -/
def resumeClaim (s : Socket) (use : DatagramUse) (p : PortHandle) : Step :=
  match s.endpoint with
  | .unbound | .bound _ => (s.withEndpoint (.datagram p)).useDatagram use
  | .datagram _ =>
    let turn := s.useDatagram use
    { turn with effects := .close p.resource :: turn.effects }
  | _ => s.overtaken p.resource "socket changed during bind"

/-- Bytes read, none at the end of the stream. -/
def bytesRead (answer : Except HostFailure Bytes) : Except CallError Bytes :=
  match answer with
  | .ok bytes => .ok bytes
  | .error f => if f.isEndOfStream then .ok [] else .error (.host f)

def resume (s : Socket) : (p : SocketPending) → Except HostFailure p.request.Answer → Step
  | .listening .., answer => s.answered answer s.resumeListen
  | .accepting _, answer => s.answered answer fun (c : ConnectionHandle) =>
    let peer := SockAddr.ofNet c.peer
    .ok s (.accepted (accepted s.protocol c peer) peer)
  | .connecting _ _ a, answer => s.answered answer (s.resumeConnect a)
  | .reading .., answer => s.guarded (bytesRead answer) fun bytes => s.reply (.data bytes)
  | .readingFrom _ _ peer, answer =>
    s.guarded (bytesRead answer) fun bytes => s.reply (.datagram bytes peer)
  | .writing .., answer => s.answered answer fun (n : Nat) => s.reply (.number n)
  | .claiming _ use, answer => s.answered answer (s.resumeClaim use)
  | .sending .., answer => s.answered answer fun (n : Nat) => s.reply (.number n)
  | .receiving .., answer => s.answered answer fun (got : Bytes × NetAddress) =>
    s.reply (.datagram got.1 (.ofNet got.2))

end Socket

end SyscallBridge
