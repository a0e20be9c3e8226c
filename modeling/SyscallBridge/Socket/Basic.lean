import SyscallBridge.Reply
import SyscallBridge.Turn

/-!
# Sockets

A socket is unbound, bound to an address that the host does not know of yet, listening, connected,
a datagram port that talks to anyone, or closed. A bound address is kept as text; a port of zero in
it stands for any.
-/

namespace SyscallBridge

inductive Endpoint where
  | unbound
  | bound (address : String)
  | listening (l : ListenerHandle)
  | connected (c : ConnectionHandle) (peer : SockAddr)
  | datagram (p : PortHandle)
  | closed
  deriving DecidableEq, Repr

/-- What a socket shows of its endpoint. -/
inductive SocketState where
  | unbound | bound | listening | connected | closed
  deriving DecidableEq, Repr

namespace Endpoint

def state : Endpoint → SocketState
  | unbound => .unbound
  | bound _ | datagram _ => .bound
  | listening _ => .listening
  | connected .. => .connected
  | closed => .closed

/-- The host resource behind an endpoint. -/
def resource? : Endpoint → Option Resource
  | listening l => some l.resource
  | connected c _ => some c.resource
  | datagram p => some p.resource
  | _ => none

/-- Closes the host resource behind an endpoint. -/
def closing (e : Endpoint) : List Effect := e.resource?.toList.map .close

end Endpoint

structure Socket where
  protocol : Protocol
  family : Family
  endpoint : Endpoint := .unbound
  deriving DecidableEq, Repr

namespace Socket

def streamType : Int := 1

def datagramType : Int := 2

/-- A new socket; the protocol number must be zero. -/
def create (domain type protocol : Int) : Except CallError Socket :=
  match Family.ofCode? domain with
  | none => .error .protocolNotSupported
  | some family =>
    if type ≠ streamType ∧ type ≠ datagramType then .error .socketTypeNotSupported
    else if protocol ≠ 0 then .error .protocolNotSupported
    else .ok { protocol := if type = streamType then .tcp else .udp, family }

/-- The socket of an accepted connection. -/
def accepted (protocol : Protocol) (c : ConnectionHandle) (peer : SockAddr) : Socket :=
  { protocol, family := peer.family, endpoint := .connected c peer }

def state (s : Socket) : SocketState := s.endpoint.state

def withEndpoint (s : Socket) (e : Endpoint) : Socket := { s with endpoint := e }

/-- Addresses must have the family of the socket. -/
def checkFamily (s : Socket) (a : SockAddr) : Except CallError Unit :=
  if a.family = s.family then .ok ()
  else .error (.malformedAddress (a.text ++ ": wrong address family for socket"))

/-- A peer must have a port. -/
def checkPort (a : SockAddr) : Except CallError Unit :=
  if a.port = 0 then .error (.malformedAddress (a.text ++ ": port must be nonzero")) else .ok ()

end Socket

end SyscallBridge
