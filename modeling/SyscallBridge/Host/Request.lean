import SyscallBridge.Address.Network

/-!
# Requests to the host

What a bridge asks of its host, one request at a time, and the type of each answer. Listeners,
connections, datagram ports and message channels are handed out as handles: a number, and the
addresses that never change. A request may wait for its answer; `Request.waits?` names the
resource it waits for.
-/

namespace SyscallBridge

structure ListenerHandle where
  id : Nat
  address : NetAddress
  deriving DecidableEq, Repr

/-- A connection: one side of a stream, or a datagram port that talks to one peer. -/
structure ConnectionHandle where
  protocol : Protocol
  id : Nat
  own : NetAddress
  peer : NetAddress
  deriving DecidableEq, Repr

/-- A datagram port that talks to anyone. -/
structure PortHandle where
  id : Nat
  own : NetAddress
  deriving DecidableEq, Repr

/-- One side of a message channel. -/
structure ChannelHandle where
  id : Nat
  url : String
  deriving DecidableEq, Repr

/-- A message, delivered whole. -/
inductive Message where
  | text (s : String)
  | binary (bytes : Bytes)
  deriving DecidableEq, Repr

/-- A host resource by its kind and number. -/
inductive Resource where
  | listener (id : Nat)
  | stream (id : Nat)
  | port (id : Nat)
  | channel (id : Nat)
  | server (id : Nat)
  deriving DecidableEq, Repr

def ListenerHandle.resource (l : ListenerHandle) : Resource := .listener l.id

def PortHandle.resource (p : PortHandle) : Resource := .port p.id

def ChannelHandle.resource (c : ChannelHandle) : Resource := .channel c.id

def ConnectionHandle.resource (c : ConnectionHandle) : Resource :=
  match c.protocol with
  | .tcp => .stream c.id
  | .udp => .port c.id

inductive Request where
  | resolve (name : String) (port : UInt16) (hint : AddressHint)
  | listen (protocol : Protocol) (address : NetAddress)
  | dial (protocol : Protocol) (own : Option NetAddress) (peer : NetAddress)
  | bindPort (address : NetAddress)
  | dialChannel (url : String)
  | accept (l : ListenerHandle)
  | read (c : ConnectionHandle) (size : Nat)
  | write (c : ConnectionHandle) (data : Bytes)
  | sendTo (p : PortHandle) (data : Bytes) (target : NetAddress)
  | receiveFrom (p : PortHandle) (size : Nat)
  | sendMessage (c : ChannelHandle) (m : Message)
  | receiveMessage (c : ChannelHandle)
  /-- Takes the next channel that a server has been sent. -/
  | acceptChannel (server : Nat)
  deriving DecidableEq, Repr

namespace Request

/-- What a request is answered with. -/
abbrev Answer : Request → Type
  | resolve .. => List NetAddress
  | listen .. => ListenerHandle
  | dial .. => ConnectionHandle
  | bindPort _ => PortHandle
  | dialChannel _ => ChannelHandle
  | accept _ => ConnectionHandle
  | read .. => Bytes
  | write .. => Nat
  | sendTo .. => Nat
  | receiveFrom .. => Bytes × NetAddress
  | sendMessage .. => Unit
  | receiveMessage _ => Message
  | acceptChannel _ => ChannelHandle

/-- The resource a request is made of. -/
def resource? : Request → Option Resource
  | accept l => some l.resource
  | read c _ | write c _ => some c.resource
  | sendTo p _ _ | receiveFrom p _ => some p.resource
  | sendMessage c _ | receiveMessage c => some c.resource
  | acceptChannel server => some (.server server)
  | _ => none

/-- The resource whose queue a request takes from; such a request waits until there is something
in it. -/
def waits? : Request → Option Resource
  | accept l => some l.resource
  | read c _ => some c.resource
  | receiveFrom p _ => some p.resource
  | receiveMessage c => some c.resource
  | acceptChannel server => some (.server server)
  | _ => none

end Request

end SyscallBridge
