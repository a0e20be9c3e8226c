import SyscallBridge.Data.Assoc
import SyscallBridge.Host.Console
import SyscallBridge.Host.InProcess.Slots
import SyscallBridge.Host.Request

/-!
# A host inside the process

All resources of the host by number, and beside them what is found by address: open listeners,
open datagram ports and message servers. A number is never used again, while the listeners,
streams, datagram ports and channel sides that are not closed hold a slot each, which is used again
once it is given back. A resource that is closed stays until nobody refers to it, so that whoever
sends to it can tell it from one that is gone.
-/

namespace SyscallBridge

namespace InProcess

inductive Arrival where
  /-- The far side of a stream. -/
  | connection (c : ConnectionHandle)
  /-- The listener was closed. -/
  | abort
  deriving DecidableEq, Repr

def Arrival.resource? : Arrival → Option Resource
  | connection c => some (.stream c.id)
  | abort => none

structure Listener where
  slot : Nat
  address : NetAddress
  queue : List Arrival := []
  closed : Bool := false
  deriving DecidableEq, Repr

inductive Segment where
  | data (bytes : Bytes)
  /-- The other side was closed. -/
  | finish
  /-- This side was closed. -/
  | abort
  deriving DecidableEq, Repr

/-- One side of a stream. `unread` is what the last segment held beyond the last read. -/
structure Stream where
  slot : Nat
  peer : Nat
  queue : List Segment := []
  unread : Bytes := []
  ended : Bool := false
  closed : Bool := false
  deriving DecidableEq, Repr

inductive Packet where
  | datagram (sender : NetAddress) (payload : Bytes)
  /-- The port was closed. -/
  | abort
  deriving DecidableEq, Repr

structure Port where
  slot : Nat
  own : NetAddress
  queue : List Packet := []
  closed : Bool := false
  deriving DecidableEq, Repr

inductive Frame where
  | message (m : Message)
  /-- The other side was closed. -/
  | finish
  /-- This side was closed. -/
  | abort
  deriving DecidableEq, Repr

/-- One side of a message channel. -/
structure Channel where
  slot : Nat
  peer : Nat
  queue : List Frame := []
  closed : Bool := false
  deriving DecidableEq, Repr

/-- Whoever serves a URL, with the channels that nobody has accepted yet. -/
structure Server where
  url : String
  queue : List ChannelHandle := []
  deriving DecidableEq, Repr

/-- The first port handed out to a caller who asks for any. -/
def firstFreePort : UInt16 := 49152

end InProcess

open InProcess

structure InProcessHost where
  listeners : Assoc Nat Listener := {}
  streams : Assoc Nat Stream := {}
  ports : Assoc Nat Port := {}
  channels : Assoc Nat Channel := {}
  servers : Assoc Nat Server := {}
  /-- Open listeners by address. -/
  listening : Assoc NetAddress Nat := {}
  /-- Open datagram ports by address. -/
  bound : Assoc NetAddress Nat := {}
  /-- Servers by URL. -/
  serving : Assoc String Nat := {}
  names : Assoc String (List Ip) := Assoc.insert {} "localhost" [.v4 .loopback, .v6 .loopback]
  nextPort : UInt16 := firstFreePort
  nextId : Nat := 0
  slots : Slots := {}
  console : List LogRecord := []

namespace InProcessHost

/-- Writes to the console. -/
def log (h : InProcessHost) (r : LogRecord) : InProcessHost :=
  { h with console := h.console ++ [r] }

/-- What the console has been given since it was last asked. -/
def takeLogs (h : InProcessHost) : List LogRecord × InProcessHost :=
  (h.console, { h with console := [] })

/-- The slots of the resources that are not closed. -/
def live (h : InProcessHost) : List Nat := h.slots.held

/-- The number of a new resource and the slot it holds. -/
def fresh (h : InProcessHost) : Nat × Nat × InProcessHost :=
  (h.nextId, h.slots.insert.1, { h with nextId := h.nextId + 1, slots := h.slots.insert.2 })

def release (h : InProcessHost) (slot : Nat) : InProcessHost :=
  { h with slots := h.slots.remove slot }

/-! ## Names -/

def lowercase (s : String) : String := String.ofList (s.toList.map Char.toLower)

/-- Adds an address to a name; case does not matter in names. -/
def addName (h : InProcessHost) (name : String) (ip : Ip) : InProcessHost :=
  let key := lowercase name
  { h with names := h.names.insert key ((h.names.find? key).getD [] ++ [ip]) }

/-- The addresses of a numeric or known name that the hint accepts. -/
def resolve (h : InProcessHost) (name : String) (port : UInt16) (hint : AddressHint) :
    Except HostFailure (List NetAddress) :=
  let ips := match Ip.ofText? name with
    | some ip => [ip]
    | none => (h.names.find? (lowercase name)).getD []
  match (ips.map fun ip => NetAddress.mk ip port).filter fun a => hint.accepts a with
  | [] => .error .nameNotResolved
  | found => .ok found

/-! ## Ports -/

def isFree (h : InProcessHost) (a : NetAddress) : Bool :=
  !h.listening.contains a && !h.bound.contains a

def portAfter (p : UInt16) : UInt16 := if p = 65535 then firstFreePort else p + 1

/-- The first of the next `count` ports that is free at the address of `like`. -/
def searchPort (h : InProcessHost) (like : NetAddress) : Nat → UInt16 → Option UInt16
  | 0, _ => none
  | count + 1, p =>
    if h.isFree (like.withPort p) then some p else searchPort h like count (portAfter p)

/-- A free port at the address of `like`. There is no answer when every port is taken. -/
def anyPort? (h : InProcessHost) (like : NetAddress) : Option (NetAddress × InProcessHost) :=
  (h.searchPort like (65536 - firstFreePort.toNat) h.nextPort).map fun p =>
    (like.withPort p, { h with nextPort := portAfter p })

/-- The address itself, or one with a free port if it names no port. -/
def settlePort? (h : InProcessHost) (a : NetAddress) : Option (NetAddress × InProcessHost) :=
  if a.port = 0 then h.anyPort? a else some (a, h)

end InProcessHost

end SyscallBridge
