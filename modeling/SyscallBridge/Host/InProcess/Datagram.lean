import SyscallBridge.Host.InProcess.Stream

/-!
# Datagram ports

A datagram goes to the port at its target or else to the one at the wildcard with that port
number, and is dropped when there is neither. A connected port passes over datagrams that do not
come from its peer.
-/

namespace SyscallBridge.InProcessHost

open InProcess

/-- Opens a port at an address that no open port has. -/
def openPort (h : InProcessHost) (own : NetAddress) : Except HostFailure Nat × InProcessHost :=
  if h.bound.contains own then (.error .addressInUse, h)
  else
    let (id, slot, h) := h.fresh
    (.ok id, { h with ports := h.ports.insert id { slot, own }, bound := h.bound.insert own id })

def bindPort (h : InProcessHost) (a : NetAddress) :
    Option (Except HostFailure PortHandle × InProcessHost) := do
  let (own, h) ← h.settlePort? a
  let (opened, h) := h.openPort own
  return (opened.map fun id => ⟨id, own⟩, h)

def dialDatagram (h : InProcessHost) (own : Option NetAddress) (peer : NetAddress) :
    Option (Except HostFailure ConnectionHandle × InProcessHost) := do
  let (own, h) ← h.ownAddress? own peer
  let (opened, h) := h.openPort own
  return (opened.map fun id => ⟨.udp, id, own, peer⟩, h)

/-- The port that takes what is sent to an address. -/
def portFor? (h : InProcessHost) (a : NetAddress) : Option Nat :=
  h.bound.find? a <|> h.bound.find? a.unspecified

def pushPacket (h : InProcessHost) (id : Nat) (packet : Packet) : InProcessHost :=
  { h with ports := h.ports.modify id fun p => { p with queue := p.queue ++ [packet] } }

/-- Sends one datagram; that nobody takes it is no failure. -/
def sendDatagram (h : InProcessHost) (id : Nat) (data : Bytes) (target : NetAddress) :
    Except HostFailure Nat × InProcessHost :=
  match h.ports.find? id with
  | none => (.error .aborted, h)
  | some p =>
    if p.closed then (.error .aborted, h)
    else match h.portFor? target with
      | some taker => (.ok data.length, h.pushPacket taker (.datagram p.own.routable data))
      | none => (.ok data.length, h)

/-- The first `size` bytes of the next datagram, from `only` if a sender is given; the datagrams
in front of it are dropped, and so is the rest of it. -/
def takeDatagram? (only : Option NetAddress) (size : Nat) :
    List Packet → Option (Except HostFailure (Bytes × NetAddress) × List Packet)
  | [] => none
  | .abort :: queue => some (.error .aborted, queue)
  | .datagram sender payload :: queue =>
    if only.any (· ≠ sender) then takeDatagram? only size queue
    else some (.ok (payload.take size, sender), queue)

def receiveDatagram? (h : InProcessHost) (id : Nat) (only : Option NetAddress) (size : Nat) :
    Option (Except HostFailure (Bytes × NetAddress) × InProcessHost) := do
  let p ← h.ports.find? id
  let (result, queue) ← takeDatagram? only size p.queue
  return (result, { h with ports := h.ports.insert id { p with queue } })

def closePort (h : InProcessHost) (id : Nat) : InProcessHost :=
  match h.ports.find? id with
  | none => h
  | some p =>
    if p.closed then h
    else { h.release p.slot with
      bound := h.bound.erase p.own
      ports := h.ports.insert id { p with closed := true, queue := p.queue ++ [.abort] } }

end SyscallBridge.InProcessHost
