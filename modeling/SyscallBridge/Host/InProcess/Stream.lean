import SyscallBridge.Host.InProcess.State

/-!
# Listeners and streams

A dial makes both sides of a stream and then queues the far side on the listener, which may be
gone by then. Each side reads from its own queue of segments; a segment longer than the read is
kept for the next one, and an empty segment is passed over.
-/

namespace SyscallBridge.InProcessHost

open InProcess

def listen (h : InProcessHost) (protocol : Protocol) (a : NetAddress) :
    Option (Except HostFailure ListenerHandle × InProcessHost) :=
  match protocol with
  | .udp => some (.error .notSupported, h)
  | .tcp => do
    let (a, h) ← h.settlePort? a
    if h.listening.contains a then return (.error .addressInUse, h)
    let (id, slot, h) := h.fresh
    return (.ok ⟨id, a⟩, { h with
      listeners := h.listeners.insert id { slot, address := a }
      listening := h.listening.insert a id })

/-- The listener at an address, or else the one at the wildcard with its port. -/
def listenerFor? (h : InProcessHost) (a : NetAddress) : Option Nat :=
  h.listening.find? a <|> h.listening.find? a.unspecified

/-- Takes the next arrival of a listener, if there is one. -/
def takeArrival? (h : InProcessHost) (id : Nat) :
    Option (Except HostFailure ConnectionHandle × InProcessHost) :=
  match h.listeners.find? id with
  | some l =>
    match l.queue with
    | [] => none
    | arrival :: queue =>
      let h := { h with listeners := h.listeners.insert id { l with queue } }
      match arrival with
      | .connection c => some (.ok c, h)
      | .abort => some (.error .aborted, h)
  | none => none

/-- The next segments of a queue up to the first that is not empty. -/
def skipEmpty : List Segment → List Segment
  | .data [] :: rest => skipEmpty rest
  | segments => segments

namespace Stream

/-- Reads at most `size` bytes, if the stream holds something that ends a read. -/
def take? (s : Stream) (size : Nat) : Option (Except HostFailure Bytes × Stream) :=
  if s.unread ≠ [] then some (.ok (s.unread.take size), { s with unread := s.unread.drop size })
  else if s.ended then some (.error .connectionClosed, s)
  else match skipEmpty s.queue with
    | [] => none
    | .data bytes :: queue =>
      some (.ok (bytes.take size), { s with queue, unread := bytes.drop size })
    | .finish :: queue => some (.error .connectionClosed, { s with queue, ended := true })
    | .abort :: queue => some (.error .aborted, { s with queue })

end Stream

def readStream? (h : InProcessHost) (id size : Nat) :
    Option (Except HostFailure Bytes × InProcessHost) := do
  let s ← h.streams.find? id
  let (result, s) ← Stream.take? s size
  return (result, { h with streams := h.streams.insert id s })

def pushSegment (h : InProcessHost) (id : Nat) (segment : Segment) : InProcessHost :=
  { h with streams := h.streams.modify id fun s => { s with queue := s.queue ++ [segment] } }

/-- Hands a segment to the other side, which must still be there, closed or not. -/
def writeStream (h : InProcessHost) (id : Nat) (data : Bytes) :
    Except HostFailure Nat × InProcessHost :=
  match h.streams.find? id with
  | none => (.error .aborted, h)
  | some s =>
    if s.closed then (.error .aborted, h)
    else if h.streams.contains s.peer then (.ok data.length, h.pushSegment s.peer (.data data))
    else (.error .connectionReset, h)

/-- Both queues hear of the end, unless the stream was closed before. -/
def closeStream (h : InProcessHost) (id : Nat) : InProcessHost :=
  match h.streams.find? id with
  | none => h
  | some s =>
    if s.closed then h
    else
      let h := { h with streams := h.streams.insert id { s with closed := true } }
      ((h.pushSegment s.peer .finish).pushSegment id .abort).release s.slot

/-- Closes a stream and forgets it. -/
def dropStream (h : InProcessHost) (id : Nat) : InProcessHost :=
  let h := h.closeStream id
  { h with streams := h.streams.erase id }

def closeListener (h : InProcessHost) (id : Nat) : InProcessHost :=
  match h.listeners.find? id with
  | none => h
  | some l =>
    if l.closed then h
    else { h.release l.slot with
      listening := h.listening.erase l.address
      listeners := h.listeners.insert id { l with closed := true, queue := l.queue ++ [.abort] } }

/-! ## Dials -/

/-- The near address of a dial: as given, with any port where none is given. -/
def ownAddress? (h : InProcessHost) (own : Option NetAddress) (peer : NetAddress) :
    Option (NetAddress × InProcessHost) :=
  h.settlePort? (own.getD peer.loopback)

/-- A dial that has found its listener and made both sides. -/
structure StreamDial where
  listener : Nat
  near : ConnectionHandle
  far : ConnectionHandle
  deriving DecidableEq, Repr

def startStream? (h : InProcessHost) (own : Option NetAddress) (peer : NetAddress) :
    Option (Except HostFailure StreamDial × InProcessHost) :=
  match h.listenerFor? peer with
  | none => some (.error .connectionRefused, h)
  | some listener => do
    let (own, h) ← h.ownAddress? own peer
    let (near, nearSlot, h) := h.fresh
    let (far, farSlot, h) := h.fresh
    let streams := (h.streams.insert near { slot := nearSlot, peer := far }).insert far
      { slot := farSlot, peer := near }
    return (.ok ⟨listener, ⟨.tcp, near, own, peer⟩, ⟨.tcp, far, peer, own⟩⟩, { h with streams })

/-- Hands the far side to the listener, closed or not. One that is gone takes nothing, and both
sides are dropped. -/
def deliverStream (h : InProcessHost) (d : StreamDial) :
    Except HostFailure ConnectionHandle × InProcessHost :=
  if h.listeners.contains d.listener then
    (.ok d.near, { h with
      listeners := h.listeners.modify d.listener fun l =>
        { l with queue := l.queue ++ [.connection d.far] } })
  else (.error .connectionRefused, (h.dropStream d.far.id).dropStream d.near.id)

def dialStream (h : InProcessHost) (own : Option NetAddress) (peer : NetAddress) :
    Option (Except HostFailure ConnectionHandle × InProcessHost) := do
  match ← h.startStream? own peer with
  | (.error f, h) => return (.error f, h)
  | (.ok d, h) => return h.deliverStream d

end SyscallBridge.InProcessHost
