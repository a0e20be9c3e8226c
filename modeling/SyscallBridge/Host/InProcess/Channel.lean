import SyscallBridge.Host.InProcess.Datagram

/-!
# Message channels

A server takes the channels dialed to its URL, unless it is gone before a channel gets there. Both
sides of a channel send and receive whole messages.
-/

namespace SyscallBridge.InProcessHost

open InProcess

/-- Starts to serve a URL that nobody serves. -/
def serve (h : InProcessHost) (url : String) : Except HostFailure Nat × InProcessHost :=
  if h.serving.contains url then (.error .addressInUse, h)
  else
    let id := h.nextId
    (.ok id, { h with
      nextId := id + 1
      servers := h.servers.insert id { url }
      serving := h.serving.insert url id })

def takeChannel? (h : InProcessHost) (server : Nat) :
    Option (Except HostFailure ChannelHandle × InProcessHost) :=
  match h.servers.find? server with
  | some s =>
    match s.queue with
    | [] => none
    | c :: queue => some (.ok c, { h with servers := h.servers.insert server { s with queue } })
  | none => none

def pushFrame (h : InProcessHost) (id : Nat) (frame : Frame) : InProcessHost :=
  { h with channels := h.channels.modify id fun c => { c with queue := c.queue ++ [frame] } }

/-- Hands a message to the other side, which must still be there, closed or not. -/
def sendMessage (h : InProcessHost) (id : Nat) (m : Message) :
    Except HostFailure Unit × InProcessHost :=
  match h.channels.find? id with
  | none => (.error .aborted, h)
  | some c =>
    if c.closed then (.error .aborted, h)
    else if h.channels.contains c.peer then (.ok (), h.pushFrame c.peer (.message m))
    else (.error .connectionClosed, h)

def receiveMessage? (h : InProcessHost) (id : Nat) :
    Option (Except HostFailure Message × InProcessHost) :=
  match h.channels.find? id with
  | some c =>
    match c.queue with
    | [] => none
    | frame :: queue =>
      let h := { h with channels := h.channels.insert id { c with queue } }
      match frame with
      | .message m => some (.ok m, h)
      | .finish => some (.error .connectionClosed, h)
      | .abort => some (.error .aborted, h)
  | none => none

def closeChannel (h : InProcessHost) (id : Nat) : InProcessHost :=
  match h.channels.find? id with
  | none => h
  | some c =>
    if c.closed then h
    else
      let h := { h with channels := h.channels.insert id { c with closed := true } }
      ((h.pushFrame c.peer .finish).pushFrame id .abort).release c.slot

/-- Closes a channel and forgets it. -/
def dropChannel (h : InProcessHost) (id : Nat) : InProcessHost :=
  let h := h.closeChannel id
  { h with channels := h.channels.erase id }

/-! ## Dials -/

/-- A dial that has found its server and made both sides. -/
structure ChannelDial where
  server : Nat
  near : ChannelHandle
  far : ChannelHandle
  deriving DecidableEq, Repr

def startChannel (h : InProcessHost) (url : String) :
    Except HostFailure ChannelDial × InProcessHost :=
  match h.serving.find? url with
  | none => (.error .connectionRefused, h)
  | some server =>
    let (near, nearSlot, h) := h.fresh
    let (far, farSlot, h) := h.fresh
    let channels := (h.channels.insert near { slot := nearSlot, peer := far }).insert far
      { slot := farSlot, peer := near }
    (.ok ⟨server, ⟨near, url⟩, ⟨far, url⟩⟩, { h with channels })

/-- Hands the far side to the server. One that is gone takes nothing, and both sides are dropped. -/
def deliverChannel (h : InProcessHost) (d : ChannelDial) :
    Except HostFailure ChannelHandle × InProcessHost :=
  if h.servers.contains d.server then
    (.ok d.near, { h with
      servers := h.servers.modify d.server fun s => { s with queue := s.queue ++ [d.far] } })
  else (.error .connectionRefused, (h.dropChannel d.far.id).dropChannel d.near.id)

def dialChannel (h : InProcessHost) (url : String) :
    Except HostFailure ChannelHandle × InProcessHost :=
  match h.startChannel url with
  | (.error f, h) => (.error f, h)
  | (.ok d, h) => h.deliverChannel d

end SyscallBridge.InProcessHost
