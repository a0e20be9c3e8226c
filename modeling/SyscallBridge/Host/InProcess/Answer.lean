import SyscallBridge.Host.InProcess.Channel

/-!
# Answering requests

`answer?` answers a request, or leaves the host as it is when the request has to wait. A request
made of a resource that is closed already is refused before anything else; one that was waiting
when the resource was closed is answered from the queue.

`close` ends a resource; a server has no end but being dropped. What stands in the queue of a
listener or a server belongs to it, so `drop` also forgets the resource and drops what stands in its
queue. `retain` drops whatever the rest of the world no longer refers to.
-/

namespace SyscallBridge.InProcessHost

open InProcess

/-- The resource is there and closed. -/
def isClosed (h : InProcessHost) : Resource → Bool
  | .listener id => (h.listeners.find? id).any (·.closed)
  | .stream id => (h.streams.find? id).any (·.closed)
  | .port id => (h.ports.find? id).any (·.closed)
  | .channel id => (h.channels.find? id).any (·.closed)
  | .server _ => false

def read? (h : InProcessHost) (c : ConnectionHandle) (size : Nat) :
    Option (Except HostFailure Bytes × InProcessHost) :=
  match c.protocol with
  | .tcp => h.readStream? c.id size
  | .udp => (h.receiveDatagram? c.id (some c.peer) size).map fun (r, h) => (r.map Prod.fst, h)

def write (h : InProcessHost) (c : ConnectionHandle) (data : Bytes) :
    Except HostFailure Nat × InProcessHost :=
  match c.protocol with
  | .tcp => h.writeStream c.id data
  | .udp => h.sendDatagram c.id data c.peer

/-- The answer to a request whose turn it is, if there is one yet. -/
def poll? (h : InProcessHost) :
    (r : Request) → Option (Except HostFailure r.Answer × InProcessHost)
  | .resolve name port hint => some (h.resolve name port hint, h)
  | .listen protocol a => h.listen protocol a
  | .dial .tcp own peer => h.dialStream own peer
  | .dial .udp own peer => h.dialDatagram own peer
  | .bindPort a => h.bindPort a
  | .dialChannel url => some (h.dialChannel url)
  | .accept l => h.takeArrival? l.id
  | .read c size => h.read? c size
  | .write c data => some (h.write c data)
  | .sendTo p data target => some (h.sendDatagram p.id data target)
  | .receiveFrom p size => h.receiveDatagram? p.id none size
  | .sendMessage c m => some (h.sendMessage c.id m)
  | .receiveMessage c => h.receiveMessage? c.id
  | .acceptChannel server => h.takeChannel? server

/-- The request is refused since what it waits for is closed. -/
def refuses (h : InProcessHost) (r : Request) : Bool := r.waits?.any h.isClosed

/-- The answer to a new request, if there is one yet. -/
def answer? (h : InProcessHost) (r : Request) :
    Option (Except HostFailure r.Answer × InProcessHost) :=
  if h.refuses r then some (.error .aborted, h) else h.poll? r

/-! ## Ends -/

def close (h : InProcessHost) : Resource → InProcessHost
  | .listener id => h.closeListener id
  | .stream id => h.closeStream id
  | .port id => h.closePort id
  | .channel id => h.closeChannel id
  | .server _ => h

/-- Takes a resource out of the host. The URL of a server can be served by another one then. -/
def forget (h : InProcessHost) : Resource → InProcessHost
  | .listener id => { h with listeners := h.listeners.erase id }
  | .stream id => { h with streams := h.streams.erase id }
  | .port id => { h with ports := h.ports.erase id }
  | .channel id => { h with channels := h.channels.erase id }
  | .server id =>
    { h with
      servers := h.servers.erase id
      serving := ((h.servers.find? id).map fun s => h.serving.erase s.url).getD h.serving }

/-- Every resource that is there. -/
def resources (h : InProcessHost) : List Resource :=
  h.listeners.keys.map .listener ++ h.streams.keys.map .stream ++ h.ports.keys.map .port ++
    h.channels.keys.map .channel ++ h.servers.keys.map .server

/-- What stands in the queue of a resource. -/
def queued (h : InProcessHost) : Resource → List Resource
  | .listener id =>
    ((h.listeners.find? id).map fun l => l.queue.filterMap Arrival.resource?).getD []
  | .server id => ((h.servers.find? id).map fun s => s.queue.map ChannelHandle.resource).getD []
  | _ => []

/-- Ends a resource and forgets it, whatever stands in its queue. -/
def discard (h : InProcessHost) (r : Resource) : InProcessHost := (h.close r).forget r

/-- Drops a resource, and then what stands in its queue, in order. -/
def drop (h : InProcessHost) (r : Resource) : InProcessHost :=
  (h.queued r).foldl discard (h.discard r)

/-- The roots and what stands in their queues. -/
def reachable (h : InProcessHost) (roots : List Resource) : List Resource :=
  roots ++ roots.flatMap h.queued

/-- Drops what is reachable no more. -/
def retain (h : InProcessHost) (roots : List Resource) : InProcessHost :=
  let kept := h.reachable roots
  (h.resources.filter fun r => !kept.contains r).foldl drop h

end SyscallBridge.InProcessHost
