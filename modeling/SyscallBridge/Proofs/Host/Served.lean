import SyscallBridge.Proofs.Host.Requests

/-!
# What an answered request does

Whatever is asked, one of a few things happens to the host when the answer is given: it is as
before, something is opened under the next number, something is put into a queue or taken from one,
or a dial leaves nothing behind. `Served` lists them. What requests preserve is shown of these, so
that no proof goes through the requests again.
-/

namespace SyscallBridge

open InProcess

inductive ResourceKind where
  | listener | stream | port | channel | server
  deriving DecidableEq

def Resource.kind : Resource → ResourceKind
  | .listener _ => .listener
  | .stream _ => .stream
  | .port _ => .port
  | .channel _ => .channel
  | .server _ => .server

/-- A resource that is opened, and the address that is its own among those of its kind. -/
structure Opening where
  resource : Resource
  address : Option NetAddress
  deriving DecidableEq, Repr

namespace Request

/-- A dial works on what it opens; that it also queues the far side is not counted. -/
def kind? : Request → Option ResourceKind
  | .resolve .. => none
  | .listen .. | .accept _ => some .listener
  | .dial .tcp _ _ => some .stream
  | .dial .udp _ _ | .bindPort _ | .sendTo .. | .receiveFrom .. => some .port
  | .read c _ | .write c _ => some c.resource.kind
  | .dialChannel _ | .sendMessage .. | .receiveMessage _ => some .channel
  | .acceptChannel _ => some .server

/-- The address that a request asks for, as it is given. -/
def own? : Request → Option NetAddress
  | listen _ a | bindPort a => some a
  | dial _ own peer => some (own.getD peer.loopback)
  | _ => none

/-- What an answer tells of as open. Streams and channels come in pairs, and the other side has the
next number. -/
def opened : (q : Request) → Except HostFailure q.Answer → List Opening
  | .listen .., .ok l => [⟨l.resource, some l.address⟩]
  | .dial .tcp .., .ok c => [⟨.stream (c.id + 1), none⟩, ⟨.stream c.id, none⟩]
  | .dial .udp .., .ok c => [⟨.port c.id, some c.own⟩]
  | .bindPort _, .ok p => [⟨p.resource, some p.own⟩]
  | .dialChannel _, .ok c => [⟨.channel (c.id + 1), none⟩, ⟨.channel c.id, none⟩]
  | _, _ => []

theorem opened_of_resource {q : Request} {x : Resource} (hq : q.resource? = some x)
    (answer : Except HostFailure q.Answer) : q.opened answer = [] := by
  cases q with
  | resolve | listen | dial | bindPort | dialChannel => cases hq
  | accept | read | write | sendTo | receiveFrom | sendMessage | receiveMessage | acceptChannel =>
    cases answer <;> rfl

end Request

namespace InProcessHost

variable {h h' : InProcessHost} {q : Request}

/-! ### Marks of a closing -/

/-- The marks that an answer has used up. -/
def marks {α : Type} : Except HostFailure α → Nat
  | .error .aborted => 1
  | _ => 0

theorem marks_map {α β : Type} (f : α → β) (answer : Except HostFailure α) :
    marks (answer.map f) = marks answer := by
  cases answer with
  | ok data => rfl
  | error failure => cases failure <;> rfl

theorem count_skipEmpty (queue : List Segment) :
    (skipEmpty queue).count .abort = queue.count .abort := by
  induction queue with
  | nil => rfl
  | cons segment queue ih =>
    unfold skipEmpty
    split
    · rename_i rest heq
      cases heq
      rw [ih, List.count_cons_of_ne (by decide)]
    · rfl

theorem take?_fixed {s s' : Stream} {size : Nat} {answer : Except HostFailure Bytes}
    (ht : Stream.take? s size = some (answer, s')) :
    s'.slot = s.slot ∧ s'.peer = s.peer ∧ s'.closed = s.closed := by
  unfold Stream.take? at ht
  split at ht
  · cases ht
    exact ⟨rfl, rfl, rfl⟩
  · split at ht
    · cases ht
      exact ⟨rfl, rfl, rfl⟩
    · split at ht
      · cases ht
      all_goals
        cases ht
        exact ⟨rfl, rfl, rfl⟩

theorem take?_marks {s s' : Stream} {size : Nat} {answer : Except HostFailure Bytes}
    (ht : Stream.take? s size = some (answer, s')) :
    s.queue.count .abort = s'.queue.count .abort + marks answer := by
  have hskip := count_skipEmpty s.queue
  unfold Stream.take? at ht
  split at ht
  · cases ht
    rfl
  · split at ht
    · cases ht
      rfl
    · split at ht
      · cases ht
      all_goals
        rename_i heq
        cases ht
        rw [← hskip, heq]
        simp [marks]

theorem takeDatagram?_marks {only : Option NetAddress} {size : Nat} {queue queue' : List Packet}
    {answer : Except HostFailure (Bytes × NetAddress)}
    (ht : takeDatagram? only size queue = some (answer, queue')) :
    queue.count .abort = queue'.count .abort + marks answer := by
  induction queue with
  | nil => cases ht
  | cons packet queue ih =>
    cases packet with
    | abort =>
      cases ht
      rw [List.count_cons_self]
      rfl
    | datagram sender payload =>
      rw [List.count_cons_of_ne (by simp)]
      unfold takeDatagram? at ht
      split at ht
      · exact ih ht
      · cases ht
        rfl

/-! ### The list -/

/-- What is opened, how many marks of a closing are taken from which queue, and the host that is
left, where a request is answered. Only one that waits takes from a queue, and only one that names
an address moves the counter of ports. -/
inductive Served (h : InProcessHost) (q : Request) :
    List Opening → Option (Resource × Nat) → InProcessHost → Prop
  | nothing : Served h q [] none h
  | searches {a : NetAddress} {next : UInt16} (asks : q.own? = some a) :
    Served h q [] none { h with nextPort := next }
  | listens {a b : NetAddress} {next : UInt16} (asks : q.own? = some a)
    (kind : q.kind? = some .listener) (free : h.listening.find? b = none) :
    Served h q [⟨.listener h.nextId, some b⟩] none { h with
      nextPort := next
      nextId := h.nextId + 1
      slots := h.slots.insert.2
      listeners := h.listeners.insert h.nextId { slot := h.slots.insert.1, address := b }
      listening := h.listening.insert b h.nextId }
  | opensPort {a b : NetAddress} {next : UInt16} (asks : q.own? = some a)
    (kind : q.kind? = some .port) (free : h.bound.find? b = none) :
    Served h q [⟨.port h.nextId, some b⟩] none { h with
      nextPort := next
      nextId := h.nextId + 1
      slots := h.slots.insert.2
      ports := h.ports.insert h.nextId { slot := h.slots.insert.1, own := b }
      bound := h.bound.insert b h.nextId }
  | dials {a : NetAddress} {next : UInt16} {l : Nat} {c : ConnectionHandle}
    (asks : q.own? = some a) (kind : q.kind? = some .stream) (far : c.id = h.nextId + 1) :
    Served h q [⟨.stream (h.nextId + 1), none⟩, ⟨.stream h.nextId, none⟩] none { h with
      nextPort := next
      nextId := h.nextId + 2
      slots := h.dialedSlots
      streams := h.dialed
      listeners := h.listeners.modify l fun l => { l with queue := l.queue ++ [.connection c] } }
  | undials {a : NetAddress} {next : UInt16} {slots : Slots} {streams : Assoc Nat Stream}
    (asks : q.own? = some a) (kind : q.kind? = some .stream) (held : slots.held = h.slots.held)
    (find : ∀ y, streams.find? y =
      if y = h.nextId + 1 ∨ y = h.nextId then none else h.streams.find? y) :
    Served h q [] none { h with nextPort := next, nextId := h.nextId + 2, slots, streams }
  | dialsChannel {server : Nat} {c : ChannelHandle} (kind : q.kind? = some .channel)
    (far : c.id = h.nextId + 1) :
    Served h q [⟨.channel (h.nextId + 1), none⟩, ⟨.channel h.nextId, none⟩] none { h with
      nextId := h.nextId + 2
      slots := h.dialedSlots
      channels := h.dialedChannels
      servers := h.servers.modify server fun s => { s with queue := s.queue ++ [c] } }
  | undialsChannel {slots : Slots} {channels : Assoc Nat Channel} (kind : q.kind? = some .channel)
    (held : slots.held = h.slots.held)
    (find : ∀ y, channels.find? y =
      if y = h.nextId + 1 ∨ y = h.nextId then none else h.channels.find? y) :
    Served h q [] none { h with nextId := h.nextId + 2, slots, channels }
  | writes {id : Nat} {data : Bytes} (kind : q.kind? = some .stream) :
    Served h q [] none (h.pushSegment id (.data data))
  | sends {id : Nat} {sender : NetAddress} {data : Bytes} (kind : q.kind? = some .port) :
    Served h q [] none (h.pushPacket id (.datagram sender data))
  | sendsMessage {id : Nat} {m : Message} (kind : q.kind? = some .channel) :
    Served h q [] none (h.pushFrame id (.message m))
  | accepts {id n : Nat} {l : Listener} {queue : List Arrival} (found : h.listeners.find? id = some l)
    (count : l.queue.count .abort = queue.count .abort + n) (rest : queue ⊆ l.queue) :
    Served h q [] (some (.listener id, n))
      { h with listeners := h.listeners.insert id { l with queue } }
  | reads {id n : Nat} {s s' : Stream} (kind : q.kind? = some .stream)
    (found : h.streams.find? id = some s)
    (fixed : s'.slot = s.slot ∧ s'.peer = s.peer ∧ s'.closed = s.closed)
    (count : s.queue.count .abort = s'.queue.count .abort + n) :
    Served h q [] (some (.stream id, n)) { h with streams := h.streams.insert id s' }
  | receives {id n : Nat} {p : Port} {queue : List Packet} (kind : q.kind? = some .port)
    (found : h.ports.find? id = some p) (count : p.queue.count .abort = queue.count .abort + n) :
    Served h q [] (some (.port id, n)) { h with ports := h.ports.insert id { p with queue } }
  | receivesMessage {id n : Nat} {c : Channel} {queue : List Frame} (kind : q.kind? = some .channel)
    (found : h.channels.find? id = some c) (count : c.queue.count .abort = queue.count .abort + n) :
    Served h q [] (some (.channel id, n))
      { h with channels := h.channels.insert id { c with queue } }
  | acceptsChannel {id : Nat} {s : Server} {queue : List ChannelHandle}
    (found : h.servers.find? id = some s) (rest : queue ⊆ s.queue) :
    Served h q [] (some (.server id, 0)) { h with servers := h.servers.insert id { s with queue } }

theorem served_receiveDatagram? {id size : Nat} {only : Option NetAddress}
    {answer : Except HostFailure (Bytes × NetAddress)} (kind : q.kind? = some .port)
    (hr : h.receiveDatagram? id only size = some (answer, h')) :
    Served h q [] (some (.port id, marks answer)) h' := by
  obtain ⟨p, queue, hp, ht, rfl⟩ := receiveDatagram?_eq_some hr
  exact .receives kind hp (takeDatagram?_marks ht)

theorem served_sendDatagram {id : Nat} {data : Bytes} {target : NetAddress}
    {answer : Except HostFailure Nat} (kind : q.kind? = some .port)
    (hs : some (h.sendDatagram id data target) = some (answer, h')) : Served h q [] none h' := by
  rcases sendDatagram_eq_some hs with rfl | ⟨taker, sender, -, rfl⟩
  · exact .nothing
  · exact .sends kind

/-- An answered request does one of these things. -/
theorem served_poll? {answer : Except HostFailure q.Answer}
    (hp : h.poll? q = some (answer, h')) :
    Served h q (q.opened answer) (q.waits?.map fun x => (x, marks answer)) h' := by
  cases q with
  | resolve name port hint =>
    cases hp
    cases h.resolve name port hint <;> exact .nothing
  | listen protocol a =>
    rcases listen_eq_some hp with ⟨f, next, rfl, rfl⟩ | ⟨b, next, rfl, -, rfl, hfree⟩
    · exact .searches rfl
    · exact .listens rfl rfl hfree
  | dial protocol own peer =>
    cases protocol with
    | tcp =>
      rcases dialStream_eq_some hp with ⟨f, rfl, rfl⟩ | ⟨b, next, l, rfl, -, rfl⟩ |
        ⟨next, slots, streams, rfl, rfl, hheld, hfind⟩
      · exact .nothing
      · exact .dials rfl rfl rfl
      · exact .undials rfl rfl hheld hfind
    | udp =>
      rcases dialDatagram_eq_some hp with ⟨f, next, rfl, rfl⟩ | ⟨b, next, rfl, -, rfl, hfree⟩
      · exact .searches rfl
      · exact .opensPort rfl rfl hfree
  | bindPort a =>
    rcases bindPort_eq_some hp with ⟨f, next, rfl, rfl⟩ | ⟨b, next, rfl, -, rfl, hfree⟩
    · exact .searches rfl
    · exact .opensPort rfl rfl hfree
  | dialChannel url =>
    rcases dialChannel_eq_some hp with ⟨f, rfl, rfl⟩ | ⟨server, rfl, rfl⟩ |
      ⟨slots, channels, rfl, rfl, hheld, hfind⟩
    · exact .nothing
    · exact .dialsChannel rfl rfl
    · exact .undialsChannel rfl hheld hfind
  | accept l =>
    obtain ⟨listener, arrival, queue, hl, hq, hanswer, rfl⟩ := takeArrival?_eq_some hp
    rw [Request.opened_of_resource rfl]
    refine .accepts hl ?_ (hq ▸ List.subset_cons_self _ _)
    rcases hanswer with ⟨rfl, rfl⟩ | ⟨c, rfl, rfl⟩
    · rw [hq, List.count_cons_self]
      rfl
    · rw [hq, List.count_cons_of_ne (by simp)]
      rfl
  | read c size =>
    rw [Request.opened_of_resource rfl]
    obtain ⟨protocol, id, own, peer⟩ := c
    cases protocol with
    | tcp =>
      obtain ⟨s, s', hs, ht, rfl⟩ := readStream?_eq_some hp
      exact .reads rfl hs (take?_fixed ht) (take?_marks ht)
    | udp =>
      obtain ⟨⟨got, h₁⟩, hgot, hrest⟩ := Option.map_eq_some_iff.1 hp
      cases hrest
      change Served h _ [] (some (.port id, marks (got.map Prod.fst))) h'
      rw [marks_map]
      exact served_receiveDatagram? rfl hgot
  | write c data =>
    rw [Request.opened_of_resource rfl]
    obtain ⟨protocol, id, own, peer⟩ := c
    cases protocol with
    | tcp =>
      rcases writeStream_eq_some hp with ⟨f, -, rfl⟩ | ⟨s, -, -, -, -, rfl⟩
      · exact .nothing
      · exact .writes rfl
    | udp => exact served_sendDatagram rfl hp
  | sendTo p data target =>
    rw [Request.opened_of_resource rfl]
    exact served_sendDatagram rfl hp
  | receiveFrom p size =>
    rw [Request.opened_of_resource rfl]
    exact served_receiveDatagram? rfl hp
  | sendMessage c m =>
    rw [Request.opened_of_resource rfl]
    rcases sendMessage_eq_some hp with ⟨f, -, rfl⟩ | ⟨other, -, -, -, rfl⟩
    · exact .nothing
    · exact .sendsMessage rfl
  | receiveMessage c =>
    obtain ⟨channel, frame, queue, hc, hq, hanswer, rfl⟩ := receiveMessage?_eq_some hp
    rw [Request.opened_of_resource rfl]
    refine .receivesMessage rfl hc ?_
    rcases hanswer with ⟨rfl, rfl⟩ | ⟨rfl, rfl⟩ | ⟨m, rfl, rfl⟩
    · rw [hq, List.count_cons_self]
      rfl
    · rw [hq, List.count_cons_of_ne (by decide)]
      rfl
    · rw [hq, List.count_cons_of_ne (by simp)]
      rfl
  | acceptChannel server =>
    obtain ⟨s, c, queue, hs, hq, rfl, rfl⟩ := takeChannel?_eq_some hp
    exact .acceptsChannel hs (hq ▸ List.subset_cons_self _ _)

/-- Only a request that names an address moves the counter of ports. -/
theorem Served.nextPort {made : List Opening} {taken : Option (Resource × Nat)}
    (hs : Served h q made taken h') (hq : q.own? = none) : h'.nextPort = h.nextPort := by
  cases hs with
  | searches asks | listens asks | opensPort asks | dials asks | undials asks =>
    rw [hq] at asks
    cases asks
  | nothing | dialsChannel | undialsChannel | writes | sends | sendsMessage | accepts | reads
  | receives | receivesMessage | acceptsChannel => rfl

/-- Listening, dialing over TCP and accepting is done to listeners, and nothing else. -/
theorem Served.listeners {made : List Opening} {taken : Option (Resource × Nat)}
    (hs : Served h q made taken h') (hasks : q.own? = none ∨ q.kind? = some .port)
    (htaken : ∀ id n, taken ≠ some (.listener id, n)) : h'.listeners = h.listeners := by
  have hasks {a : NetAddress} {k : ResourceKind} (asks : q.own? = some a)
      (kind : q.kind? = some k) : k = .port := by
    rcases hasks with hnone | hport
    · cases hnone.symm.trans asks
    · exact Option.some.inj (kind.symm.trans hport)
  cases hs with
  | listens asks kind | dials asks kind => cases hasks asks kind
  | @accepts id n => exact absurd rfl (htaken id n)
  | nothing | searches | opensPort | undials | dialsChannel | undialsChannel | writes | sends
  | sendsMessage | reads | receives | receivesMessage | acceptsChannel => rfl

/-- Listeners and servers are left alone by what opens nothing but ports and takes nothing from
them. -/
theorem Served.aside {made : List Opening} {taken : Option (Resource × Nat)}
    (hs : Served h q made taken h') (hmade : ∀ o ∈ made, o.resource.kind = .port)
    (htaken : ∀ x n, taken = some (x, n) → x.kind ≠ .listener ∧ x.kind ≠ .server) :
    h'.listeners = h.listeners ∧ h'.servers = h.servers ∧ h'.serving = h.serving := by
  cases hs with
  | listens | dials | dialsChannel => cases hmade _ List.mem_cons_self
  | accepts => exact absurd rfl (htaken _ _ rfl).1
  | acceptsChannel => exact absurd rfl (htaken _ _ rfl).2
  | nothing | searches | opensPort | undials | undialsChannel | writes | sends | sendsMessage | reads
  | receives | receivesMessage => exact ⟨rfl, rfl, rfl⟩

end InProcessHost

end SyscallBridge
