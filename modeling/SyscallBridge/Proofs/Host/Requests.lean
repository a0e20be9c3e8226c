import SyscallBridge.Host.InProcess.Answer

/-!
# What requests do to the host

One lemma for each kind of request: the answer it gets and the host it leaves, with all that changes
written out. What a request leaves alone can be read off there.
-/

namespace SyscallBridge

/-- `b` is `a`, with some port if `a` names none. -/
structure NetAddress.Settles (a b : NetAddress) : Prop where
  ip : b.ip = a.ip
  port : a.port ≠ 0 → b = a

namespace InProcessHost

open InProcess

variable {h h' : InProcessHost}

theorem settlePort?_eq_some {a b : NetAddress} (hs : h.settlePort? a = some (b, h')) :
    (∃ next, h' = { h with nextPort := next }) ∧ a.Settles b := by
  unfold settlePort? at hs
  split at hs
  · rename_i hzero
    simp only [anyPort?, Option.map_eq_some_iff] at hs
    obtain ⟨p, -, hp⟩ := hs
    cases hp
    exact ⟨⟨_, rfl⟩, rfl, fun hne => absurd hzero hne⟩
  · cases hs
    exact ⟨⟨_, rfl⟩, rfl, fun _ => rfl⟩

theorem listen_eq_some {protocol : Protocol} {a : NetAddress}
    {answer : Except HostFailure ListenerHandle} (hl : h.listen protocol a = some (answer, h')) :
    (∃ f next, answer = .error f ∧ h' = { h with nextPort := next }) ∨
    ∃ b next, answer = .ok ⟨h.nextId, b⟩ ∧ a.Settles b ∧ h' = { h with
      nextPort := next
      nextId := h.nextId + 1
      slots := h.slots.insert.2
      listeners := h.listeners.insert h.nextId { slot := h.slots.insert.1, address := b }
      listening := h.listening.insert b h.nextId } ∧ h.listening.find? b = none := by
  cases protocol with
  | udp =>
    cases hl
    exact Or.inl ⟨_, h.nextPort, rfl, rfl⟩
  | tcp =>
    simp only [listen, Option.bind_eq_bind, Option.bind_eq_some_iff] at hl
    obtain ⟨⟨b, h₁⟩, hsettle, hrest⟩ := hl
    obtain ⟨⟨next, rfl⟩, hb⟩ := settlePort?_eq_some hsettle
    dsimp only at hrest
    split at hrest
    · cases hrest
      exact Or.inl ⟨_, next, rfl, rfl⟩
    · rename_i hfree
      cases hrest
      exact Or.inr ⟨b, next, rfl, hb, rfl, by simpa [Assoc.contains] using hfree⟩

/-! ## Dialed streams -/

/-- The slots with two more handed out. -/
def dialedSlots (h : InProcessHost) : Slots := h.slots.insert.2.insert.2

/-- The streams with both sides of a new one. -/
def dialed (h : InProcessHost) : Assoc Nat Stream :=
  (h.streams.insert h.nextId { slot := h.slots.insert.1, peer := h.nextId + 1 }).insert
    (h.nextId + 1) { slot := h.slots.insert.2.insert.1, peer := h.nextId }

theorem find?_dialed (h : InProcessHost) (x : Nat) :
    h.dialed.find? x =
      if x = h.nextId + 1 then some { slot := h.slots.insert.2.insert.1, peer := h.nextId }
      else if x = h.nextId then some { slot := h.slots.insert.1, peer := h.nextId + 1 }
      else h.streams.find? x := by
  rw [dialed, Assoc.find?_insert, Assoc.find?_insert]

theorem startStream?_eq_some {own : Option NetAddress} {peer : NetAddress}
    {started : Except HostFailure StreamDial}
    (hs : h.startStream? own peer = some (started, h')) :
    (h.listenerFor? peer = none ∧ started = .error .connectionRefused ∧ h' = h) ∨
    ∃ b next l, h.listenerFor? peer = some l ∧ (own.getD peer.loopback).Settles b ∧
      started = .ok ⟨l, ⟨.tcp, h.nextId, b, peer⟩, ⟨.tcp, h.nextId + 1, peer, b⟩⟩ ∧ h' = { h with
      nextPort := next
      nextId := h.nextId + 2
      slots := h.dialedSlots
      streams := h.dialed } := by
  unfold startStream? at hs
  split at hs
  · rename_i hnone
    cases hs
    exact Or.inl ⟨hnone, rfl, rfl⟩
  · rename_i l hl
    simp only [Option.bind_eq_bind, Option.bind_eq_some_iff] at hs
    obtain ⟨⟨b, h₁⟩, hsettle, hrest⟩ := hs
    obtain ⟨⟨next, rfl⟩, hb⟩ := settlePort?_eq_some hsettle
    cases hrest
    exact Or.inr ⟨b, next, l, hl, hb, rfl, rfl⟩

theorem deliverStream_cases (h : InProcessHost) (d : StreamDial) :
    (h.listeners.contains d.listener = true ∧ h.deliverStream d = (.ok d.near, { h with
      listeners := h.listeners.modify d.listener fun l =>
        { l with queue := l.queue ++ [.connection d.far] } })) ∨
    h.listeners.contains d.listener = false ∧ h.deliverStream d =
      (.error .connectionRefused, (h.dropStream d.far.id).dropStream d.near.id) := by
  unfold deliverStream
  split
  · rename_i hthere
    exact Or.inl ⟨hthere, rfl⟩
  · rename_i hgone
    exact Or.inr ⟨Bool.of_not_eq_true hgone, rfl⟩

theorem dropStream_of_open {id : Nat} {s : Stream} (hs : h.streams.find? id = some s)
    (hopen : s.closed = false) : ∃ streams, h.dropStream id = { h with
      slots := h.slots.remove s.slot
      streams } ∧ ∀ y, streams.find? y = if y = id then none
        else if y = s.peer then
          (h.streams.find? y).map fun t => { t with queue := t.queue ++ [.finish] }
        else h.streams.find? y := by
  refine ⟨_, by simp [dropStream, closeStream, hs, hopen, release, pushSegment]; rfl, fun y => ?_⟩
  rw [Assoc.find?_erase]
  split
  · rfl
  · rename_i hy
    rw [Assoc.find?_modify, if_neg hy, Assoc.find?_modify]
    split
    · rename_i hpeer
      rw [← hpeer, Assoc.find?_insert, if_neg hy]
    · rw [Assoc.find?_insert, if_neg hy]

/-- Nothing is left of a new stream once both its sides are dropped. -/
theorem drop_dialed {g : InProcessHost} (hstreams : g.streams = h.dialed)
    (hslots : g.slots = h.dialedSlots) :
    ∃ slots streams, (g.dropStream (h.nextId + 1)).dropStream h.nextId = { g with slots, streams } ∧
      slots.held = h.slots.held ∧ ∀ y, streams.find? y =
        if y = h.nextId + 1 ∨ y = h.nextId then none else h.streams.find? y := by
  have hfar : g.streams.find? (h.nextId + 1) =
      some { slot := h.slots.insert.2.insert.1, peer := h.nextId } := by
    rw [hstreams, find?_dialed, if_pos rfl]
  obtain ⟨withoutFar, hdropFar, hfindFar⟩ := dropStream_of_open hfar rfl
  have hnear : withoutFar.find? h.nextId =
      some { slot := h.slots.insert.1, peer := h.nextId + 1, queue := [.finish] } := by
    rw [hfindFar, if_neg (by omega), if_pos rfl, hstreams, find?_dialed, if_neg (by omega),
      if_pos rfl]
    rfl
  obtain ⟨without, hdrop, hfind⟩ := dropStream_of_open
    (h := { g with slots := g.slots.remove h.slots.insert.2.insert.1, streams := withoutFar })
    hnear rfl
  refine ⟨(g.slots.remove h.slots.insert.2.insert.1).remove h.slots.insert.1, without, ?_, ?_,
    fun y => ?_⟩
  · rw [hdropFar, hdrop]
  · rw [Slots.remove_held, Slots.remove_held, hslots, dialedSlots, Slots.insert_held,
      List.erase_cons_head, Slots.insert_held, List.erase_cons_head]
  · dsimp only at hfind
    simp only [hfind, hfindFar, hstreams, find?_dialed]
    grind

theorem dialStream_eq_some {own : Option NetAddress} {peer : NetAddress}
    {answer : Except HostFailure ConnectionHandle}
    (hd : h.dialStream own peer = some (answer, h')) :
    (∃ f, answer = .error f ∧ h' = h) ∨
    (∃ b next l, answer = .ok ⟨.tcp, h.nextId, b, peer⟩ ∧
      (own.getD peer.loopback).Settles b ∧ h' = { h with
      nextPort := next
      nextId := h.nextId + 2
      slots := h.dialedSlots
      streams := h.dialed
      listeners := h.listeners.modify l fun l =>
        { l with queue := l.queue ++ [.connection ⟨.tcp, h.nextId + 1, peer, b⟩] } }) ∨
    ∃ next slots streams, answer = .error .connectionRefused ∧ h' = { h with
      nextPort := next
      nextId := h.nextId + 2
      slots
      streams } ∧ slots.held = h.slots.held ∧ ∀ y, streams.find? y =
        if y = h.nextId + 1 ∨ y = h.nextId then none else h.streams.find? y := by
  simp only [dialStream, Option.bind_eq_bind, Option.bind_eq_some_iff] at hd
  obtain ⟨⟨started, g⟩, hstart, hrest⟩ := hd
  rcases startStream?_eq_some hstart with ⟨-, rfl, rfl⟩ | ⟨b, next, l, -, hb, rfl, rfl⟩
  · cases hrest
    exact Or.inl ⟨_, rfl, rfl⟩
  · refine Or.inr ?_
    rcases deliverStream_cases _ _ with ⟨-, hdeliver⟩ | ⟨-, hdeliver⟩
    · cases hdeliver.symm.trans (Option.some.inj hrest)
      exact Or.inl ⟨b, next, l, rfl, hb, rfl⟩
    · obtain ⟨slots, streams, hdrop, hheld, hfind⟩ := drop_dialed (h := h) (g := { h with
        nextPort := next
        nextId := h.nextId + 2
        slots := h.dialedSlots
        streams := h.dialed }) rfl rfl
      cases hdeliver.symm.trans (Option.some.inj hrest)
      exact Or.inr ⟨next, slots, streams, rfl, hdrop, hheld, hfind⟩

/-! ## Streams and listeners -/

theorem takeArrival?_eq_some {id : Nat} {answer : Except HostFailure ConnectionHandle}
    (ht : h.takeArrival? id = some (answer, h')) :
    ∃ l arrival queue, h.listeners.find? id = some l ∧ l.queue = arrival :: queue ∧
      (answer = .error .aborted ∧ arrival = .abort ∨
        ∃ c, answer = .ok c ∧ arrival = .connection c) ∧
      h' = { h with listeners := h.listeners.insert id { l with queue } } := by
  unfold takeArrival? at ht
  split at ht
  · rename_i l hl
    split at ht
    · cases ht
    · rename_i arrival queue hq
      cases arrival with
      | connection c =>
        cases ht
        exact ⟨l, _, queue, hl, hq, Or.inr ⟨c, rfl, rfl⟩, rfl⟩
      | abort =>
        cases ht
        exact ⟨l, _, queue, hl, hq, Or.inl ⟨rfl, rfl⟩, rfl⟩
  · cases ht

theorem readStream?_eq_some {id size : Nat} {answer : Except HostFailure Bytes}
    (hr : h.readStream? id size = some (answer, h')) :
    ∃ s s', h.streams.find? id = some s ∧ Stream.take? s size = some (answer, s') ∧
      h' = { h with streams := h.streams.insert id s' } := by
  simp only [readStream?, Option.bind_eq_bind, Option.bind_eq_some_iff] at hr
  obtain ⟨s, hs, ⟨result, s'⟩, htake, hrest⟩ := hr
  cases hrest
  exact ⟨s, s', hs, htake, rfl⟩

theorem writeStream_cases (h : InProcessHost) (id : Nat) (data : Bytes) :
    (∃ f, h.writeStream id data = (.error f, h)) ∨
    ∃ s, h.streams.find? id = some s ∧ s.closed = false ∧ h.streams.contains s.peer = true ∧
      h.writeStream id data = (.ok data.length, h.pushSegment s.peer (.data data)) := by
  unfold writeStream
  split
  · exact Or.inl ⟨_, rfl⟩
  · rename_i s hs
    split
    · exact Or.inl ⟨_, rfl⟩
    · rename_i hopen
      split
      · rename_i hpeer
        exact Or.inr ⟨s, hs, by simpa using hopen, hpeer, rfl⟩
      · exact Or.inl ⟨_, rfl⟩

theorem writeStream_eq_some {id : Nat} {data : Bytes} {answer : Except HostFailure Nat}
    (hw : some (h.writeStream id data) = some (answer, h')) :
    (∃ f, answer = .error f ∧ h' = h) ∨
    ∃ s, h.streams.find? id = some s ∧ s.closed = false ∧ h.streams.contains s.peer = true ∧
      answer = .ok data.length ∧ h' = h.pushSegment s.peer (.data data) := by
  rcases writeStream_cases h id data with ⟨f, hf⟩ | ⟨s, hs, hopen, hpeer, hok⟩
  · cases hf.symm.trans (Option.some.inj hw)
    exact Or.inl ⟨f, rfl, rfl⟩
  · cases hok.symm.trans (Option.some.inj hw)
    exact Or.inr ⟨s, hs, hopen, hpeer, rfl, rfl⟩

/-! ## Datagram ports -/

theorem openPort_cases (h : InProcessHost) (own : NetAddress) :
    (∃ f, h.openPort own = (.error f, h)) ∨
    h.bound.find? own = none ∧ h.openPort own = (.ok h.nextId, { h with
      nextId := h.nextId + 1
      slots := h.slots.insert.2
      ports := h.ports.insert h.nextId { slot := h.slots.insert.1, own }
      bound := h.bound.insert own h.nextId }) := by
  unfold openPort
  split
  · exact Or.inl ⟨_, rfl⟩
  · rename_i hfree
    exact Or.inr ⟨by simpa [Assoc.contains] using hfree, rfl⟩

theorem bindPort_eq_some {a : NetAddress} {answer : Except HostFailure PortHandle}
    (hb : h.bindPort a = some (answer, h')) :
    (∃ f next, answer = .error f ∧ h' = { h with nextPort := next }) ∨
    ∃ b next, answer = .ok ⟨h.nextId, b⟩ ∧ a.Settles b ∧ h' = { h with
      nextPort := next
      nextId := h.nextId + 1
      slots := h.slots.insert.2
      ports := h.ports.insert h.nextId { slot := h.slots.insert.1, own := b }
      bound := h.bound.insert b h.nextId } ∧ h.bound.find? b = none := by
  simp only [bindPort, Option.bind_eq_bind, Option.bind_eq_some_iff] at hb
  obtain ⟨⟨b, h₁⟩, hsettle, hrest⟩ := hb
  obtain ⟨⟨next, rfl⟩, hown⟩ := settlePort?_eq_some hsettle
  rcases openPort_cases { h with nextPort := next } b with ⟨f, hf⟩ | ⟨hfree, hok⟩
  · rw [hf] at hrest
    cases hrest
    exact Or.inl ⟨f, next, rfl, rfl⟩
  · rw [hok] at hrest
    cases hrest
    exact Or.inr ⟨b, next, rfl, hown, rfl, hfree⟩

theorem dialDatagram_eq_some {own : Option NetAddress} {peer : NetAddress}
    {answer : Except HostFailure ConnectionHandle}
    (hd : h.dialDatagram own peer = some (answer, h')) :
    (∃ f next, answer = .error f ∧ h' = { h with nextPort := next }) ∨
    ∃ b next, answer = .ok ⟨.udp, h.nextId, b, peer⟩ ∧
      (own.getD peer.loopback).Settles b ∧ h' = { h with
      nextPort := next
      nextId := h.nextId + 1
      slots := h.slots.insert.2
      ports := h.ports.insert h.nextId { slot := h.slots.insert.1, own := b }
      bound := h.bound.insert b h.nextId } ∧ h.bound.find? b = none := by
  simp only [dialDatagram, Option.bind_eq_bind, Option.bind_eq_some_iff] at hd
  obtain ⟨⟨b, h₁⟩, hsettle, hrest⟩ := hd
  obtain ⟨⟨next, rfl⟩, hown⟩ := settlePort?_eq_some hsettle
  rcases openPort_cases { h with nextPort := next } b with ⟨f, hf⟩ | ⟨hfree, hok⟩
  · rw [hf] at hrest
    cases hrest
    exact Or.inl ⟨f, next, rfl, rfl⟩
  · rw [hok] at hrest
    cases hrest
    exact Or.inr ⟨b, next, rfl, hown, rfl, hfree⟩

theorem takeDatagram?_eq_some {size : Nat} {only : Option NetAddress} {queue rest : List Packet}
    {answer : Except HostFailure (Bytes × NetAddress)}
    (ht : takeDatagram? only size queue = some (answer, rest)) :
    ∃ front packet, queue = front ++ packet :: rest ∧
      (answer = .error .aborted ∧ packet = .abort ∨
        ∃ sender payload, answer = .ok (payload.take size, sender) ∧
          packet = .datagram sender payload) := by
  induction queue with
  | nil => cases ht
  | cons packet queue ih =>
    cases packet with
    | abort =>
      cases ht
      exact ⟨[], _, rfl, Or.inl ⟨rfl, rfl⟩⟩
    | datagram sender payload =>
      rw [takeDatagram?] at ht
      split at ht
      · obtain ⟨front, packet, rfl, htaken⟩ := ih ht
        exact ⟨_ :: front, packet, rfl, htaken⟩
      · cases ht
        exact ⟨[], _, rfl, Or.inr ⟨sender, payload, rfl, rfl⟩⟩

theorem receiveDatagram?_eq_some {id size : Nat} {only : Option NetAddress}
    {answer : Except HostFailure (Bytes × NetAddress)}
    (hr : h.receiveDatagram? id only size = some (answer, h')) :
    ∃ p queue, h.ports.find? id = some p ∧
      takeDatagram? only size p.queue = some (answer, queue) ∧
      h' = { h with ports := h.ports.insert id { p with queue } } := by
  simp only [receiveDatagram?, Option.bind_eq_bind, Option.bind_eq_some_iff] at hr
  obtain ⟨p, hp, ⟨result, queue⟩, htake, hrest⟩ := hr
  cases hrest
  exact ⟨p, queue, hp, htake, rfl⟩

theorem sendDatagram_cases (h : InProcessHost) (id : Nat) (data : Bytes) (target : NetAddress) :
    (∃ answer, h.sendDatagram id data target = (answer, h)) ∨
    ∃ taker sender, h.sendDatagram id data target =
      (.ok data.length, h.pushPacket taker (.datagram sender data)) := by
  unfold sendDatagram
  split
  · exact Or.inl ⟨_, rfl⟩
  · rename_i p hp
    split
    · exact Or.inl ⟨_, rfl⟩
    · split
      · rename_i taker _
        exact Or.inr ⟨taker, p.own.routable, rfl⟩
      · exact Or.inl ⟨_, rfl⟩

theorem sendDatagram_eq_some {id : Nat} {data : Bytes} {target : NetAddress}
    {answer : Except HostFailure Nat}
    (hs : some (h.sendDatagram id data target) = some (answer, h')) :
    h' = h ∨ ∃ taker sender, answer = .ok data.length ∧
      h' = h.pushPacket taker (.datagram sender data) := by
  rcases sendDatagram_cases h id data target with ⟨answer, hok⟩ | ⟨taker, sender, hok⟩
  · cases hok.symm.trans (Option.some.inj hs)
    exact Or.inl rfl
  · cases hok.symm.trans (Option.some.inj hs)
    exact Or.inr ⟨taker, sender, rfl, rfl⟩

/-! ## Message channels -/

theorem sendMessage_cases (h : InProcessHost) (id : Nat) (m : Message) :
    (∃ f, h.sendMessage id m = (.error f, h)) ∨
    ∃ c, h.channels.find? id = some c ∧ c.closed = false ∧
      h.sendMessage id m = (.ok (), h.pushFrame c.peer (.message m)) := by
  unfold sendMessage
  split
  · exact Or.inl ⟨_, rfl⟩
  · rename_i c hc
    split
    · exact Or.inl ⟨_, rfl⟩
    · rename_i hopen
      split
      · exact Or.inr ⟨c, hc, by simpa using hopen, rfl⟩
      · exact Or.inl ⟨_, rfl⟩

theorem sendMessage_eq_some {id : Nat} {m : Message} {answer : Except HostFailure Unit}
    (hs : some (h.sendMessage id m) = some (answer, h')) :
    (∃ f, answer = .error f ∧ h' = h) ∨
    ∃ c, h.channels.find? id = some c ∧ c.closed = false ∧ answer = .ok () ∧
      h' = h.pushFrame c.peer (.message m) := by
  rcases sendMessage_cases h id m with ⟨f, hf⟩ | ⟨c, hc, hopen, hok⟩
  · cases hf.symm.trans (Option.some.inj hs)
    exact Or.inl ⟨f, rfl, rfl⟩
  · cases hok.symm.trans (Option.some.inj hs)
    exact Or.inr ⟨c, hc, hopen, rfl, rfl⟩

theorem receiveMessage?_eq_some {id : Nat} {answer : Except HostFailure Message}
    (hr : h.receiveMessage? id = some (answer, h')) :
    ∃ c frame queue, h.channels.find? id = some c ∧ c.queue = frame :: queue ∧
      (answer = .error .aborted ∧ frame = .abort ∨
        answer = .error .connectionClosed ∧ frame = .finish ∨
        ∃ m, answer = .ok m ∧ frame = .message m) ∧
      h' = { h with channels := h.channels.insert id { c with queue } } := by
  unfold receiveMessage? at hr
  split at hr
  · rename_i c hc
    split at hr
    · cases hr
    · rename_i frame queue hq
      cases frame with
      | message m =>
        cases hr
        exact ⟨c, _, queue, hc, hq, Or.inr (Or.inr ⟨m, rfl, rfl⟩), rfl⟩
      | finish =>
        cases hr
        exact ⟨c, _, queue, hc, hq, Or.inr (Or.inl ⟨rfl, rfl⟩), rfl⟩
      | abort =>
        cases hr
        exact ⟨c, _, queue, hc, hq, Or.inl ⟨rfl, rfl⟩, rfl⟩
  · cases hr

theorem serve_cases (h : InProcessHost) (url : String) :
    h.serve url = (.error .addressInUse, h) ∨
    h.serving.find? url = none ∧ h.serve url = (.ok h.nextId, { h with
      nextId := h.nextId + 1
      servers := h.servers.insert h.nextId { url }
      serving := h.serving.insert url h.nextId }) := by
  unfold serve
  split
  · exact Or.inl rfl
  · rename_i hfree
    exact Or.inr ⟨by simpa [Assoc.contains] using hfree, rfl⟩

theorem takeChannel?_eq_some {server : Nat} {answer : Except HostFailure ChannelHandle}
    (ht : h.takeChannel? server = some (answer, h')) :
    ∃ s c queue, h.servers.find? server = some s ∧ s.queue = c :: queue ∧ answer = .ok c ∧
      h' = { h with servers := h.servers.insert server { s with queue } } := by
  unfold takeChannel? at ht
  split at ht
  · rename_i s hs
    split at ht
    · cases ht
    · rename_i c queue hq
      cases ht
      exact ⟨s, c, queue, hs, hq, rfl, rfl⟩
  · cases ht

/-- The channels with both sides of a new one. -/
def dialedChannels (h : InProcessHost) : Assoc Nat Channel :=
  (h.channels.insert h.nextId { slot := h.slots.insert.1, peer := h.nextId + 1 }).insert
    (h.nextId + 1) { slot := h.slots.insert.2.insert.1, peer := h.nextId }

theorem find?_dialedChannels (h : InProcessHost) (x : Nat) :
    h.dialedChannels.find? x =
      if x = h.nextId + 1 then some { slot := h.slots.insert.2.insert.1, peer := h.nextId }
      else if x = h.nextId then some { slot := h.slots.insert.1, peer := h.nextId + 1 }
      else h.channels.find? x := by
  rw [dialedChannels, Assoc.find?_insert, Assoc.find?_insert]

theorem startChannel_cases (h : InProcessHost) (url : String) :
    (h.serving.find? url = none ∧ h.startChannel url = (.error .connectionRefused, h)) ∨
    ∃ server, h.serving.find? url = some server ∧ h.startChannel url =
      (.ok ⟨server, ⟨h.nextId, url⟩, ⟨h.nextId + 1, url⟩⟩, { h with
        nextId := h.nextId + 2
        slots := h.dialedSlots
        channels := h.dialedChannels }) := by
  unfold startChannel
  split
  · rename_i hnone
    exact Or.inl ⟨hnone, rfl⟩
  · rename_i server hserver
    exact Or.inr ⟨server, hserver, rfl⟩

theorem deliverChannel_cases (h : InProcessHost) (d : ChannelDial) :
    (h.servers.contains d.server = true ∧ h.deliverChannel d = (.ok d.near, { h with
      servers := h.servers.modify d.server fun s => { s with queue := s.queue ++ [d.far] } })) ∨
    h.servers.contains d.server = false ∧ h.deliverChannel d =
      (.error .connectionRefused, (h.dropChannel d.far.id).dropChannel d.near.id) := by
  unfold deliverChannel
  split
  · rename_i hthere
    exact Or.inl ⟨hthere, rfl⟩
  · rename_i hgone
    exact Or.inr ⟨Bool.of_not_eq_true hgone, rfl⟩

theorem dropChannel_of_open {id : Nat} {c : Channel} (hc : h.channels.find? id = some c)
    (hopen : c.closed = false) : ∃ channels, h.dropChannel id = { h with
      slots := h.slots.remove c.slot
      channels } ∧ ∀ y, channels.find? y = if y = id then none
        else if y = c.peer then
          (h.channels.find? y).map fun t => { t with queue := t.queue ++ [.finish] }
        else h.channels.find? y := by
  refine ⟨_, by simp [dropChannel, closeChannel, hc, hopen, release, pushFrame]; rfl, fun y => ?_⟩
  rw [Assoc.find?_erase]
  split
  · rfl
  · rename_i hy
    rw [Assoc.find?_modify, if_neg hy, Assoc.find?_modify]
    split
    · rename_i hpeer
      rw [← hpeer, Assoc.find?_insert, if_neg hy]
    · rw [Assoc.find?_insert, if_neg hy]

/-- Nothing is left of a new channel once both its sides are dropped. -/
theorem drop_dialedChannels {g : InProcessHost} (hchannels : g.channels = h.dialedChannels)
    (hslots : g.slots = h.dialedSlots) :
    ∃ slots channels, (g.dropChannel (h.nextId + 1)).dropChannel h.nextId =
        { g with slots, channels } ∧
      slots.held = h.slots.held ∧ ∀ y, channels.find? y =
        if y = h.nextId + 1 ∨ y = h.nextId then none else h.channels.find? y := by
  have hfar : g.channels.find? (h.nextId + 1) =
      some { slot := h.slots.insert.2.insert.1, peer := h.nextId } := by
    rw [hchannels, find?_dialedChannels, if_pos rfl]
  obtain ⟨withoutFar, hdropFar, hfindFar⟩ := dropChannel_of_open hfar rfl
  have hnear : withoutFar.find? h.nextId =
      some { slot := h.slots.insert.1, peer := h.nextId + 1, queue := [.finish] } := by
    rw [hfindFar, if_neg (by omega), if_pos rfl, hchannels, find?_dialedChannels,
      if_neg (by omega), if_pos rfl]
    rfl
  obtain ⟨without, hdrop, hfind⟩ := dropChannel_of_open
    (h := { g with slots := g.slots.remove h.slots.insert.2.insert.1, channels := withoutFar })
    hnear rfl
  refine ⟨(g.slots.remove h.slots.insert.2.insert.1).remove h.slots.insert.1, without, ?_, ?_,
    fun y => ?_⟩
  · rw [hdropFar, hdrop]
  · rw [Slots.remove_held, Slots.remove_held, hslots, dialedSlots, Slots.insert_held,
      List.erase_cons_head, Slots.insert_held, List.erase_cons_head]
  · dsimp only at hfind
    simp only [hfind, hfindFar, hchannels, find?_dialedChannels]
    grind

theorem dialChannel_eq_some {url : String} {answer : Except HostFailure ChannelHandle}
    (hd : some (h.dialChannel url) = some (answer, h')) :
    (∃ f, answer = .error f ∧ h' = h) ∨
    (∃ server, answer = .ok ⟨h.nextId, url⟩ ∧ h' = { h with
      nextId := h.nextId + 2
      slots := h.dialedSlots
      channels := h.dialedChannels
      servers := h.servers.modify server fun s =>
        { s with queue := s.queue ++ [⟨h.nextId + 1, url⟩] } }) ∨
    ∃ slots channels, answer = .error .connectionRefused ∧ h' = { h with
      nextId := h.nextId + 2
      slots
      channels } ∧ slots.held = h.slots.held ∧ ∀ y, channels.find? y =
        if y = h.nextId + 1 ∨ y = h.nextId then none else h.channels.find? y := by
  have hresult : h.dialChannel url = (answer, h') := Option.some.inj hd
  unfold dialChannel at hresult
  rcases startChannel_cases h url with ⟨-, hstart⟩ | ⟨server, -, hstart⟩
  · rw [hstart] at hresult
    cases hresult
    exact Or.inl ⟨_, rfl, rfl⟩
  · rw [hstart] at hresult
    refine Or.inr ?_
    rcases deliverChannel_cases _ _ with ⟨-, hdeliver⟩ | ⟨-, hdeliver⟩
    · cases hdeliver.symm.trans hresult
      exact Or.inl ⟨server, rfl, rfl⟩
    · obtain ⟨slots, channels, hdrop, hheld, hfind⟩ := drop_dialedChannels (h := h) (g := { h with
        nextId := h.nextId + 2
        slots := h.dialedSlots
        channels := h.dialedChannels }) rfl rfl
      cases hdeliver.symm.trans hresult
      exact Or.inr ⟨slots, channels, rfl, hdrop, hheld, hfind⟩

end InProcessHost

end SyscallBridge
