import SyscallBridge.Proofs.Host.ClosedResources
import SyscallBridge.Proofs.Host.Ports

/-!
# Replies to datagrams

Who receives a datagram sees an address to reply to. What is sent there comes back to the port that
the datagram came from, unless that port is at the wildcard and another one at the loopback address
with its number. A connected port then gives it to its reader only if it shows the very address that
the port is connected to.
-/

namespace SyscallBridge

open InProcess

namespace InProcess

/-- What a packet is to a reader, who may listen to one sender only. -/
def Packet.heard? (only : Option NetAddress) : Packet → Option (Bytes × NetAddress)
  | .datagram sender payload => if only.any (· ≠ sender) then none else some (payload, sender)
  | .abort => none

end InProcess

/-- A request that takes from port `id` for a reader who listens to `only`. -/
def Request.HearsAt (id : Nat) (only : Option NetAddress) : Request → Prop
  | .receiveFrom p _ => p.id = id ∧ only = none
  | .read c _ => c.resource = .port id ∧ only = some c.peer
  | _ => False

namespace InProcessHost

variable {h h' : InProcessHost} {id : Nat} {own : NetAddress} {only : Option NetAddress}

/-- The datagrams that a port still has for its reader, with their senders. -/
def heard (h : InProcessHost) (id : Nat) (only : Option NetAddress) : List (Bytes × NetAddress) :=
  (h.packets id).filterMap (Packet.heard? only)

/-! ### What a reader is given -/

theorem takeDatagram?_of_nothing {queue : List Packet} (hq : .abort ∉ queue)
    (hnothing : queue.filterMap (Packet.heard? only) = []) (size : Nat) :
    takeDatagram? only size queue = none := by
  induction queue with
  | nil => rfl
  | cons packet queue ih =>
    have hrest : .abort ∉ queue := fun hmem => hq (List.mem_cons_of_mem _ hmem)
    cases packet with
    | abort => exact absurd List.mem_cons_self hq
    | datagram sender payload =>
      rw [List.filterMap_cons, Packet.heard?] at hnothing
      rw [takeDatagram?]
      split
      · rename_i hother
        rw [if_pos hother] at hnothing
        exact ih hrest hnothing
      · rename_i hsame
        rw [if_neg hsame] at hnothing
        cases hnothing

theorem takeDatagram?_of_first {queue : List Packet} (hq : .abort ∉ queue) {payload : Bytes}
    {sender : NetAddress} {rest : List (Bytes × NetAddress)}
    (hfirst : queue.filterMap (Packet.heard? only) = (payload, sender) :: rest) (size : Nat) :
    ∃ queue', takeDatagram? only size queue = some (.ok (payload.take size, sender), queue') ∧
      queue'.filterMap (Packet.heard? only) = rest := by
  induction queue with
  | nil => cases hfirst
  | cons packet queue ih =>
    have hrest : .abort ∉ queue := fun hmem => hq (List.mem_cons_of_mem _ hmem)
    cases packet with
    | abort => exact absurd List.mem_cons_self hq
    | datagram other bytes =>
      rw [List.filterMap_cons, Packet.heard?] at hfirst
      rw [takeDatagram?]
      split
      · rename_i hother
        rw [if_pos hother] at hfirst
        exact ih hrest hfirst
      · rename_i hsame
        rw [if_neg hsame] at hfirst
        cases hfirst
        exact ⟨queue, rfl, rfl⟩

/-- An open port has no mark of a closing in its queue. -/
theorem Marked.no_abort (hm : h.Marked) (ho : h.OpenAt id own) : .abort ∉ h.packets id := by
  obtain ⟨p, hp, hopen, -⟩ := ho
  intro hmem
  rw [packets_of_find? hp] at hmem
  have hinbox : h.inbox? (.port id) = some p.inbox := congrArg (Option.map Port.inbox) hp
  have hclosed := hm.closed _ _ hinbox (List.count_pos_iff.2 hmem)
  rw [Port.inbox, hopen] at hclosed
  cases hclosed

theorem receiveDatagram?_eq {p : Port} (hp : h.ports.find? id = some p) (size : Nat) :
    h.receiveDatagram? id only size = (takeDatagram? only size p.queue).map fun taken =>
      (taken.1, { h with ports := h.ports.insert id { p with queue := taken.2 } }) := by
  simp only [receiveDatagram?, hp, Option.bind_eq_bind, Option.bind_some]
  cases takeDatagram? only size p.queue <;> rfl

theorem OpenAt.receive_nothing (ho : h.OpenAt id own) (hm : h.Marked)
    (hnothing : h.heard id only = []) (size : Nat) : h.receiveDatagram? id only size = none := by
  have hq := hm.no_abort ho
  obtain ⟨p, hp, -⟩ := ho
  rw [heard] at hnothing
  rw [packets_of_find? hp] at hq hnothing
  rw [receiveDatagram?_eq hp, takeDatagram?_of_nothing hq hnothing, Option.map_none]

theorem OpenAt.receive_first (ho : h.OpenAt id own) (hm : h.Marked) {payload : Bytes}
    {sender : NetAddress} {rest : List (Bytes × NetAddress)}
    (hfirst : h.heard id only = (payload, sender) :: rest) (size : Nat) :
    ∃ h', h.receiveDatagram? id only size = some (.ok (payload.take size, sender), h') ∧
      h'.heard id only = rest := by
  have hq := hm.no_abort ho
  obtain ⟨p, hp, -⟩ := ho
  rw [heard] at hfirst
  rw [packets_of_find? hp] at hq hfirst
  obtain ⟨queue', htake, hrest⟩ := takeDatagram?_of_first hq hfirst size
  refine ⟨_, by rw [receiveDatagram?_eq hp, htake]; rfl, ?_⟩
  have hp' : (h.ports.insert id { p with queue := queue' }).find? id =
      some { p with queue := queue' } := by
    rw [Assoc.find?_insert, if_pos rfl]
  rw [heard, packets_of_find? hp', hrest]

/-- Both kinds of requests come to the same datagram, of which a read gives the bytes only. -/
theorem poll?_of_hearsAt {q : Request} (hq : q.HearsAt id only) :
    ∃ size, (h.receiveDatagram? id only size = none → h.poll? q = none) ∧
      ∀ got h', h.receiveDatagram? id only size = some (got, h') →
        ∃ answer, h.poll? q = some (answer, h') := by
  cases q with
  | receiveFrom p size =>
    obtain ⟨rfl, rfl⟩ := hq
    exact ⟨size, id, fun got h' hgot => ⟨got, hgot⟩⟩
  | read c size =>
    obtain ⟨protocol, n, near, peer⟩ := c
    cases protocol with
    | tcp => cases hq.1
    | udp =>
      obtain ⟨hid, rfl⟩ := hq
      cases hid
      refine ⟨size, fun hnone => ?_, fun got h' hgot => ⟨got.map Prod.fst, ?_⟩⟩
      · change (h.receiveDatagram? n (some peer) size).map _ = none
        rw [hnone]
        rfl
      · change (h.receiveDatagram? n (some peer) size).map _ = _
        rw [hgot]
        rfl
  | resolve | listen | dial | bindPort | dialChannel | accept | write | sendTo | sendMessage
  | receiveMessage | acceptChannel => cases hq

/-! ### First come, first served -/

/-- How many datagrams an act takes from a port for its reader. -/
def takings (h : InProcessHost) (id : Nat) : HostAct → Nat
  | .request q => if q.waits? = some (.port id) ∧ (h.poll? q).isSome then 1 else 0
  | _ => 0

def receipts (h : InProcessHost) (id : Nat) : List HostAct → Nat
  | [] => 0
  | a :: rest => h.takings id a + receipts (h.act a) id rest

/-- Nobody else takes from the port. -/
def OnlyReader (id : Nat) (only : Option NetAddress) (l : List HostAct) : Prop :=
  ∀ q, .request q ∈ l → q.waits? = some (.port id) → q.HearsAt id only

theorem takings_of_not_waits {a : HostAct} (ha : a.waits? ≠ some (.port id)) :
    h.takings id a = 0 := by
  cases a with
  | request q => exact if_neg fun hboth => ha hboth.1
  | _ => rfl

/-- What the reader of an open port was to be given and what came is what it has been given and
what it is to be given now, in this order. -/
theorem OpenAt.heard_act (hm : h.Marked) {a : HostAct} (hid : id < h.nextId)
    (ho : (h.act a).OpenAt id own) (hreader : OnlyReader id only [a]) :
    ∃ given more, given.length = h.takings id a ∧
      h.heard id only ++ more = given ++ (h.act a).heard id only := by
  have hbefore := openAt_before_act a hid ho
  by_cases ha : a.waits? = some (.port id)
  · cases a with
    | request q =>
      have hhears := hreader q (List.mem_singleton.2 rfl) ha
      obtain ⟨size, hnothing, hfirst⟩ := poll?_of_hearsAt (h := h) hhears
      cases hheard : h.heard id only with
      | nil =>
        have hp := hnothing (hbefore.receive_nothing hm hheard size)
        have hact : h.act (.request q) = h := act_request_of_none hp
        refine ⟨[], [], by simp [takings, hp], ?_⟩
        rw [hact, hheard]
      | cons first rest =>
        obtain ⟨h', hreceive, hrest⟩ := hbefore.receive_first hm hheard size
        obtain ⟨answer, hp⟩ := hfirst _ _ hreceive
        have hwaits : q.waits? = some (.port id) := ha
        refine ⟨[first], [], by simp [takings, hp, hwaits], ?_⟩
        rw [act_request hp, hrest, List.append_nil]
        rfl
    | _ => cases ha
  · -- nobody is served, and what is put into the queue comes in behind
    obtain ⟨more, hmore⟩ := packets_act hid ho ha
    refine ⟨[], more.filterMap (Packet.heard? only), (takings_of_not_waits ha).symm, ?_⟩
    rw [heard, heard, hmore, List.filterMap_append, List.nil_append]

theorem OpenAt.heard_acts (hm : h.Marked) {l : List HostAct} (hid : id < h.nextId)
    (ho : (h.acts l).OpenAt id own) (hreader : OnlyReader id only l) :
    ∃ given more, given.length = h.receipts id l ∧
      h.heard id only ++ more = given ++ (h.acts l).heard id only := by
  induction l generalizing h with
  | nil => exact ⟨[], [], rfl, List.append_nil _⟩
  | cons a l ih =>
    have hnext : id < (h.act a).nextId := Nat.lt_of_lt_of_le hid (spares_act h a).nextId
    have hfirst : OnlyReader id only [a] := fun q hq =>
      hreader q (List.mem_singleton.1 hq ▸ List.mem_cons_self)
    have hrest : OnlyReader id only l := fun q hq => hreader q (List.mem_cons_of_mem a hq)
    obtain ⟨given, more, hlen, heq⟩ :=
      OpenAt.heard_act hm hid (openAt_before_acts l hnext ho) hfirst
    obtain ⟨given', more', hlen', heq'⟩ := ih (hm.act a) hnext ho hrest
    refine ⟨given ++ given', more ++ more', ?_, ?_⟩
    · rw [List.length_append, hlen, hlen', receipts]
    · rw [← List.append_assoc, heq, List.append_assoc, heq', List.append_assoc]
      rfl

/-- A datagram is the next one when the reader has been given as many as stood in front of it. -/
theorem OpenAt.next_heard (hm : h.Marked) {l : List HostAct} (hid : id < h.nextId)
    (ho : (h.acts l).OpenAt id own) (hreader : OnlyReader id only l)
    {front : List (Bytes × NetAddress)} {datagram : Bytes × NetAddress}
    (hqueue : h.heard id only = front ++ [datagram])
    (hcount : h.receipts id l = front.length) :
    ∃ rest, (h.acts l).heard id only = datagram :: rest := by
  obtain ⟨given, more, hlen, heq⟩ := OpenAt.heard_acts hm hid ho hreader
  rw [hqueue, List.append_assoc] at heq
  obtain ⟨-, hrest⟩ := List.append_inj heq (by omega)
  exact ⟨more, hrest.symm⟩

/-! ### There and back -/

theorem routable_of_ne {a : NetAddress} (ha : a.ip ≠ a.ip.unspecified) : a.routable = a :=
  if_neg ha

theorem routable_of_wildcard {a : NetAddress} (ha : a.ip = a.ip.unspecified) :
    a.routable.unspecified = a ∧ a.routable ≠ a := by
  obtain ⟨ip, port⟩ := a
  have ha : ip = ip.unspecified := ha
  rw [NetAddress.routable, if_pos ha]
  refine ⟨?_, fun heq => ?_⟩
  · cases ip <;> rw [ha] <;> rfl
  · have hip : ip.loopback = ip := congrArg NetAddress.ip heq
    rw [ha] at hip
    cases ip <;> cases hip

/-- What is sent to the address that an open port shows comes to that port, unless the port is at
the wildcard and another one at the address that it shows. -/
theorem Registered.portFor?_routable (hr : h.Registered) (ho : h.OpenAt id own)
    (hfree : own.ip ≠ own.ip.unspecified ∨ h.bound.find? own.routable = none) :
    h.portFor? own.routable = some id := by
  have hbound := (hr.bound_iff own id).2 ho
  by_cases hwild : own.ip = own.ip.unspecified
  · have hnone := hfree.resolve_left fun hne => hne hwild
    rw [portFor?, hnone, (routable_of_wildcard hwild).1, hbound]
    rfl
  · rw [portFor?, routable_of_ne hwild, hbound]
    rfl

theorem OpenAt.sendDatagram_eq (ho : h.OpenAt id own) {target : NetAddress} {taker : Nat}
    (htaker : h.portFor? target = some taker) (data : Bytes) :
    h.sendDatagram id data target =
      (.ok data.length, h.pushPacket taker (.datagram own.routable data)) := by
  obtain ⟨p, hp, hopen, rfl⟩ := ho
  simp [sendDatagram, hp, hopen, htaker]

theorem OpenAt.packets_push (ho : h.OpenAt id own) (packet : Packet) :
    (h.pushPacket id packet).packets id = h.packets id ++ [packet] := by
  obtain ⟨p, hp, -⟩ := ho
  rw [packets_pushPacket, if_pos ⟨rfl, by rw [hp]; rfl⟩]

/-- A port at the wildcard does not get what is sent to the address that it shows, if another one is
at that address. -/
theorem Registered.packets_push_shown (hr : h.Registered) (ho : h.OpenAt id own)
    (hwild : own.ip = own.ip.unspecified) {other : Nat}
    (hother : h.bound.find? own.routable = some other) (packet : Packet) :
    other ≠ id ∧ (h.pushPacket other packet).packets id = h.packets id ∧
      (h.pushPacket other packet).packets other = h.packets other ++ [packet] := by
  have hopen := (hr.bound_iff _ _).1 hother
  have hne : other ≠ id := by
    intro heq
    exact (routable_of_wildcard hwild).2 ((heq ▸ hopen).unique ho)
  refine ⟨hne, ?_, hopen.packets_push packet⟩
  rw [packets_pushPacket, if_neg fun hboth => hne hboth.1.symm]

theorem OpenAt.heard_push (ho : h.OpenAt id own) (packet : Packet) :
    (h.pushPacket id packet).heard id only =
      h.heard id only ++ (packet.heard? only).toList := by
  rw [heard, ho.packets_push, List.filterMap_append, heard, List.filterMap_cons]
  cases packet.heard? only <;> rfl

theorem heard?_of_eq {sender : NetAddress} (hsame : only.any (· ≠ sender) = false)
    (payload : Bytes) : (Packet.datagram sender payload).heard? only = some (payload, sender) := by
  rw [Packet.heard?, hsame]
  rfl

theorem heard?_of_ne {sender peer : NetAddress} (hne : peer ≠ sender) (payload : Bytes) :
    (Packet.datagram sender payload).heard? (some peer) = none := by
  simp [Packet.heard?, hne]

/-- The port that takes what is sent to an address is open, and at that address or at the wildcard
of its port. -/
theorem Registered.openAt_of_portFor? (hr : h.Registered) {target : NetAddress}
    (htaker : h.portFor? target = some id) :
    ∃ own, (own = target ∨ own = target.unspecified) ∧ h.OpenAt id own := by
  rw [portFor?] at htaker
  cases hb : h.bound.find? target with
  | some taker =>
    rw [hb] at htaker
    cases htaker
    exact ⟨target, Or.inl rfl, (hr.bound_iff _ _).1 hb⟩
  | none =>
    rw [hb] at htaker
    exact ⟨target.unspecified, Or.inr rfl, (hr.bound_iff _ _).1 htaker⟩

/-- What `c` writes is put into the queue of port `s`, and after the acts `l`, in which all that
stood in front of it is received, it is what `s` receives. -/
structure Receives (h : InProcessHost) (c : ConnectionHandle) (data : Bytes) (s : PortHandle)
    (l : List HostAct) (size : Nat) (got : Bytes × NetAddress) (h' : InProcessHost) : Prop where
  udp : c.protocol = .udp
  target : h.portFor? c.peer = some s.id
  reader : OnlyReader s.id none l
  turn : (h.act (.request (.write c data))).receipts s.id l = (h.heard s.id none).length
  receives : ((h.act (.request (.write c data))).acts l).poll? (.receiveFrom s size) =
    some (.ok got, h')

section Replies

variable {c : ConnectionHandle} {s : PortHandle} {data bytes : Bytes} {l l' : List HostAct}
  {size : Nat} {got : Bytes × NetAddress} {cOwn sOwn sender : NetAddress}

theorem act_write (hudp : c.protocol = .udp) (hc : h.OpenAt c.id cOwn) {taker : Nat}
    (htaker : h.portFor? c.peer = some taker) :
    h.act (.request (.write c data)) = h.pushPacket taker (.datagram cOwn.routable data) := by
  obtain ⟨protocol, id, near, peer⟩ := c
  cases hudp
  change (h.sendDatagram id data peer).2 = _
  rw [hc.sendDatagram_eq htaker]

/-- The receiver was open all along, at the address that the datagram was sent to or at the
wildcard, and the datagram comes from the address that the writer shows. -/
theorem Receives.received (hreceives : Receives h c data s l size got h') (hr : h.Registered)
    (hm : h.Marked) (hc : h.OpenAt c.id cOwn) (hs : h'.OpenAt s.id sOwn) :
    (sOwn = c.peer ∨ sOwn = c.peer.unspecified) ∧ got = (data.take size, cOwn.routable) := by
  obtain ⟨hudp, htarget, hreader, hturn, hpoll⟩ := hreceives
  obtain ⟨own, hplace, hopen⟩ := hr.openAt_of_portFor? htarget
  have hlt := hr.openAt_lt hopen
  have hwrite : h.act (.request (.write c data)) = _ := act_write hudp hc htarget
  have hlt' : s.id < (h.act (.request (.write c data))).nextId :=
    Nat.lt_of_lt_of_le hlt (spares_act h _).nextId
  have hlt'' := Nat.lt_of_lt_of_le hlt' (nextId_le_acts (h.act (.request (.write c data))) l)
  have hs' : ((h.act (.request (.write c data))).acts l).OpenAt s.id sOwn := by
    rw [← act_request hpoll] at hs
    exact openAt_before_act _ hlt'' hs
  have hown : sOwn = own :=
    (openAt_before_act _ hlt (openAt_before_acts l hlt' hs')).unique hopen
  refine ⟨hown ▸ hplace, ?_⟩
  have hqueue : (h.act (.request (.write c data))).heard s.id none =
      h.heard s.id none ++ [(data, cOwn.routable)] := by
    rw [hwrite, hopen.heard_push]
    rfl
  obtain ⟨rest, hnext⟩ := OpenAt.next_heard (hm.act _) hlt' hs' hreader hqueue hturn
  obtain ⟨after, hgiven, -⟩ := hs'.receive_first ((hm.act _).acts l) hnext size
  have hpoll : ((h.act (.request (.write c data))).acts l).receiveDatagram? s.id none size =
    some (.ok got, h') := hpoll
  cases hgiven.symm.trans hpoll
  rfl

theorem OpenAt.answer?_read (hm : h.Marked) (hudp : c.protocol = .udp) (hc : h.OpenAt c.id cOwn)
    {rest : List (Bytes × NetAddress)}
    (hfirst : h.heard c.id (some c.peer) = (bytes, sender) :: rest) (size : Nat) :
    ∃ g, h.answer? (.read c size) = some (.ok (bytes.take size), g) := by
  obtain ⟨g, hgot, -⟩ := hc.receive_first hm hfirst size
  obtain ⟨p, hp, hopen, -⟩ := hc
  obtain ⟨protocol, id, near, peer⟩ := c
  cases hudp
  have hrefuses : h.refuses (.read ⟨.udp, id, near, peer⟩ size) = false := by
    rw [refuses_eq rfl]
    simp [isClosed, ConnectionHandle.resource, hp, hopen]
  refine ⟨g, ?_⟩
  rw [InProcessHost.answer?, hrefuses]
  change (h.receiveDatagram? id (some peer) size).map _ = _
  rw [hgot]
  rfl

/-- A reply in the queue of a connected port is passed over, unless it comes from the address that
the port is connected to. Then it is read when its turn has come. -/
theorem OpenAt.reply_read (hm : h.Marked) (hudp : c.protocol = .udp) (hlt : c.id < h.nextId)
    (hc : h.OpenAt c.id cOwn) (reply : Bytes) :
    let g := h.pushPacket c.id (.datagram sender reply)
    (c.peer ≠ sender → g.heard c.id (some c.peer) = h.heard c.id (some c.peer)) ∧
    (c.peer = sender → ∀ l', OnlyReader c.id (some c.peer) l' → (g.acts l').OpenAt c.id cOwn →
      g.receipts c.id l' = (h.heard c.id (some c.peer)).length → ∀ size', ∃ g',
        (g.acts l').answer? (.read c size') = some (.ok (reply.take size'), g')) := by
  intro g
  refine ⟨fun hne => ?_, fun heq l' hreader hopen hturn size' => ?_⟩
  · rw [hc.heard_push, heard?_of_ne hne]
    exact List.append_nil _
  · have hqueue : g.heard c.id (some c.peer) = h.heard c.id (some c.peer) ++ [(reply, sender)] := by
      rw [hc.heard_push, heard?_of_eq (by simp [heq])]
      rfl
    have hmarked : g.Marked :=
      hm.keeps (keepsInboxes_of_eq (Nat.le_refl _) (inbox?_pushDatagram h c.id sender reply))
    obtain ⟨rest, hnext⟩ := OpenAt.next_heard hmarked hlt hopen hreader hqueue hturn
    exact hopen.answer?_read (hmarked.acts l') hudp hnext size'

/-- On a host that anything has been done to, port `s` receives what `c` writes. Then anything is
done to the host, both ports stay open, and `s` sends a reply to the sender that it was told. That
sender is the address that `c` shows, and `s` is at the address that `c` is connected to or at its
wildcard. The reply is queued at `c`, unless `c` is at the wildcard and another port is at the
loopback address with the number of `c`; that port gets it then. In the queue of `c` the reply is
read when all that `c` was to read before has been read, if it comes from the address that `c` is
connected to, and it is passed over if it comes from another one. -/
theorem reply_comes_back (earlier : List HostAct) (hc : (acts {} earlier).OpenAt c.id cOwn)
    (hreceives : Receives (acts {} earlier) c data s l size (bytes, sender) h')
    (hcopen : (h'.acts l').OpenAt c.id cOwn) (hsopen : (h'.acts l').OpenAt s.id sOwn)
    (reply : Bytes) :
    let before := h'.acts l'
    (bytes = data.take size ∧ sender = cOwn.routable) ∧
    (sOwn = c.peer ∨ sOwn = c.peer.unspecified) ∧
    ∃ after, before.poll? (.sendTo s reply sender) = some (.ok reply.length, after) ∧
      (cOwn.ip = cOwn.ip.unspecified → ∀ other, before.bound.find? sender = some other →
        other ≠ c.id ∧ after.packets c.id = before.packets c.id ∧
        after.packets other = before.packets other ++ [.datagram sOwn.routable reply]) ∧
      (cOwn.ip ≠ cOwn.ip.unspecified ∨ before.bound.find? sender = none →
        after.packets c.id = before.packets c.id ++ [.datagram sOwn.routable reply] ∧
        (c.peer ≠ sOwn.routable →
          after.heard c.id (some c.peer) = before.heard c.id (some c.peer)) ∧
        (c.peer = sOwn.routable → ∀ l'', OnlyReader c.id (some c.peer) l'' →
          (after.acts l'').OpenAt c.id cOwn →
          after.receipts c.id l'' = (before.heard c.id (some c.peer)).length →
          ∀ size', ∃ g, (after.acts l'').answer? (.read c size') =
            some (.ok (reply.take size'), g))) := by
  intro before
  have hstart : (acts {} earlier).Registered := registered_start.acts earlier
  have hmarks : (acts {} earlier).Marked := marked_start.acts earlier
  have hgot := act_request hreceives.receives
  have hafter : h'.Registered ∧ h'.Marked ∧ (acts {} earlier).nextId ≤ h'.nextId := by
    rw [← hgot]
    refine ⟨((hstart.act _).acts l).act _, ((hmarks.act _).acts l).act _, ?_⟩
    exact Nat.le_trans (spares_act _ _).nextId
      (Nat.le_trans (nextId_le_acts _ l) (spares_act _ _).nextId)
  obtain ⟨hr, hm, hnext⟩ := hafter
  have hs : h'.OpenAt s.id sOwn := by
    obtain ⟨own, -, hopen⟩ := hstart.openAt_of_portFor? hreceives.target
    exact openAt_before_acts l' (Nat.lt_of_lt_of_le (hstart.openAt_lt hopen) hnext) hsopen
  obtain ⟨hplace, hreceived⟩ := hreceives.received hstart hmarks hc hs
  cases hreceived
  refine ⟨⟨rfl, rfl⟩, hplace, ?_⟩
  have hbefore : before.Registered := hr.acts l'
  have hmarked : before.Marked := hm.acts l'
  by_cases hfree : cOwn.ip ≠ cOwn.ip.unspecified ∨ before.bound.find? cOwn.routable = none
  · -- the reply is routed to the asker
    have htaker := hbefore.portFor?_routable hcopen hfree
    refine ⟨_, congrArg some (hsopen.sendDatagram_eq htaker reply), ?_, fun _ => ?_⟩
    · intro hwild other hother
      have hnone := hfree.resolve_left fun hne => hne hwild
      cases hnone.symm.trans hother
    · refine ⟨hcopen.packets_push _, ?_⟩
      exact hcopen.reply_read hmarked hreceives.udp (hbefore.openAt_lt hcopen) reply
  · -- another port is at the address that the asker shows
    obtain ⟨hwild, hbound⟩ := not_or.1 hfree
    obtain ⟨taker, hother⟩ := Option.ne_none_iff_exists'.1 hbound
    have htaker : before.portFor? cOwn.routable = some taker := by
      rw [portFor?, hother]
      rfl
    refine ⟨_, congrArg some (hsopen.sendDatagram_eq htaker reply), ?_, fun hfree' => ?_⟩
    · intro hip other hother'
      cases hother.symm.trans hother'
      exact hbefore.packets_push_shown hcopen hip hother _
    · exact absurd hfree' hfree

end Replies

/-- A server at the wildcard is asked through the loopback address, and its answer is read. -/
theorem reply_comes_back_from_wildcard :
    let s : PortHandle := ⟨0, ⟨.v4 .unspecified, 7000⟩⟩
    let c : ConnectionHandle := ⟨.udp, 1, ⟨.v4 .loopback, 5000⟩, ⟨.v4 .loopback, 7000⟩⟩
    let earlier : List HostAct :=
      [.request (.bindPort s.own), .request (.dial .udp (some c.own) c.peer)]
    let h := ((acts {} earlier).act (.request (.write c [1, 2, 3]))).act
      (.request (.receiveFrom s 2))
    Receives (acts {} earlier) c [1, 2, 3] s [] 2 ([1, 2], c.own) h ∧
      ∃ after g, h.poll? (.sendTo s [4] c.own) = some (.ok 1, after) ∧
        after.answer? (.read c 8) = some (.ok [4], g) := by
  intro s c earlier h
  have hc : (acts {} earlier).OpenAt c.id c.own := by decide +kernel
  have hnobody : OnlyReader s.id none [] := fun q hq => nomatch hq
  have hreceives : Receives (acts {} earlier) c [1, 2, 3] s [] 2 ([1, 2], c.own) h :=
    ⟨rfl, by decide +kernel, hnobody, by decide +kernel, rfl⟩
  have hcopen : (h.acts []).OpenAt c.id c.own := by decide +kernel
  have hsopen : (h.acts []).OpenAt s.id s.own := by decide +kernel
  obtain ⟨-, -, after, hsent, -, hqueued⟩ := reply_comes_back earlier hc hreceives hcopen hsopen [4]
  have hafter : after = h.act (.request (.sendTo s [4] c.own)) := (act_request hsent).symm
  have hself : OnlyReader c.id (some c.peer) [] := fun q hq => nomatch hq
  have hstill : (after.acts []).OpenAt c.id c.own := hafter ▸ by decide +kernel
  have hfront : (h.heard c.id (some c.peer)).length = 0 := by decide +kernel
  have hread := (hqueued (Or.inl (by decide))).2.2 rfl [] hself hstill hfront.symm 8
  obtain ⟨g, hg⟩ := hread
  exact ⟨hreceives, after, g, hsent, hg⟩

/-- Two replies that the asker does not read. The first server is at the wildcard and is asked
through an address that is not the loopback one: its reply is passed over. The second one replies to
an asker at the wildcard, and another port at the loopback address gets the reply. -/
theorem reply_passed_over_or_misled :
    (let s : PortHandle := ⟨0, ⟨.v4 .unspecified, 7000⟩⟩
    let c : ConnectionHandle := ⟨.udp, 1, ⟨.v4 .loopback, 5000⟩, ⟨.v4 ⟨10, 0, 0, 1⟩, 7000⟩⟩
    let asked := acts {} [.request (.bindPort s.own), .request (.dial .udp (some c.own) c.peer),
      .request (.write c [1])]
    let replied := (asked.act (.request (.receiveFrom s 8))).act (.request (.sendTo s [2] c.own))
    (asked.poll? (.receiveFrom s 8)).map Prod.fst = some (.ok ([1], c.own)) ∧
      replied.packets c.id = [.datagram ⟨.v4 .loopback, 7000⟩ [2]] ∧
      replied.answer? (.read c 8) = none) ∧
    let other : PortHandle := ⟨0, ⟨.v4 .loopback, 5000⟩⟩
    let s : PortHandle := ⟨1, ⟨.v4 .loopback, 7000⟩⟩
    let c : ConnectionHandle := ⟨.udp, 2, ⟨.v4 .unspecified, 5000⟩, s.own⟩
    let asked := acts {} [.request (.bindPort other.own), .request (.bindPort s.own),
      .request (.dial .udp (some c.own) c.peer), .request (.write c [1])]
    let replied :=
      (asked.act (.request (.receiveFrom s 8))).act (.request (.sendTo s [2] other.own))
    (asked.poll? (.receiveFrom s 8)).map Prod.fst = some (.ok ([1], other.own)) ∧
      replied.packets c.id = [] ∧ replied.packets other.id = [.datagram s.own [2]] ∧
      replied.answer? (.read c 8) = none := by
  refine ⟨?_, ?_⟩
  · intro s c asked replied
    exact ⟨rfl, by decide +kernel, Option.isNone_iff_eq_none.1 (by decide +kernel)⟩
  · intro other s c asked replied
    exact ⟨rfl, by decide +kernel, by decide +kernel,
      Option.isNone_iff_eq_none.1 (by decide +kernel)⟩

end InProcessHost

end SyscallBridge
