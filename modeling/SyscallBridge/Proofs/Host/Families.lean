import SyscallBridge.Proofs.Host.Arrivals
import SyscallBridge.Proofs.Host.Delivery

/-!
# Address families on the host

Where the host chooses an address, it is of the family of the one that it was asked for. So what
waits at a listener or at a port comes from the family of its address, as long as nobody dials or
sends from one family to the other.
-/

namespace SyscallBridge

open InProcess

/-! ### Families of addresses -/

def NetAddress.family (a : NetAddress) : Family := (SockAddr.ofNet a).family

@[simp] theorem SockAddr.family_toNet (a : SockAddr) : a.toNet.family = a.family := by
  rw [NetAddress.family, SockAddr.ofNet_toNet]

namespace NetAddress

variable {a b : NetAddress}

theorem family_of_ip (h : a.ip = b.ip) : a.family = b.family := by
  obtain ⟨ip, port⟩ := a
  obtain rfl : ip = b.ip := h
  rcases b with ⟨_ | _, _⟩ <;> rfl

theorem Settles.family (h : a.Settles b) : b.family = a.family := family_of_ip h.ip

@[simp] theorem family_loopback (a : NetAddress) : a.loopback.family = a.family := by
  rcases a with ⟨_ | _, _⟩ <;> rfl

@[simp] theorem family_unspecified (a : NetAddress) : a.unspecified.family = a.family := by
  rcases a with ⟨_ | _, _⟩ <;> rfl

@[simp] theorem family_routable (a : NetAddress) : a.routable.family = a.family := by
  have hshown : (a.loopback.withPort a.port).family = a.loopback.family := family_of_ip rfl
  rw [routable]
  split
  · rw [hshown, family_loopback]
  · rfl

end NetAddress

namespace InProcessHost

variable {h h' : InProcessHost} {x : Resource} {own : NetAddress} {standing : List Opening}

/-! ### Addresses of resources -/

/-- The resource has been there, and always at this address. -/
structure Sited (h : InProcessHost) (x : Resource) (own : NetAddress) : Prop where
  old : x.number < h.nextId
  address : ∀ e, h.entryOf x = some e → e.address = some own

theorem Stands.sited (hs : h.Stands ⟨x, some own⟩) (hx : x.number < h.nextId) :
    h.Sited x own where
  old := hx
  address e he := by
    obtain ⟨n, hn⟩ := hs
    have hentry : h.entryOf x = some ⟨false, some own, n⟩ := hn
    cases hentry.symm.trans he
    rfl

theorem Brings.sited {made : List Opening} (hb : Brings h made h') (ho : ⟨x, some own⟩ ∈ made) :
    h'.Sited x own := (hb.stands ho).sited (hb.numbered _ ho).2

theorem Tally.sited (ht : h.Tally standing) (hs : h.Stands ⟨x, some own⟩) : h.Sited x own :=
  hs.sited (ht.numbered _ ((ht.stands _).2 hs))

theorem Sited.brings (hs : h.Sited x own) {made : List Opening} (hb : Brings h made h') :
    h'.Sited x own := by
  have hold := hs.old
  refine ⟨Nat.lt_of_lt_of_le hold hb.nextId, fun e he => hs.address e ?_⟩
  rwa [hb.entryOf_old hold] at he
  -- what is made has a new number
  intro hx
  obtain ⟨o, ho, rfl⟩ := List.mem_map.1 hx
  have hnew : h.nextId ≤ o.resource.number := (hb.numbered o ho).1
  omega

theorem Sited.closes (hs : h.Sited x own) (y : Resource) : (h.close y).Sited x own := by
  by_cases hstands : ∃ b, h.Stands ⟨y, b⟩
  · obtain ⟨b, n, hy⟩ := hstands
    refine ⟨(nextId_close h y).symm ▸ hs.old, fun e he => ?_⟩
    rw [hy.ends.entries] at he
    split at he
    · rename_i hx
      cases he
      have hentry : h.entryOf x = some ⟨false, b, n⟩ := hx ▸ hy
      exact hs.address ⟨false, b, n⟩ hentry
    · exact hs.address e he
  · rw [close_eq_self fun b hb => hstands ⟨b, hb⟩]
    exact hs

theorem Sited.forgets (hs : h.Sited x own) (y : Resource) : (h.forget y).Sited x own := by
  refine ⟨(nextId_forget h y).symm ▸ hs.old, fun e he => hs.address e ?_⟩
  rw [entryOf_forget] at he
  split at he
  · cases he
  · exact he

theorem Sited.discards (hs : h.Sited x own) (y : Resource) : (h.discard y).Sited x own :=
  (hs.closes y).forgets y

theorem Sited.act (hs : h.Sited x own) (a : HostAct) : (h.act a).Sited x own := by
  cases a with
  | request q => exact act_request_induct q hs fun answer h' hp => hs.brings (brings_poll? hp)
  | close y => exact hs.closes y
  | drop y =>
    exact drop_induct (motive := fun g => g.Sited x own) y (hs.discards y)
      fun z _ _ hg => hg.discards z
  | serve url => exact hs.brings (brings_serve h url)
  | addName | log | takeLogs => exact ⟨hs.old, fun e he => hs.address e (by cases x <;> exact he)⟩

/-- A resource with something in its queue is there, so it has one address. -/
theorem Sited.unique {b : NetAddress} (ho : h.Sited x own) (hb : h.Sited x b)
    (there : (h.entryOf x).isSome) : own = b := by
  obtain ⟨e, he⟩ := Option.isSome_iff_exists.1 there
  exact Option.some.inj ((ho.address e he).symm.trans (hb.address e he))

end InProcessHost

/-! ### Handles -/

section Handles

variable {F : Family} {h h' : InProcessHost}

/-- The listener is of family `F`, and has the address on the host that its handle tells. -/
structure ListenerHandle.Within (l : ListenerHandle) (F : Family) (h : InProcessHost) : Prop where
  family : l.address.family = F
  sited : h.Sited l.resource l.address

structure PortHandle.Within (p : PortHandle) (F : Family) (h : InProcessHost) : Prop where
  family : p.own.family = F
  sited : h.Sited p.resource p.own

/-- Both sides are of family `F`. A stream has no address of its own on the host. -/
structure ConnectionHandle.Within (c : ConnectionHandle) (F : Family) (h : InProcessHost) :
    Prop where
  own : c.own.family = F
  peer : c.peer.family = F
  sited : c.protocol = .udp → h.Sited c.resource c.own

theorem ListenerHandle.Within.act {l : ListenerHandle} (hl : l.Within F h) (a : HostAct) :
    l.Within F (h.act a) := ⟨hl.family, hl.sited.act a⟩

theorem PortHandle.Within.act {p : PortHandle} (hp : p.Within F h) (a : HostAct) :
    p.Within F (h.act a) := ⟨hp.family, hp.sited.act a⟩

theorem ConnectionHandle.Within.act {c : ConnectionHandle} (hc : c.Within F h) (a : HostAct) :
    c.Within F (h.act a) := ⟨hc.own, hc.peer, fun hudp => (hc.sited hudp).act a⟩

theorem ConnectionHandle.Within.farSide {c : ConnectionHandle} (hc : c.Within F h)
    (htcp : c.protocol = .tcp) : c.farSide.Within F h' := by
  refine ⟨hc.peer, hc.own, fun hudp => ?_⟩
  cases htcp.symm.trans hudp

end Handles

namespace InProcessHost

variable {h h' : InProcessHost} {own : NetAddress} {a : HostAct} {F : Family}

/-! ### What the host gives -/

theorem listen_within {protocol : Protocol} {l : ListenerHandle}
    (hp : h.poll? (.listen protocol own) = some (.ok l, h')) : l.Within own.family h' := by
  refine ⟨?_, (brings_poll? hp).sited List.mem_cons_self⟩
  rcases listen_eq_some hp with ⟨f, next, hok, -⟩ | ⟨b, next, hok, hb, -⟩
  · cases hok
  · cases hok
    exact hb.family

theorem bindPort_within {p : PortHandle} (hp : h.poll? (.bindPort own) = some (.ok p, h')) :
    p.Within own.family h' := by
  refine ⟨?_, (brings_poll? hp).sited List.mem_cons_self⟩
  rcases bindPort_eq_some hp with ⟨f, next, hok, -⟩ | ⟨b, next, hok, hb, -⟩
  · cases hok
  · cases hok
    exact hb.family

theorem dial_within {protocol : Protocol} {own : Option NetAddress} {peer : NetAddress}
    {c : ConnectionHandle} (hp : h.poll? (.dial protocol own peer) = some (.ok c, h'))
    (hown : ∀ b, own = some b → b.family = peer.family) : c.Within peer.family h' := by
  have hnear {b : NetAddress} (hb : (own.getD peer.loopback).Settles b) :
      b.family = peer.family := by
    rw [hb.family]
    cases own with
    | none => exact peer.family_loopback
    | some near => exact hown near rfl
  cases protocol with
  | tcp =>
    rcases dialStream_eq_some hp with ⟨f, hok, -⟩ | ⟨b, next, l, hok, hb, -⟩ |
      ⟨next, slots, streams, hok, -⟩
    · cases hok
    · cases hok
      exact ⟨hnear hb, rfl, fun hudp => nomatch hudp⟩
    · cases hok
  | udp =>
    have hbrings := brings_poll? hp
    rcases dialDatagram_eq_some hp with ⟨f, next, hok, -⟩ | ⟨b, next, hok, hb, -⟩
    · cases hok
    · cases hok
      exact ⟨hnear hb, rfl, fun _ => hbrings.sited List.mem_cons_self⟩

/-! ### Queues -/

/-- What waits at a listener or at a port comes from the family of its address. -/
structure InFamilies (h : InProcessHost) : Prop where
  tally : ∃ standing, h.Tally standing
  marked : h.Marked
  registered : h.Registered
  arrivals : ∀ n, ∀ c ∈ h.arrivals n, ∃ b, h.Sited (.listener n) b ∧ c.Within b.family h
  packets : ∀ id sender payload, .datagram sender payload ∈ h.packets id →
    ∃ b, h.Sited (.port id) b ∧ sender.family = b.family

theorem inFamilies_start : InFamilies {} where
  tally := ⟨[], tally_start⟩
  marked := marked_start
  registered := registered_start
  arrivals _ _ hc := nomatch hc
  packets _ _ _ hp := nomatch hp

/-- What an act dials or sends stays within one family. -/
structure Keeps (h : InProcessHost) (a : HostAct) : Prop where
  dials : ∀ protocol own peer, a = .request (.dial protocol (some own) peer) →
    own.family = peer.family
  sends : ∀ d, h.dispatch? a = some d → d.sender.family = d.target.family

theorem keeps_of_not_request (hreq : ∀ q, a ≠ .request q) : h.Keeps a where
  dials protocol own peer hdial := absurd hdial (hreq _)
  sends d hd := by
    unfold dispatch? at hd
    split at hd
    · exact absurd rfl (hreq _)
    · exact absurd rfl (hreq _)
    · cases hd

theorem InFamilies.act (hf : h.InFamilies) (hk : h.Keeps a) : (h.act a).InFamilies := by
  obtain ⟨standing, ht⟩ := hf.tally
  refine ⟨ht.act a, hf.marked.act a, hf.registered.act a, fun n c hc => ?_,
    fun id sender payload hp => ?_⟩
  · rcases ht.arrival_before hf.marked hc with hold | ⟨d, hd, rfl⟩
    · obtain ⟨b, hsited, hwithin⟩ := hf.arrivals n c hold
      exact ⟨b, hsited.act a, hwithin.act a⟩
    · have htcp := (sides_dialsBy hd).1
      obtain ⟨own, peer, g, rfl, hroute, hdial⟩ := mem_dialsBy hd
      obtain ⟨b, hplace, hstands⟩ := ht.stands_of_route hroute
      have hpoll : h.poll? (.dial .tcp own peer) = some (.ok d, g) := hdial
      have hnear : d.Within peer.family g := dial_within hpoll fun b hb =>
        hk.dials .tcp b peer (hb ▸ rfl)
      have hb : b.family = peer.family := by
        rcases hplace with rfl | rfl
        · rfl
        · exact peer.family_unspecified
      exact ⟨b, (ht.sited hstands).act _, hb ▸ hnear.farSide htcp⟩
  · rcases hf.registered.packet_before hp with hold | hmark | ⟨d, hd, htaker, hnew⟩
    · obtain ⟨b, hsited, hb⟩ := hf.packets id sender payload hold
      exact ⟨b, hsited.act a, hb⟩
    · cases hmark
    · cases hnew
      obtain ⟨b, hplace, hopen⟩ := hf.registered.openAt_of_portFor? htaker
      have hstands : h.Stands ⟨.port id, some b⟩ := (openAt_iff_stands id b).1 hopen
      refine ⟨b, (ht.sited hstands).act a, ?_⟩
      rw [hk.sends d hd]
      rcases hplace with rfl | rfl
      · rfl
      · exact (NetAddress.family_unspecified _).symm

/-! ### What is taken from a queue -/

theorem InFamilies.accept_within (hf : h.InFamilies) {l : ListenerHandle} (hl : l.Within F h)
    {c : ConnectionHandle} (hp : h.poll? (.accept l) = some (.ok c, h')) : c.Within F h' := by
  obtain ⟨listener, arrival, queue, hfound, hqueue, htaken, -⟩ := takeArrival?_eq_some hp
  have hwaits : c ∈ h.arrivals l.id := by
    rcases htaken with ⟨hok, -⟩ | ⟨d, hok, harrival⟩
    · cases hok
    · cases hok
      rw [arrivals_of_find? hfound, hqueue, harrival]
      exact List.mem_cons_self
  obtain ⟨b, hsited, hwithin⟩ := hf.arrivals l.id c hwaits
  have hthere : (h.entryOf (.listener l.id)).isSome := by
    rw [entryOf, hfound]
    rfl
  have hb : b = l.address := hsited.unique hl.sited hthere
  rw [hb, hl.family] at hwithin
  exact act_request hp ▸ hwithin.act (.request (.accept l))

theorem InFamilies.receive_within (hf : h.InFamilies) {p : PortHandle} (hp : p.Within F h)
    {size : Nat} {got : Bytes × NetAddress}
    (hpoll : h.poll? (.receiveFrom p size) = some (.ok got, h')) : got.2.family = F := by
  obtain ⟨port, queue, hfound, htake, -⟩ := receiveDatagram?_eq_some hpoll
  obtain ⟨front, packet, hqueue, htaken⟩ := takeDatagram?_eq_some htake
  rcases htaken with ⟨hok, -⟩ | ⟨sender, payload, hok, rfl⟩
  · cases hok
  · cases hok
    have hstood : .datagram sender payload ∈ h.packets p.id := by
      rw [packets_of_find? hfound, hqueue]
      exact List.mem_append_right _ List.mem_cons_self
    obtain ⟨b, hsited, hb⟩ := hf.packets p.id sender payload hstood
    have hthere : (h.entryOf (.port p.id)).isSome := by
      rw [entryOf, hfound]
      rfl
    have hown : b = p.own := hsited.unique hp.sited hthere
    rw [hb, hown, hp.family]

/-! ### What is sent -/

/-- What goes out of a port shows the family of the port. -/
theorem sender_family {id : Nat} {payload : Bytes} {target : NetAddress} {d : Dispatch}
    (hs : h.Sited (.port id) own) (hd : h.dispatchFrom? id payload target = some d) :
    d.sender.family = own.family ∧ d.target = target := by
  obtain ⟨b, hopen, rfl⟩ := dispatchFrom?_eq_some hd
  obtain ⟨n, hentry⟩ := (openAt_iff_stands id b).1 hopen
  obtain rfl : b = own := Option.some.inj (hs.address _ hentry)
  exact ⟨NetAddress.family_routable _, rfl⟩

end InProcessHost

end SyscallBridge
