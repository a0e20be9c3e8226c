import Mathlib.Data.List.Forall2
import SyscallBridge.Proofs.Host.Replies

/-!
# Datagrams from port to port

What an open port sends is queued on one port at most, which its target alone decides. What an open
port has been handed is, datagram by datagram, what was queued on it first; a connected port passes
over what does not come from its peer, and whatever does not fit into the buffer is lost with its
datagram.
-/

namespace SyscallBridge

open InProcess

/-- A datagram that is sent: the address it shows, what it holds and where it goes. -/
structure Dispatch where
  sender : NetAddress
  payload : Bytes
  target : NetAddress
  deriving DecidableEq

/-- What a reader is handed at once, with the size of the buffer. A connected port tells no
sender. -/
structure Handout where
  size : Nat
  bytes : Bytes
  sender : Option NetAddress
  deriving DecidableEq

/-- The reader has been handed this datagram, as far as it fits. -/
structure Handout.Shows (r : Handout) (datagram : Bytes × NetAddress) : Prop where
  bytes : r.bytes = datagram.1.take r.size
  sender : ∀ a, r.sender = some a → a = datagram.2

namespace InProcessHost

variable {h h' : InProcessHost} {id : Nat} {own : NetAddress} {only : Option NetAddress}
  {a : HostAct} {d : Dispatch}

/-! ### Routing -/

/-- What port `id` sends, if it is open. -/
def dispatchFrom? (h : InProcessHost) (id : Nat) (payload : Bytes) (target : NetAddress) :
    Option Dispatch :=
  match h.ports.find? id with
  | some p => if p.closed then none else some ⟨p.own.routable, payload, target⟩
  | none => none

/-- What an act sends. -/
def dispatch? (h : InProcessHost) : HostAct → Option Dispatch
  | .request (.sendTo p data target) => h.dispatchFrom? p.id data target
  | .request (.write ⟨.udp, id, _, peer⟩ data) => h.dispatchFrom? id data peer
  | _ => none

theorem Registered.portFor?_eq_some_iff (hr : h.Registered) (target : NetAddress) (id : Nat) :
    h.portFor? target = some id ↔ h.OpenAt id target ∨
      (∀ x, ¬ h.OpenAt x target) ∧ h.OpenAt id target.unspecified := by
  rw [portFor?]
  cases hb : h.bound.find? target with
  | some taker =>
    have htaker : h.OpenAt taker target := (hr.bound_iff _ _).1 hb
    constructor
    · intro heq
      cases heq
      exact Or.inl htaker
    · rintro (hid | ⟨hnone, -⟩)
      · exact ((hr.bound_iff _ _).2 hid ▸ hb).symm
      · exact absurd htaker (hnone taker)
  | none =>
    have hnone : ∀ x, ¬ h.OpenAt x target := by
      intro x hx
      rw [(hr.bound_iff _ _).2 hx] at hb
      cases hb
    change h.bound.find? target.unspecified = some id ↔ _
    rw [hr.bound_iff]
    exact ⟨fun hid => Or.inr ⟨hnone, hid⟩, fun hor => (hor.resolve_left (hnone id)).2⟩

theorem dispatchFrom?_eq_some {payload : Bytes} {target : NetAddress}
    (hd : h.dispatchFrom? id payload target = some d) :
    ∃ own, h.OpenAt id own ∧ d = ⟨own.routable, payload, target⟩ := by
  unfold dispatchFrom? at hd
  split at hd
  · rename_i p hp
    split at hd
    · cases hd
    · rename_i hopen
      cases hd
      exact ⟨p.own, ⟨p, hp, by simpa using hopen, rfl⟩, rfl⟩
  · cases hd

theorem sendDatagram_of_dispatchFrom? {payload : Bytes} {target : NetAddress}
    (hd : h.dispatchFrom? id payload target = none) :
    (h.sendDatagram id payload target).2 = h := by
  unfold dispatchFrom? at hd
  unfold sendDatagram
  split at hd
  · rename_i p hp
    split at hd
    · rename_i hclosed
      simp [hp, hclosed]
    · cases hd
  · rename_i hp
    simp [hp]

/-- The queues after something was sent: its taker has it at the back, and nothing else changes. -/
theorem Registered.packets_sendDatagram (hr : h.Registered) {payload : Bytes} {target : NetAddress}
    (hd : h.dispatchFrom? id payload target = some d) (x : Nat) :
    (h.sendDatagram id payload target).2.packets x = h.packets x ++
      if h.portFor? d.target = some x then [.datagram d.sender d.payload] else [] := by
  obtain ⟨own, hopen, rfl⟩ := dispatchFrom?_eq_some hd
  dsimp only
  cases htaker : h.portFor? target with
  | none =>
    obtain ⟨p, hp, hclosed, rfl⟩ := hopen
    simp [sendDatagram, hp, hclosed, htaker]
  | some taker =>
    obtain ⟨at_, -, p, hp, -⟩ := hr.openAt_of_portFor? htaker
    rw [hopen.sendDatagram_eq htaker, packets_pushPacket]
    by_cases hx : x = taker
    · subst hx
      rw [if_pos ⟨rfl, by rw [hp]; rfl⟩, if_pos rfl]
    · have hne : some taker ≠ some x := fun heq => hx (Option.some.inj heq).symm
      rw [if_neg fun hboth => hx hboth.1, if_neg hne, List.append_nil]

theorem Registered.packets_dispatch (hr : h.Registered) (hd : h.dispatch? a = some d) (x : Nat) :
    (h.act a).packets x = h.packets x ++
      if h.portFor? d.target = some x then [.datagram d.sender d.payload] else [] := by
  unfold dispatch? at hd
  split at hd
  · exact hr.packets_sendDatagram hd x
  · exact hr.packets_sendDatagram hd x
  · cases hd

/-! ### What is queued on a port -/

/-- The datagram that an act queues on a port. -/
def deliveredBy (h : InProcessHost) (id : Nat) (a : HostAct) : List (Bytes × NetAddress) :=
  match h.dispatch? a with
  | some d => if h.portFor? d.target = some id then [(d.payload, d.sender)] else []
  | none => []

/-- All that is queued on a port in the course of some acts. -/
def deliveries (h : InProcessHost) (id : Nat) : List HostAct → List (Bytes × NetAddress)
  | [] => []
  | a :: rest => h.deliveredBy id a ++ (h.act a).deliveries id rest

theorem packets_closePort_of_ne {x : Nat} (hx : id ≠ x) :
    (h.closePort x).packets id = h.packets id := by
  cases hp : h.ports.find? x with
  | none => simp only [closePort, hp]
  | some p =>
    cases hclosed : p.closed with
    | true => simp only [closePort, hp, hclosed, if_true]
    | false => exact packets_insert_of_ne (closePort_eq hp hclosed).1 hx

theorem openAt_forget_iff {x : Nat} :
    (h.forget (.port x)).OpenAt id own ↔ id ≠ x ∧ h.OpenAt id own := by
  have hfind : (h.forget (.port x)).ports.find? id = _ := Assoc.find?_erase h.ports x id
  rw [OpenAt, hfind]
  split
  · rename_i hx
    simp [hx]
  · rename_i hx
    simp [hx, OpenAt]

theorem packets_forget_of_ne {x : Nat} (hx : id ≠ x) :
    (h.forget (.port x)).packets id = h.packets id := by
  have hfind : (h.forget (.port x)).ports.find? id = _ := Assoc.find?_erase h.ports x id
  rw [if_neg hx] at hfind
  exact packets_of_eq hfind

/-- A new port has an empty queue. -/
theorem packets_opened {next : UInt16} {slots : Slots} {bound : Assoc NetAddress Nat} {slot : Nat}
    (hr : h.Registered) (a : NetAddress) :
    packets { h with
      nextPort := next
      nextId := h.nextId + 1
      slots
      ports := h.ports.insert h.nextId { slot, own := a }
      bound } id = h.packets id := by
  by_cases hid : id = h.nextId
  · have hnone : h.ports.find? id = none := by
      cases hp : h.ports.find? id with
      | none => rfl
      | some p => exact absurd (hr.numbered id p hp) (by omega)
    simp only [packets, Assoc.find?_insert, if_pos hid, hnone, Option.map_some, Option.getD_some,
      Option.map_none, Option.getD_none]
  · exact packets_insert_of_ne rfl hid

theorem packets_of_kind (ha : a.kind? ≠ some .port) : (h.act a).packets id = h.packets id :=
  packets_of_eq (by rw [(spares_act h a).ports ha])

theorem packets_of_taken {size x : Nat} {answer : Except HostFailure (Bytes × NetAddress)}
    (hr : h.receiveDatagram? x only size = some (answer, h')) :
    h'.packets id = h.packets id ∨ x = id ∧ h'.packets id ⊆ h.packets id := by
  obtain ⟨p, queue, hfound, htake, rfl⟩ := receiveDatagram?_eq_some hr
  by_cases hx : id = x
  · subst hx
    have hafter : (h.ports.insert id { p with queue }).find? id = some { p with queue } :=
      (Assoc.find?_insert ..).trans (if_pos rfl)
    obtain ⟨front, taken, hqueue, -⟩ := takeDatagram?_eq_some htake
    refine Or.inr ⟨rfl, ?_⟩
    rw [packets_of_find? hafter, packets_of_find? hfound, hqueue]
    exact fun packet hp => List.mem_append_right _ (List.mem_cons_of_mem _ hp)
  · exact Or.inl (packets_insert_of_ne rfl hx)

/-- A request that sends nothing leaves the queue of a port as it is, or takes from it. -/
theorem Registered.packets_request (hr : h.Registered) {q : Request}
    (hd : h.dispatch? (.request q) = none) :
    (h.act (.request q)).packets id = h.packets id ∨
      q.waits? = some (.port id) ∧ (h.act (.request q)).packets id ⊆ h.packets id := by
  have hinduct := act_request_induct (h := h) (motive := fun g => g.packets id = h.packets id ∨
    q.waits? = some (.port id) ∧ g.packets id ⊆ h.packets id) q (Or.inl rfl)
  cases q with
  | bindPort a =>
    refine hinduct fun answer h' hp => Or.inl ?_
    rcases bindPort_eq_some hp with ⟨f, next, -, rfl⟩ | ⟨b, next, -, -, rfl, -⟩
    · rfl
    · exact packets_opened hr b
  | dial protocol near peer =>
    cases protocol with
    | tcp => exact Or.inl (packets_of_kind (by simp [HostAct.kind?, Request.kind?]))
    | udp =>
      refine hinduct fun answer h' hp => Or.inl ?_
      rcases dialDatagram_eq_some hp with ⟨f, next, -, rfl⟩ | ⟨b, next, -, -, rfl, -⟩
      · rfl
      · exact packets_opened hr b
  | sendTo p data target =>
    refine Or.inl ?_
    change (h.sendDatagram p.id data target).2.packets id = _
    rw [sendDatagram_of_dispatchFrom? hd]
  | receiveFrom p size =>
    exact hinduct fun answer h' hp => (packets_of_taken hp).imp_right
      (.imp_left (congrArg fun n => some (Resource.port n)))
  | write c data =>
    refine Or.inl ?_
    obtain ⟨protocol, x, near, peer⟩ := c
    cases protocol with
    | tcp =>
      refine packets_of_kind ?_
      simp [HostAct.kind?, Request.kind?, ConnectionHandle.resource, Resource.kind]
    | udp =>
      change (h.sendDatagram x data peer).2.packets id = _
      rw [sendDatagram_of_dispatchFrom? hd]
  | read c size =>
    obtain ⟨protocol, x, near, peer⟩ := c
    cases protocol with
    | tcp =>
      refine Or.inl (packets_of_kind ?_)
      simp [HostAct.kind?, Request.kind?, ConnectionHandle.resource, Resource.kind]
    | udp =>
      refine hinduct fun answer h' hp => ?_
      obtain ⟨⟨got, h₁⟩, hgot, hrest⟩ := Option.map_eq_some_iff.1 hp
      cases hrest
      exact (packets_of_taken hgot).imp_right
        (.imp_left (congrArg fun n => some (Resource.port n)))
  | resolve | listen | dialChannel | accept | sendMessage | receiveMessage | acceptChannel =>
    exact Or.inl (packets_of_kind (by simp [HostAct.kind?, Request.kind?]))

/-- An act that sends nothing and takes nothing from an open port leaves its queue as it is. -/
theorem Registered.packets_kept (hr : h.Registered) (hd : h.dispatch? a = none)
    (ha : a.waits? ≠ some (.port id)) (ho : (h.act a).OpenAt id own) :
    (h.act a).packets id = h.packets id := by
  have hclose (x : Nat) (ho : (h.closePort x).OpenAt id own) :
      id ≠ x ∧ (h.closePort x).packets id = h.packets id := by
    have hne : id ≠ x := fun hx => not_openAt_closePort h id own (hx ▸ ho)
    exact ⟨hne, packets_closePort_of_ne hne⟩
  cases a with
  | request q => exact (hr.packets_request hd).resolve_right fun hboth => ha hboth.1
  | close x =>
    cases x with
    | port x => exact (hclose x ho).2
    | listener | stream | channel | server =>
      exact packets_of_kind (by simp [HostAct.kind?, Resource.kind])
  | drop x =>
    cases x with
    | port x =>
      obtain ⟨hne, hopen⟩ := openAt_forget_iff.1 ho
      exact (packets_forget_of_ne hne).trans (hclose x hopen).2
    | listener | stream | channel | server =>
      exact packets_of_kind (by simp [HostAct.kind?, Resource.dropKind, Resource.kind])
  | serve | addName | log | takeLogs => exact packets_of_kind (by simp [HostAct.kind?])

theorem mem_packets_of_closed {x : Nat} {packet : Packet}
    (hp : packet ∈ (h.closePort x).packets id) : packet ∈ h.packets id ∨ packet = .abort := by
  by_cases hx : id = x
  · subst hx
    cases hfound : h.ports.find? id with
    | none =>
      simp only [closePort, hfound] at hp
      exact Or.inl hp
    | some p =>
      cases hclosed : p.closed with
      | true =>
        simp only [closePort, hfound, hclosed, if_true] at hp
        exact Or.inl hp
      | false =>
        have hafter := (closePort_eq hfound hclosed).1
        rw [packets, hafter, Assoc.find?_insert, if_pos rfl] at hp
        rw [packets_of_find? hfound]
        exact (List.mem_append.1 hp).imp_right List.mem_singleton.1
  · exact Or.inl (packets_closePort_of_ne hx ▸ hp)

theorem mem_packets_of_kind (ha : a.kind? ≠ some .port) {packet : Packet}
    (hp : packet ∈ (h.act a).packets id) : packet ∈ h.packets id := packets_of_kind ha ▸ hp

/-- What stands in the queue of a port after an act stood there before or marks a closing, or the
act has sent it. -/
theorem Registered.packet_before (hr : h.Registered) {packet : Packet}
    (hp : packet ∈ (h.act a).packets id) : packet ∈ h.packets id ∨ packet = .abort ∨
      ∃ d, h.dispatch? a = some d ∧ h.portFor? d.target = some id ∧
        packet = .datagram d.sender d.payload := by
  cases hd : h.dispatch? a with
  | some d =>
    rw [hr.packets_dispatch hd] at hp
    rcases List.mem_append.1 hp with hold | hnew
    · exact Or.inl hold
    · split at hnew
      · rename_i htaker
        exact Or.inr (Or.inr ⟨d, rfl, htaker, List.mem_singleton.1 hnew⟩)
      · cases hnew
  | none =>
    cases a with
    | request q =>
      rcases hr.packets_request hd with hsame | ⟨-, hsub⟩
      · exact Or.inl (hsame ▸ hp)
      · exact Or.inl (hsub hp)
    | close x =>
      cases x with
      | port x => exact (mem_packets_of_closed hp).imp_right Or.inl
      | listener | stream | channel | server =>
        exact Or.inl (mem_packets_of_kind (by simp [HostAct.kind?, Resource.kind]) hp)
    | drop x =>
      cases x with
      | port x =>
        have hp : packet ∈ ((h.closePort x).forget (.port x)).packets id := hp
        by_cases hx : id = x
        · have hgone : ((h.closePort x).forget (.port x)).ports.find? id = none :=
            (Assoc.find?_erase ..).trans (if_pos hx)
          rw [packets, hgone] at hp
          cases hp
        · rw [packets_forget_of_ne hx] at hp
          exact (mem_packets_of_closed hp).imp_right Or.inl
      | listener | stream | channel | server =>
        exact Or.inl (mem_packets_of_kind (by simp [HostAct.kind?, Resource.dropKind, Resource.kind])
          hp)
    | serve | addName | log | takeLogs =>
      exact Or.inl (mem_packets_of_kind (by simp [HostAct.kind?]) hp)

/-- The queue of an open port after an act that takes nothing from it. -/
theorem Registered.packets_delivered (hr : h.Registered) (ha : a.waits? ≠ some (.port id))
    (ho : (h.act a).OpenAt id own) : (h.act a).packets id =
      h.packets id ++ (h.deliveredBy id a).map fun d => .datagram d.2 d.1 := by
  rw [deliveredBy]
  cases hd : h.dispatch? a with
  | none => exact (hr.packets_kept hd ha ho).trans (List.append_nil _).symm
  | some d =>
    rw [hr.packets_dispatch hd id]
    dsimp only
    split <;> rfl

/-- What is taken from a port is not sent. -/
theorem deliveredBy_of_waits {x : Resource} (ha : a.waits? = some x) :
    h.deliveredBy id a = [] := by
  have hnone : h.dispatch? a = none := by
    unfold dispatch?
    split
    · cases ha
    · cases ha
    · rfl
  rw [deliveredBy, hnone]

/-! ### What the reader of a port is handed -/

/-- What an act hands to the reader of a port. -/
def handedBy (h : InProcessHost) (id : Nat) : HostAct → List Handout
  | .request (.receiveFrom p size) =>
    match h.receiveDatagram? p.id none size with
    | some (.ok (bytes, sender), _) => if p.id = id then [⟨size, bytes, some sender⟩] else []
    | _ => []
  | .request (.read c size) =>
    match h.read? c size with
    | some (.ok bytes, _) => if c.resource = .port id then [⟨size, bytes, none⟩] else []
    | _ => []
  | _ => []

/-- All that the reader of a port is handed in the course of some acts. -/
def handed (h : InProcessHost) (id : Nat) : List HostAct → List Handout
  | [] => []
  | a :: rest => h.handedBy id a ++ (h.act a).handed id rest

theorem handedBy_of_not_waits (ha : a.waits? ≠ some (.port id)) : h.handedBy id a = [] := by
  unfold handedBy
  split
  · rename_i p size
    have hne : p.id ≠ id := fun hid => ha (by rw [← hid]; rfl)
    simp only [if_neg hne]
    split <;> rfl
  · rename_i c size
    have hne : c.resource ≠ .port id := fun hid => ha (congrArg some hid)
    simp only [if_neg hne]
    split <;> rfl
  · rfl

/-- A request that takes from a port takes the first datagram for its reader and hands it over. -/
theorem OpenAt.handedBy_eq (ho : h.OpenAt id own) (hm : h.Marked) {q : Request}
    (hq : q.HearsAt id only) :
    (h.heard id only = [] ∧ h.handedBy id (.request q) = [] ∧ h.act (.request q) = h) ∨
    ∃ datagram handout, handout.Shows datagram ∧ h.handedBy id (.request q) = [handout] ∧
      h.heard id only = datagram :: (h.act (.request q)).heard id only := by
  cases q with
  | receiveFrom p size =>
    obtain ⟨rfl, rfl⟩ := hq
    cases hheard : h.heard p.id none with
    | nil =>
      have hnothing := ho.receive_nothing hm hheard size
      refine Or.inl ⟨rfl, ?_, act_request_of_none hnothing⟩
      simp only [handedBy, hnothing]
    | cons datagram rest =>
      obtain ⟨h', hreceive, hrest⟩ := ho.receive_first hm hheard size
      have hact : h.act (.request (.receiveFrom p size)) = h' := act_request hreceive
      refine Or.inr ⟨datagram, ⟨size, datagram.1.take size, some datagram.2⟩, ⟨rfl, ?_⟩, ?_, ?_⟩
      · rintro a ⟨⟩
        rfl
      · simp only [handedBy, hreceive, if_true]
      · rw [hact, hrest]
  | read c size =>
    obtain ⟨protocol, n, near, peer⟩ := c
    cases protocol with
    | tcp => cases hq.1
    | udp =>
      obtain ⟨hid, rfl⟩ := hq
      cases hid
      have hpoll : h.poll? (.read ⟨.udp, n, near, peer⟩ size) =
          (h.receiveDatagram? n (some peer) size).map (Prod.map (Except.map Prod.fst) id) := rfl
      cases hheard : h.heard n (some peer) with
      | nil =>
        have hnothing := ho.receive_nothing hm hheard size
        refine Or.inl ⟨rfl, ?_, act_request_of_none (by rw [hpoll, hnothing]; rfl)⟩
        simp only [handedBy, read?, hnothing, Option.map_none]
      | cons datagram rest =>
        obtain ⟨h', hreceive, hrest⟩ := ho.receive_first hm hheard size
        have hact : h.act (.request (.read ⟨.udp, n, near, peer⟩ size)) = h' :=
          act_request (by rw [hpoll, hreceive]; rfl)
        refine Or.inr ⟨datagram, ⟨size, datagram.1.take size, none⟩, ⟨rfl, ?_⟩, ?_, ?_⟩
        · rintro a ⟨⟩
        · simp only [handedBy, read?, hreceive, Option.map_some, ConnectionHandle.resource]
          rfl
        · rw [hact, hrest]
  | resolve | listen | dial | bindPort | dialChannel | accept | write | sendTo | sendMessage
  | receiveMessage | acceptChannel => cases hq

theorem filterMap_heard? (l : List (Bytes × NetAddress)) :
    (l.map fun d => Packet.datagram d.2 d.1).filterMap (Packet.heard? only) =
      l.filter fun d => only.all (· = d.2) := by
  induction l with
  | nil => rfl
  | cons d l ih =>
    rw [List.map_cons, List.filterMap_cons, List.filter_cons, ih, Packet.heard?]
    cases only with
    | none => rfl
    | some peer => by_cases hpeer : peer = d.2 <;> simp [hpeer]

/-- What the reader of a port was to be handed and what came in is what was handed out and what
there is to be handed now, in this order. -/
theorem Registered.heard_handed (hr : h.Registered) (hm : h.Marked) (ho : (h.act a).OpenAt id own)
    (hreader : OnlyReader id only [a]) :
    ∃ given, List.Forall₂ Handout.Shows (h.handedBy id a) given ∧
      h.heard id only ++ (h.deliveredBy id a).filter (fun d => only.all (· = d.2)) =
        given ++ (h.act a).heard id only := by
  by_cases ha : a.waits? = some (.port id)
  · rw [deliveredBy_of_waits ha, List.filter_nil, List.append_nil]
    cases a with
    | request q =>
      have hhears := hreader q (List.mem_singleton.2 rfl) ha
      have hid : id < h.nextId := by
        -- who takes opens nothing
        have hlt := (hr.act (.request q)).openAt_lt ho
        have hsame : (h.act (.request q)).nextId = h.nextId :=
          act_request_induct (motive := fun g => g.nextId = h.nextId) q rfl fun _ _ hp =>
            (takes_poll? ha hp).nextId
        omega
      have hbefore := openAt_before_act (.request q) hid ho
      rcases hbefore.handedBy_eq hm hhears with ⟨-, hnothing, hsame⟩ | ⟨first, r, hshows, hr, heq⟩
      · rw [hnothing, hsame]
        exact ⟨[], .nil, rfl⟩
      · rw [hr, heq]
        exact ⟨[first], .cons hshows .nil, rfl⟩
    | close | drop | serve | addName | log | takeLogs => cases ha
  · refine ⟨[], by rw [handedBy_of_not_waits ha]; exact .nil, ?_⟩
    rw [List.nil_append, heard, heard, hr.packets_delivered ha ho, List.filterMap_append,
      filterMap_heard?]

theorem Registered.find?_new (hr : h.Registered) (hid : h.nextId ≤ id) :
    h.ports.find? id = none := by
  cases hp : h.ports.find? id with
  | none => rfl
  | some p => exact absurd (hr.numbered id p hp) (by omega)

theorem heard_of_find? (hnone : h.ports.find? id = none) : h.heard id only = [] := by
  rw [heard, packets, hnone]
  rfl

/-- Nothing is queued on a port that is not there yet, and nothing is handed out there. -/
theorem Registered.nothing_new (hr : h.Registered) (hid : h.nextId ≤ id) :
    h.deliveredBy id a = [] ∧ h.handedBy id a = [] := by
  have hnone := hr.find?_new hid
  constructor
  · unfold deliveredBy
    split
    · refine if_neg fun htaker => ?_
      obtain ⟨own, -, hopen⟩ := hr.openAt_of_portFor? htaker
      exact absurd (hr.openAt_lt hopen) (by omega)
    · rfl
  · by_cases ha : a.waits? = some (.port id)
    · unfold handedBy
      split
      · cases ha
        rw [receiveDatagram?, hnone]
        rfl
      · rename_i c size
        obtain ⟨protocol, n, near, peer⟩ := c
        cases protocol with
        | tcp => cases ha
        | udp =>
          cases ha
          simp only [read?, receiveDatagram?, hnone]
          rfl
      · rfl
    · exact handedBy_of_not_waits ha

theorem Registered.heard_handed_acts (hr : h.Registered) (hm : h.Marked) {l : List HostAct}
    (ho : (h.acts l).OpenAt id own) (hreader : OnlyReader id only l) :
    ∃ given, List.Forall₂ Handout.Shows (h.handed id l) given ∧
      h.heard id only ++ (h.deliveries id l).filter (fun d => only.all (· = d.2)) =
        given ++ (h.acts l).heard id only := by
  induction l generalizing h with
  | nil => exact ⟨[], .nil, List.append_nil _⟩
  | cons a l ih =>
    have hfirst : OnlyReader id only [a] := fun q hq =>
      hreader q (List.mem_singleton.1 hq ▸ List.mem_cons_self)
    have hrest : OnlyReader id only l := fun q hq => hreader q (List.mem_cons_of_mem a hq)
    have hstep : ∃ given, List.Forall₂ Handout.Shows (h.handedBy id a) given ∧
        h.heard id only ++ (h.deliveredBy id a).filter (fun d => only.all (· = d.2)) =
          given ++ (h.act a).heard id only := by
      by_cases hid : id < (h.act a).nextId
      · exact hr.heard_handed hm (openAt_before_acts l hid ho) hfirst
      · -- the port is opened by a later act
        have hnext := (spares_act h a).nextId
        obtain ⟨hdelivered, hhanded⟩ := hr.nothing_new (a := a) (by omega : h.nextId ≤ id)
        refine ⟨[], by rw [hhanded]; exact .nil, ?_⟩
        rw [hdelivered, heard_of_find? (hr.find?_new (by omega)),
          heard_of_find? ((hr.act a).find?_new (by omega))]
        rfl
    obtain ⟨given, hshows, heq⟩ := hstep
    obtain ⟨given', hshows', heq'⟩ := ih (hr.act a) (hm.act a) ho hrest
    refine ⟨given ++ given', List.rel_append hshows hshows', ?_⟩
    calc h.heard id only ++ (h.deliveries id (a :: l)).filter (fun d => only.all (· = d.2))
        = h.heard id only ++ (h.deliveredBy id a).filter (fun d => only.all (· = d.2)) ++
            ((h.act a).deliveries id l).filter (fun d => only.all (· = d.2)) := by
          rw [deliveries, List.filter_append, List.append_assoc]
      _ = given ++ ((h.act a).heard id only ++
            ((h.act a).deliveries id l).filter (fun d => only.all (· = d.2))) := by
          rw [heq, List.append_assoc]
      _ = given ++ given' ++ (h.acts (a :: l)).heard id only := by
          rw [heq', List.append_assoc]
          rfl

/-- After any run of acts on a host: a datagram that is sent is queued on one port at most, the open
one at its target, or else the open one at the wildcard with the port of the target. And the
datagrams that an open port has been sent, those from its peer only if it is connected, are the ones
that its reader has been handed, each as far as it fits into the buffer, and after them the ones
that are still to come. -/
theorem datagrams_handed_in_order (l : List HostAct) :
    let h := acts {} l
    (∀ a d, h.dispatch? a = some d → ∃ taker : Option Nat,
      (∀ id, taker = some id ↔ h.OpenAt id d.target ∨
        (∀ x, ¬ h.OpenAt x d.target) ∧ h.OpenAt id d.target.unspecified) ∧
      ∀ id, (h.act a).packets id = h.packets id ++
        if taker = some id then [.datagram d.sender d.payload] else []) ∧
    ∀ id own only, h.OpenAt id own → OnlyReader id only l →
      ∃ given, List.Forall₂ Handout.Shows (handed {} id l) given ∧
        (deliveries {} id l).filter (fun d => only.all (· = d.2)) = given ++ h.heard id only := by
  intro h
  have hr : h.Registered := registered_start.acts l
  refine ⟨fun a d hd => ?_, fun id own only ho hreader => ?_⟩
  · exact ⟨h.portFor? d.target, hr.portFor?_eq_some_iff d.target, hr.packets_dispatch hd⟩
  · exact registered_start.heard_handed_acts marked_start ho hreader

/-- A port at the wildcard takes what is sent to the loopback address with its number, and a
connected port passes over a stranger and hands over the first two bytes of what its peer sent. -/
theorem peer_handed_past_stranger :
    let peer : NetAddress := ⟨.v4 .loopback, 7000⟩
    let stranger : NetAddress := ⟨.v4 .loopback, 6000⟩
    let near : ConnectionHandle := ⟨.udp, 1, ⟨.v4 .loopback, 5000⟩, peer⟩
    let l : List HostAct := [.request (.bindPort peer.unspecified),
      .request (.dial .udp (some near.own) peer), .request (.bindPort stranger),
      .request (.sendTo ⟨2, stranger⟩ [9] near.own),
      .request (.sendTo ⟨0, peer.unspecified⟩ [1, 2, 3] near.own), .request (.read near 2)]
    let h := acts {} l
    h.dispatch? (.request (.write near [4])) = some ⟨near.own, [4], peer⟩ ∧
      (∃ taker : Option Nat,
        (∀ id, taker = some id ↔ h.OpenAt id peer ∨
          (∀ x, ¬ h.OpenAt x peer) ∧ h.OpenAt id peer.unspecified) ∧
        ∀ id, (h.act (.request (.write near [4]))).packets id = h.packets id ++
          if taker = some id then [.datagram near.own [4]] else []) ∧
      handed {} 1 l = [⟨2, [1, 2], none⟩] ∧
      ∃ given, List.Forall₂ Handout.Shows (handed {} 1 l) given ∧
        (deliveries {} 1 l).filter (fun d => (some peer).all (· = d.2)) =
          given ++ h.heard 1 (some peer) := by
  intro peer stranger near l h
  have hopen : h.OpenAt 1 near.own := by
    have hport : h.ports.find? 1 = some { slot := 1, own := near.own } := by decide +kernel
    exact ⟨_, hport, rfl, rfl⟩
  have hreader : OnlyReader 1 (some peer) l := by
    intro q hq hwaits
    simp only [l, List.mem_cons, List.not_mem_nil, or_false, HostAct.request.injEq] at hq
    rcases hq with rfl | rfl | rfl | rfl | rfl | rfl
    iterate 5 cases hwaits
    exact ⟨rfl, rfl⟩
  obtain ⟨hrouted, hhanded⟩ := datagrams_handed_in_order l
  have hsent : h.dispatch? (.request (.write near [4])) = some ⟨near.own, [4], peer⟩ := by
    decide +kernel
  have hread : handed {} 1 l = [⟨2, [1, 2], none⟩] := by decide +kernel
  exact ⟨hsent, hrouted _ _ hsent, hread, hhanded 1 near.own (some peer) hopen hreader⟩

end InProcessHost

end SyscallBridge
