import Mathlib.Data.List.Forall2
import SyscallBridge.Proofs.Host.Inbox

/-!
# What is open

A resource is open from the answer that tells of it until it is closed. Here is, act by act, what
becomes open and what does not any more, with the slots that are held meanwhile and the registry of
listeners.
-/

namespace SyscallBridge

open InProcess

def Opening.number (o : Opening) : Nat := o.resource.number

/-- Whether a resource is closed, its address if nobody else can have that, and the slot it holds
while it is open. -/
structure Entry where
  closed : Bool
  address : Option NetAddress
  slot : Nat

namespace InProcess

def Listener.entry (l : Listener) : Entry := ⟨l.closed, some l.address, l.slot⟩

def Stream.entry (s : Stream) : Entry := ⟨s.closed, none, s.slot⟩

def Port.entry (p : Port) : Entry := ⟨p.closed, some p.own, p.slot⟩

def Channel.entry (c : Channel) : Entry := ⟨c.closed, none, c.slot⟩

end InProcess

namespace InProcessHost

/-- Servers are never closed and are not counted. -/
def entryOf (h : InProcessHost) : Resource → Option Entry
  | .listener id => (h.listeners.find? id).map Listener.entry
  | .stream id => (h.streams.find? id).map Stream.entry
  | .port id => (h.ports.find? id).map Port.entry
  | .channel id => (h.channels.find? id).map Channel.entry
  | .server _ => none

/-- The resource is there and open, with this address, and holds this slot. -/
def Holds (h : InProcessHost) (o : Opening) (slot : Nat) : Prop :=
  h.entryOf o.resource = some ⟨false, o.address, slot⟩

/-- The resource is there and open, with this address. -/
def Stands (h : InProcessHost) (o : Opening) : Prop := ∃ slot, h.Holds o slot

variable {h h' : InProcessHost} {x y : Resource} {o : Opening} {q : Request}

theorem Stands.unique {a a' : Option NetAddress} (h₁ : h.Stands ⟨x, a⟩) (h₂ : h.Stands ⟨x, a'⟩) :
    a = a' := by
  obtain ⟨n, hn⟩ := h₁
  obtain ⟨n', hn'⟩ := h₂
  have heq : some (Entry.mk false a n) = some ⟨false, a', n'⟩ := hn.symm.trans hn'
  cases heq
  rfl

/-! ### One resource is put in its place -/

theorem entryOf_setListener (h : InProcessHost) (id : Nat) (l : Listener) (y : Resource) :
    entryOf { h with listeners := h.listeners.insert id l } y =
      if y = .listener id then some l.entry else h.entryOf y := by
  cases y with
  | listener n =>
    simp only [entryOf, Assoc.find?_insert, Resource.listener.injEq]
    split <;> rfl
  | stream | port | channel | server => exact (if_neg (by simp)).symm

theorem entryOf_setStream (h : InProcessHost) (id : Nat) (s : Stream) (y : Resource) :
    entryOf { h with streams := h.streams.insert id s } y =
      if y = .stream id then some s.entry else h.entryOf y := by
  cases y with
  | stream n =>
    simp only [entryOf, Assoc.find?_insert, Resource.stream.injEq]
    split <;> rfl
  | listener | port | channel | server => exact (if_neg (by simp)).symm

theorem entryOf_setPort (h : InProcessHost) (id : Nat) (p : Port) (y : Resource) :
    entryOf { h with ports := h.ports.insert id p } y =
      if y = .port id then some p.entry else h.entryOf y := by
  cases y with
  | port n =>
    simp only [entryOf, Assoc.find?_insert, Resource.port.injEq]
    split <;> rfl
  | listener | stream | channel | server => exact (if_neg (by simp)).symm

theorem entryOf_setChannel (h : InProcessHost) (id : Nat) (c : Channel) (y : Resource) :
    entryOf { h with channels := h.channels.insert id c } y =
      if y = .channel id then some c.entry else h.entryOf y := by
  cases y with
  | channel n =>
    simp only [entryOf, Assoc.find?_insert, Resource.channel.injEq]
    split <;> rfl
  | listener | stream | port | server => exact (if_neg (by simp)).symm

/-! ### Queues do not count -/

theorem entryOf_queueArrival (h : InProcessHost) (l : Nat) (c : ConnectionHandle) (x : Resource) :
    entryOf { h with
      listeners := h.listeners.modify l fun l => { l with
        queue := l.queue ++ [.connection c] } } x = h.entryOf x := by
  cases x with
  | listener id =>
    refine Assoc.map_find?_modify (fun l => ?_) _ _ _
    rfl
  | stream | port | channel | server => rfl

theorem entryOf_pushSegment (h : InProcessHost) (id : Nat) (segment : Segment) (x : Resource) :
    (h.pushSegment id segment).entryOf x = h.entryOf x := by
  cases x with
  | stream n =>
    refine Assoc.map_find?_modify (fun s => ?_) _ _ _
    rfl
  | listener | port | channel | server => rfl

theorem entryOf_pushPacket (h : InProcessHost) (id : Nat) (packet : Packet) (x : Resource) :
    (h.pushPacket id packet).entryOf x = h.entryOf x := by
  cases x with
  | port n =>
    refine Assoc.map_find?_modify (fun p => ?_) _ _ _
    rfl
  | listener | stream | channel | server => rfl

theorem entryOf_pushFrame (h : InProcessHost) (id : Nat) (frame : Frame) (x : Resource) :
    (h.pushFrame id frame).entryOf x = h.entryOf x := by
  cases x with
  | channel n =>
    refine Assoc.map_find?_modify (fun c => ?_) _ _ _
    rfl
  | listener | stream | port | server => rfl

theorem entryOf_queueChannel (h : InProcessHost) (server : Nat) (c : ChannelHandle) (x : Resource) :
    entryOf { h with
      servers := h.servers.modify server fun s => { s with queue := s.queue ++ [c] } } x =
      h.entryOf x := by
  cases x <;> rfl

/-! ### Pairs -/

theorem entryOf_dialed (h : InProcessHost) (z : Resource) :
    entryOf { h with streams := h.dialed } z =
      if z = .stream (h.nextId + 1) then some ⟨false, none, h.slots.insert.2.insert.1⟩
      else if z = .stream h.nextId then some ⟨false, none, h.slots.insert.1⟩
      else h.entryOf z := by
  refine (entryOf_setStream { h with streams := h.streams.insert h.nextId _ } (h.nextId + 1) _
    z).trans ?_
  rw [entryOf_setStream]
  rfl

theorem entryOf_dialedChannels (h : InProcessHost) (z : Resource) :
    entryOf { h with channels := h.dialedChannels } z =
      if z = .channel (h.nextId + 1) then some ⟨false, none, h.slots.insert.2.insert.1⟩
      else if z = .channel h.nextId then some ⟨false, none, h.slots.insert.1⟩
      else h.entryOf z := by
  refine (entryOf_setChannel { h with channels := h.channels.insert h.nextId _ } (h.nextId + 1) _
    z).trans ?_
  rw [entryOf_setChannel]
  rfl

/-! ### Requests -/

/-- What is made is open, under new numbers, and holds slots of its own; nothing else that counts
changes. A new number may be left without a resource. -/
structure Brings (h : InProcessHost) (made : List Opening) (h' : InProcessHost) : Prop where
  nextId : h.nextId ≤ h'.nextId
  numbered : ∀ o ∈ made, h.nextId ≤ o.number ∧ o.number < h'.nextId
  nodup : (made.map Opening.number).Nodup
  live : ∃ slots, h'.live = slots ++ h.live ∧ List.Forall₂ h'.Holds made slots
  others : ∀ x, x ∉ made.map Opening.resource →
    h'.entryOf x = h.entryOf x ∨ h.nextId ≤ x.number ∧ h'.entryOf x = none
  listening : ∀ a id, h'.listening.find? a = some id ↔
    ⟨.listener id, some a⟩ ∈ made ∨ h.listening.find? a = some id

theorem Brings.stands {made : List Opening} (hb : Brings h made h') (ho : o ∈ made) :
    h'.Stands o := by
  obtain ⟨slots, -, hslots⟩ := hb.live
  clear hb
  induction hslots with
  | nil => cases ho
  | cons hfirst _ ih =>
    rcases List.mem_cons.1 ho with rfl | ho
    · exact ⟨_, hfirst⟩
    · exact ih ho

theorem Brings.nothing (nextId : h.nextId ≤ h'.nextId) (live : h'.live = h.live)
    (entries : ∀ x, h'.entryOf x = h.entryOf x ∨ h.nextId ≤ x.number ∧ h'.entryOf x = none)
    (listening : h'.listening = h.listening) : Brings h [] h' where
  nextId
  numbered := fun o ho => nomatch ho
  nodup := List.nodup_nil
  live := ⟨[], live, .nil⟩
  others := fun x _ => entries x
  listening := fun a id => by simp [listening]

theorem Brings.keeps (live : h'.live = h.live) (nextId : h.nextId ≤ h'.nextId)
    (entries : ∀ x, h'.entryOf x = h.entryOf x) (listening : h'.listening = h.listening) :
    Brings h [] h' := .nothing nextId live (fun x => Or.inl (entries x)) listening

theorem Brings.refl (h : InProcessHost) : Brings h [] h :=
  .keeps rfl (Nat.le_refl _) (fun _ => rfl) rfl

/-- Names and what stands on the console do not count. -/
theorem Brings.aside (h : InProcessHost) (names : Assoc String (List Ip))
    (console : List LogRecord) : Brings h [] { h with names, console } :=
  .keeps rfl (Nat.le_refl _) (fun x => by cases x <;> rfl) rfl

theorem Brings.one {a : Option NetAddress} (hx : x.number = h.nextId)
    (nextId : h'.nextId = h.nextId + 1) (slots : h'.slots = h.slots.insert.2)
    (entries : ∀ y, h'.entryOf y =
      if y = x then some ⟨false, a, h.slots.insert.1⟩ else h.entryOf y)
    (listening : ∀ b id, h'.listening.find? b = some id ↔
      (x = .listener id ∧ a = some b) ∨ h.listening.find? b = some id) : Brings h [⟨x, a⟩] h' where
  nextId := by omega
  numbered := fun o ho => by
    obtain rfl := List.mem_singleton.1 ho
    simp only [Opening.number]
    omega
  nodup := by simp
  live := ⟨[h.slots.insert.1], congrArg Slots.held slots,
    .cons ((entries x).trans (if_pos rfl)) .nil⟩
  others := fun y hy => Or.inl ((entries y).trans (if_neg (by simpa using hy)))
  listening := fun b id => by
    rw [listening]
    simp [eq_comm]

theorem Brings.pair (hx : x.number = h.nextId) (hy : y.number = h.nextId + 1)
    (nextId : h'.nextId = h.nextId + 2) (slots : h'.slots = h.dialedSlots)
    (entries : ∀ z, h'.entryOf z = if z = y then some ⟨false, none, h.slots.insert.2.insert.1⟩
      else if z = x then some ⟨false, none, h.slots.insert.1⟩ else h.entryOf z)
    (listening : h'.listening = h.listening) : Brings h [⟨y, none⟩, ⟨x, none⟩] h' where
  nextId := by omega
  numbered := fun o ho => by
    simp only [List.mem_cons, List.not_mem_nil, or_false] at ho
    rcases ho with rfl | rfl <;>
      · simp only [Opening.number]
        omega
  nodup := by simp [Opening.number, hx, hy]
  live := by
    have hxy : x ≠ y := by
      rintro rfl
      omega
    refine ⟨[h.slots.insert.2.insert.1, h.slots.insert.1], congrArg Slots.held slots,
      .cons ((entries y).trans (if_pos rfl)) (.cons ?_ .nil)⟩
    exact (entries x).trans ((if_neg hxy).trans (if_pos rfl))
  others := fun z hz => by
    simp only [List.map_cons, List.map_nil, List.mem_cons, List.not_mem_nil, or_false,
      not_or] at hz
    rw [entries, if_neg hz.1, if_neg hz.2]
    exact Or.inl rfl
  listening := fun b id => by simp [listening]

/-- A pair that was made and dropped leaves nothing open. -/
theorem Brings.undone (made : Nat → Resource) (hmade : ∀ id, (made id).number = id)
    (nextId : h'.nextId = h.nextId + 2) (held : h'.slots.held = h.slots.held)
    (entries : ∀ z, (∀ id, z ≠ made id) → h'.entryOf z = h.entryOf z)
    (new : ∀ id, h'.entryOf (made id) =
      if id = h.nextId + 1 ∨ id = h.nextId then none else h.entryOf (made id))
    (listening : h'.listening = h.listening) : Brings h [] h' := by
  refine .nothing (by omega) held (fun z => ?_) listening
  by_cases hz : ∃ id, z = made id
  · obtain ⟨id, rfl⟩ := hz
    rw [new, hmade]
    split
    · exact Or.inr ⟨by omega, rfl⟩
    · exact Or.inl rfl
  · exact Or.inl (entries z fun id he => hz ⟨id, he⟩)

theorem find?_insert_iff_of_free {m : Assoc NetAddress Nat} {a : NetAddress} {n : Nat}
    (hfree : m.find? a = none) (b : NetAddress) (id : Nat) :
    (m.insert a n).find? b = some id ↔ (n = id ∧ a = b) ∨ m.find? b = some id := by
  rw [Assoc.find?_insert]
  split
  · rename_i hb
    simp [hb, hfree]
  · rename_i hb
    simp [Ne.symm hb]

/-- What is put back in its place counts as it did before. -/
theorem entryOf_replaced {e : Entry} (hx : h.entryOf x = some e)
    (entries : ∀ y, h'.entryOf y = if y = x then some e else h.entryOf y) (y : Resource) :
    h'.entryOf y = h.entryOf y := by
  rw [entries]
  split
  · rename_i hy
    rw [hy, hx]
  · rfl

/-- An answer brings what it tells of. -/
theorem Served.brings {made : List Opening} {taken : Option (Resource × Nat)}
    (hs : Served h q made taken h') : Brings h made h' := by
  cases hs with
  | nothing => exact .refl h
  | searches => exact .keeps rfl (Nat.le_refl _) (fun x => by cases x <;> rfl) rfl
  | listens _ _ free =>
    refine .one rfl rfl rfl (entryOf_setListener h h.nextId _) fun b' id => ?_
    simp only [find?_insert_iff_of_free free, Resource.listener.injEq, Option.some.injEq]
  | opensPort => exact .one rfl rfl rfl (entryOf_setPort h h.nextId _) fun b id => by simp
  | @dials _ next l c =>
    refine .pair (x := .stream h.nextId) (y := .stream (h.nextId + 1)) rfl rfl rfl rfl
      (fun z => ?_) rfl
    exact (entryOf_queueArrival _ l c z).trans (entryOf_dialed h z)
  | undials _ _ held find =>
    refine .undone .stream (fun _ => rfl) rfl held (fun z hz => ?_) (fun id => ?_) rfl
    · cases z with
      | stream id => exact absurd rfl (hz id)
      | listener | port | channel | server => rfl
    · simp only [entryOf, find]
      split <;> rfl
  | @dialsChannel server c =>
    refine .pair (x := .channel h.nextId) (y := .channel (h.nextId + 1)) rfl rfl rfl rfl
      (fun z => ?_) rfl
    exact (entryOf_queueChannel _ server c z).trans (entryOf_dialedChannels h z)
  | undialsChannel _ held find =>
    refine .undone .channel (fun _ => rfl) rfl held (fun z hz => ?_) (fun id => ?_) rfl
    · cases z with
      | channel id => exact absurd rfl (hz id)
      | listener | stream | port | server => rfl
    · simp only [entryOf, find]
      split <;> rfl
  | @writes id data => exact .keeps rfl (Nat.le_refl _) (entryOf_pushSegment h id _) rfl
  | @sends id sender data => exact .keeps rfl (Nat.le_refl _) (entryOf_pushPacket h id _) rfl
  | @sendsMessage id m => exact .keeps rfl (Nat.le_refl _) (entryOf_pushFrame h id _) rfl
  | @accepts id n l queue found =>
    refine .keeps rfl (Nat.le_refl _) (entryOf_replaced (x := .listener id) (e := l.entry) ?_
      (entryOf_setListener h id { l with queue })) rfl
    simp only [entryOf, found, Option.map_some]
  | @reads id n s s' kind found fixed =>
    refine .keeps rfl (Nat.le_refl _) (entryOf_replaced (x := .stream id) (e := s'.entry) ?_
      (entryOf_setStream h id s')) rfl
    simp only [entryOf, found, Option.map_some, Stream.entry, fixed]
  | @receives id n p queue kind found =>
    refine .keeps rfl (Nat.le_refl _) (entryOf_replaced (x := .port id) (e := p.entry) ?_
      (entryOf_setPort h id { p with queue })) rfl
    simp only [entryOf, found, Option.map_some]
  | @receivesMessage id n c queue kind found =>
    refine .keeps rfl (Nat.le_refl _) (entryOf_replaced (x := .channel id) (e := c.entry) ?_
      (entryOf_setChannel h id { c with queue })) rfl
    simp only [entryOf, found, Option.map_some]
  | acceptsChannel => exact .keeps rfl (Nat.le_refl _) (fun x => by cases x <;> rfl) rfl

/-- A request opens what its answer tells of. -/
theorem brings_poll? {answer : Except HostFailure q.Answer}
    (hp : h.poll? q = some (answer, h')) : Brings h (q.opened answer) h' :=
  (served_poll? hp).brings

/-! ### Servers -/

theorem brings_serve (h : InProcessHost) (url : String) : Brings h [] (h.serve url).2 := by
  unfold serve
  split
  · exact .refl h
  · exact .keeps rfl (Nat.le_succ _) (fun x => by cases x <;> rfl) rfl

/-! ### Ends -/

theorem entryOf_forget (h : InProcessHost) (x y : Resource) :
    (h.forget x).entryOf y = if y = x then none else h.entryOf y := by
  cases x with
  | listener id =>
    cases y with
    | listener n =>
      simp only [entryOf, forget, Assoc.find?_erase, Resource.listener.injEq]
      split <;> rfl
    | stream | port | channel | server => exact (if_neg (by simp)).symm
  | stream id =>
    cases y with
    | stream n =>
      simp only [entryOf, forget, Assoc.find?_erase, Resource.stream.injEq]
      split <;> rfl
    | listener | port | channel | server => exact (if_neg (by simp)).symm
  | port id =>
    cases y with
    | port n =>
      simp only [entryOf, forget, Assoc.find?_erase, Resource.port.injEq]
      split <;> rfl
    | listener | stream | channel | server => exact (if_neg (by simp)).symm
  | channel id =>
    cases y with
    | channel n =>
      simp only [entryOf, forget, Assoc.find?_erase, Resource.channel.injEq]
      split <;> rfl
    | listener | stream | port | server => exact (if_neg (by simp)).symm
  | server id =>
    cases y with
    | server n => simp [entryOf]
    | listener | stream | port | channel => exact (if_neg (by simp)).symm

/-- A resource that is not open is left alone by a closing. -/
theorem close_eq_self (hx : ∀ a, ¬ h.Stands ⟨x, a⟩) : h.close x = h := by
  have hclosed (e : Entry) (he : h.entryOf x = some e) : e.closed = true := by
    obtain ⟨closed, a, n⟩ := e
    cases closed with
    | true => rfl
    | false => exact absurd ⟨n, he⟩ (hx a)
  cases x with
  | listener id =>
    change h.closeListener id = h
    unfold closeListener
    split
    · rfl
    · rename_i l hl
      exact if_pos (hclosed l.entry (by rw [entryOf, hl]; rfl))
  | stream id =>
    change h.closeStream id = h
    unfold closeStream
    split
    · rfl
    · rename_i s hs
      exact if_pos (hclosed s.entry (by rw [entryOf, hs]; rfl))
  | port id =>
    change h.closePort id = h
    unfold closePort
    split
    · rfl
    · rename_i p hp
      exact if_pos (hclosed p.entry (by rw [entryOf, hp]; rfl))
  | channel id =>
    change h.closeChannel id = h
    unfold closeChannel
    split
    · rfl
    · rename_i c hc
      exact if_pos (hclosed c.entry (by rw [entryOf, hc]; rfl))
  | server => rfl

/-- An open resource is closed: its slot is free, and a listener leaves the registry. -/
structure Ends (h : InProcessHost) (o : Opening) (slot : Nat) (h' : InProcessHost) : Prop where
  live : h'.live = h.live.erase slot
  entries : ∀ y, h'.entryOf y =
    if y = o.resource then some ⟨true, o.address, slot⟩ else h.entryOf y
  listening : (∃ id a, o = ⟨.listener id, some a⟩ ∧ h'.listening = h.listening.erase a) ∨
    (∀ id, o.resource ≠ .listener id) ∧ h'.listening = h.listening

theorem Holds.ends {slot : Nat} (hs : h.Holds o slot) : Ends h o slot (h.close o.resource) := by
  obtain ⟨x, a⟩ := o
  have hentry : h.entryOf x = some ⟨false, a, slot⟩ := hs
  cases x with
  | listener id =>
    obtain ⟨l, hl, he⟩ := Option.map_eq_some_iff.1 hentry
    obtain ⟨hopen, rfl, rfl⟩ := Entry.mk.injEq .. ▸ he
    have hclose : h.close (.listener id) = { h.release l.slot with
        listening := h.listening.erase l.address
        listeners := h.listeners.insert id
          { l with closed := true, queue := l.queue ++ [.abort] } } := by
      simp [InProcessHost.close, closeListener, hl, hopen]
    rw [hclose]
    exact ⟨h.slots.remove_held _, entryOf_setListener _ id _, Or.inl ⟨id, l.address, rfl, rfl⟩⟩
  | stream id =>
    obtain ⟨s, hstream, he⟩ := Option.map_eq_some_iff.1 hentry
    obtain ⟨hopen, rfl, rfl⟩ := Entry.mk.injEq .. ▸ he
    have hclose : h.close (.stream id) = (({ h with
        streams := h.streams.insert id { s with closed := true } }.pushSegment s.peer
          .finish).pushSegment id .abort).release s.slot := by
      simp [InProcessHost.close, closeStream, hstream, hopen]
    rw [hclose]
    refine ⟨h.slots.remove_held _, fun y => ?_, Or.inr ⟨by simp, rfl⟩⟩
    exact (entryOf_pushSegment _ id .abort y).trans
      ((entryOf_pushSegment _ s.peer .finish y).trans (entryOf_setStream h id _ y))
  | port id =>
    obtain ⟨p, hp, he⟩ := Option.map_eq_some_iff.1 hentry
    obtain ⟨hopen, rfl, rfl⟩ := Entry.mk.injEq .. ▸ he
    have hclose : h.close (.port id) = { h.release p.slot with
        bound := h.bound.erase p.own
        ports := h.ports.insert id
          { p with closed := true, queue := p.queue ++ [.abort] } } := by
      simp [InProcessHost.close, closePort, hp, hopen]
    rw [hclose]
    exact ⟨h.slots.remove_held _, entryOf_setPort _ id _, Or.inr ⟨by simp, rfl⟩⟩
  | channel id =>
    obtain ⟨c, hc, he⟩ := Option.map_eq_some_iff.1 hentry
    obtain ⟨hopen, rfl, rfl⟩ := Entry.mk.injEq .. ▸ he
    have hclose : h.close (.channel id) = (({ h with
        channels := h.channels.insert id { c with closed := true } }.pushFrame c.peer
          .finish).pushFrame id .abort).release c.slot := by
      simp [InProcessHost.close, closeChannel, hc, hopen]
    rw [hclose]
    refine ⟨h.slots.remove_held _, fun y => ?_, Or.inr ⟨by simp, rfl⟩⟩
    exact (entryOf_pushFrame _ id .abort y).trans
      ((entryOf_pushFrame _ c.peer .finish y).trans (entryOf_setChannel h id _ y))
  | server id => cases hentry

end InProcessHost

end SyscallBridge
