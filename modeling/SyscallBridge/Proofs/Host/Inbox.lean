import SyscallBridge.Proofs.Host.Run

/-!
# Inboxes

Those who wait for a resource wait at its queue, and learn that it was closed from a mark that the
closing leaves there. An inbox is what of a resource this takes: whether it is closed, and how many
marks its queue still holds. Each act on the host is told here by what it does to the inboxes.
-/

namespace SyscallBridge

open InProcess

namespace Assoc

variable {κ ν β : Type} [DecidableEq κ] {g : ν → β}

theorem map_find?_modify {f : ν → ν} (hf : ∀ v, g (f v) = g v) (m : Assoc κ ν) (k l : κ) :
    ((m.modify k f).find? l).map g = (m.find? l).map g := by
  rw [find?_modify]
  split
  · rename_i hl
    rw [hl, Option.map_map]
    exact congrArg (Option.map · (m.find? k)) (funext hf)
  · rfl

end Assoc

def Resource.number : Resource → Nat
  | .listener id | .stream id | .port id | .channel id | .server id => id

/-- What those who wait for a resource can learn of it, and the number of its other side. -/
structure Inbox where
  closed : Bool
  /-- Marks of the closing that nobody has taken yet. -/
  aborts : Nat
  other : Option Nat

/-- The inbox of a resource that is closed, if it is not closed already. -/
def Inbox.shut (b : Inbox) : Inbox :=
  if b.closed then b else { b with closed := true, aborts := b.aborts + 1 }

namespace Inbox

theorem shut_other (b : Inbox) : b.shut.other = b.other := by
  unfold shut
  split <;> rfl

theorem shut_closed (b : Inbox) : b.shut.closed = true := by
  unfold shut
  split
  · assumption
  · rfl

theorem shut_aborts (b : Inbox) : b.shut.aborts = if b.closed then b.aborts else b.aborts + 1 := by
  unfold shut
  split <;> rfl

end Inbox

namespace InProcess

def Listener.inbox (l : Listener) : Inbox := ⟨l.closed, l.queue.count .abort, none⟩

def Stream.inbox (s : Stream) : Inbox := ⟨s.closed, s.queue.count .abort, some s.peer⟩

def Port.inbox (p : Port) : Inbox := ⟨p.closed, p.queue.count .abort, none⟩

def Channel.inbox (c : Channel) : Inbox := ⟨c.closed, c.queue.count .abort, some c.peer⟩

/-- Nobody closes a server while it is waited for. -/
def Server.inbox (_ : Server) : Inbox := ⟨false, 0, none⟩

end InProcess

namespace InProcessHost

def inbox? (h : InProcessHost) : Resource → Option Inbox
  | .listener id => (h.listeners.find? id).map Listener.inbox
  | .stream id => (h.streams.find? id).map Stream.inbox
  | .port id => (h.ports.find? id).map Port.inbox
  | .channel id => (h.channels.find? id).map Channel.inbox
  | .server id => (h.servers.find? id).map Server.inbox

variable {h h' : InProcessHost} {x y : Resource} {q : Request}

theorem isClosed_eq (h : InProcessHost) (x : Resource) :
    h.isClosed x = (h.inbox? x).any (·.closed) := by
  cases x with
  | server id => cases hs : h.servers.find? id <;> simp [isClosed, inbox?, hs, Server.inbox]
  | listener id => simp only [isClosed, inbox?, Option.any_map]; rfl
  | stream id => simp only [isClosed, inbox?, Option.any_map]; rfl
  | port id => simp only [isClosed, inbox?, Option.any_map]; rfl
  | channel id => simp only [isClosed, inbox?, Option.any_map]; rfl

/-! ### One resource is put in its place -/

theorem inbox?_setListener (h : InProcessHost) (id : Nat) (l : Listener) (y : Resource) :
    inbox? { h with listeners := h.listeners.insert id l } y =
      if y = .listener id then some l.inbox else h.inbox? y := by
  cases y with
  | listener n =>
    simp only [inbox?, Assoc.find?_insert, Resource.listener.injEq]
    split <;> rfl
  | stream | port | channel | server => exact (if_neg (by simp)).symm

theorem inbox?_setStream (h : InProcessHost) (id : Nat) (s : Stream) (y : Resource) :
    inbox? { h with streams := h.streams.insert id s } y =
      if y = .stream id then some s.inbox else h.inbox? y := by
  cases y with
  | stream n =>
    simp only [inbox?, Assoc.find?_insert, Resource.stream.injEq]
    split <;> rfl
  | listener | port | channel | server => exact (if_neg (by simp)).symm

theorem inbox?_setPort (h : InProcessHost) (id : Nat) (p : Port) (y : Resource) :
    inbox? { h with ports := h.ports.insert id p } y =
      if y = .port id then some p.inbox else h.inbox? y := by
  cases y with
  | port n =>
    simp only [inbox?, Assoc.find?_insert, Resource.port.injEq]
    split <;> rfl
  | listener | stream | channel | server => exact (if_neg (by simp)).symm

theorem inbox?_setChannel (h : InProcessHost) (id : Nat) (c : Channel) (y : Resource) :
    inbox? { h with channels := h.channels.insert id c } y =
      if y = .channel id then some c.inbox else h.inbox? y := by
  cases y with
  | channel n =>
    simp only [inbox?, Assoc.find?_insert, Resource.channel.injEq]
    split <;> rfl
  | listener | stream | port | server => exact (if_neg (by simp)).symm

theorem inbox?_setServer (h : InProcessHost) (id : Nat) (s : Server) (y : Resource) :
    inbox? { h with servers := h.servers.insert id s } y =
      if y = .server id then some s.inbox else h.inbox? y := by
  cases y with
  | server n =>
    simp only [inbox?, Assoc.find?_insert, Resource.server.injEq]
    split <;> rfl
  | listener | stream | port | channel => exact (if_neg (by simp)).symm

/-! ### Acts that take nothing -/

/-- Every inbox stays as it is, but for new ones under new numbers. A new number may be left without
one. -/
structure KeepsInboxes (h h' : InProcessHost) : Prop where
  nextId : h.nextId ≤ h'.nextId
  inboxes : ∀ x, h'.inbox? x = h.inbox? x ∨
    h.nextId ≤ x.number ∧ x.number < h'.nextId ∧
      ∀ b, h'.inbox? x = some b → b.closed = false ∧ b.aborts = 0 ∧ b.other ≠ some x.number

theorem KeepsInboxes.refl (h : InProcessHost) : KeepsInboxes h h :=
  ⟨Nat.le_refl _, fun _ => Or.inl rfl⟩

theorem keepsInboxes_of_eq (hn : h.nextId ≤ h'.nextId) (hi : ∀ x, h'.inbox? x = h.inbox? x) :
    KeepsInboxes h h' := ⟨hn, fun x => Or.inl (hi x)⟩

theorem keepsInboxes_fresh (hx : x.number = h.nextId) (hn : h'.nextId = h.nextId + 1)
    (hi : ∀ y, h'.inbox? y = if y = x then some ⟨false, 0, none⟩ else h.inbox? y) :
    KeepsInboxes h h' := by
  refine ⟨by omega, fun y => ?_⟩
  rw [hi]
  split
  · rename_i hy
    subst hy
    refine Or.inr ⟨by omega, by omega, fun b hb => ?_⟩
    cases hb
    exact ⟨rfl, rfl, by simp⟩
  · exact Or.inl rfl

theorem keepsInboxes_fresh_pair (hx : x.number = h.nextId) (hy : y.number = h.nextId + 1)
    (hn : h'.nextId = h.nextId + 2)
    (hi : ∀ z, h'.inbox? z = if z = y then some ⟨false, 0, some x.number⟩
      else if z = x then some ⟨false, 0, some y.number⟩ else h.inbox? z) : KeepsInboxes h h' := by
  refine ⟨by omega, fun z => ?_⟩
  rw [hi]
  split
  · rename_i hz
    subst hz
    refine Or.inr ⟨by omega, by omega, fun b hb => ?_⟩
    cases hb
    exact ⟨rfl, rfl, by simp [hx, hy]⟩
  · split
    · rename_i hz
      subst hz
      refine Or.inr ⟨by omega, by omega, fun b hb => ?_⟩
      cases hb
      exact ⟨rfl, rfl, by simp [hx, hy]⟩
    · exact Or.inl rfl

/-- A pair that was made and dropped leaves no inbox. -/
theorem keepsInboxes_undone (made : Nat → Resource) (hmade : ∀ id, (made id).number = id)
    (hn : h'.nextId = h.nextId + 2)
    (hi : ∀ z, (∀ id, z ≠ made id) → h'.inbox? z = h.inbox? z)
    (hnew : ∀ id, h'.inbox? (made id) =
      if id = h.nextId + 1 ∨ id = h.nextId then none else h.inbox? (made id)) :
    KeepsInboxes h h' := by
  refine ⟨by omega, fun z => ?_⟩
  by_cases hz : ∃ id, z = made id
  · obtain ⟨id, rfl⟩ := hz
    rw [hnew, hmade]
    split
    · exact Or.inr ⟨by omega, by omega, fun b hb => nomatch hb⟩
    · exact Or.inl rfl
  · exact Or.inl (hi z fun id he => hz ⟨id, he⟩)

theorem inbox?_queueArrival (h : InProcessHost) (l : Nat) (c : ConnectionHandle) (x : Resource) :
    inbox? { h with
      listeners := h.listeners.modify l fun l => { l with
        queue := l.queue ++ [.connection c] } } x = h.inbox? x := by
  cases x with
  | listener id =>
    refine Assoc.map_find?_modify (fun l => ?_) _ _ _
    simp [Listener.inbox]
  | stream | port | channel | server => rfl

theorem inbox?_queueChannel (h : InProcessHost) (server : Nat) (c : ChannelHandle) (x : Resource) :
    inbox? { h with
      servers := h.servers.modify server fun s => { s with queue := s.queue ++ [c] } } x =
      h.inbox? x := by
  cases x with
  | server id =>
    refine Assoc.map_find?_modify (fun s => ?_) _ _ _
    rfl
  | listener | stream | port | channel => rfl

theorem inbox?_dialed (h : InProcessHost) (z : Resource) :
    inbox? { h with streams := h.dialed } z =
      if z = .stream (h.nextId + 1) then some ⟨false, 0, some h.nextId⟩
      else if z = .stream h.nextId then some ⟨false, 0, some (h.nextId + 1)⟩
      else h.inbox? z := by
  refine (inbox?_setStream { h with streams := h.streams.insert h.nextId _ } (h.nextId + 1) _ z).trans ?_
  rw [inbox?_setStream]
  rfl

theorem inbox?_dialedChannels (h : InProcessHost) (z : Resource) :
    inbox? { h with channels := h.dialedChannels } z =
      if z = .channel (h.nextId + 1) then some ⟨false, 0, some h.nextId⟩
      else if z = .channel h.nextId then some ⟨false, 0, some (h.nextId + 1)⟩
      else h.inbox? z := by
  refine (inbox?_setChannel { h with channels := h.channels.insert h.nextId _ } (h.nextId + 1) _ z).trans ?_
  rw [inbox?_setChannel]
  rfl

theorem keepsInboxes_serve (h : InProcessHost) (url : String) : KeepsInboxes h (h.serve url).2 := by
  unfold serve
  split
  · exact .refl h
  · exact keepsInboxes_fresh (x := .server h.nextId) rfl rfl (inbox?_setServer h h.nextId { url })

theorem inbox?_pushSegment {segment : Segment} (hs : segment ≠ .abort) (h : InProcessHost)
    (id : Nat) (x : Resource) : (h.pushSegment id segment).inbox? x = h.inbox? x := by
  cases x with
  | stream n =>
    refine Assoc.map_find?_modify (fun s => ?_) _ _ _
    simp [Stream.inbox, hs]
  | listener | port | channel | server => rfl

theorem inbox?_pushFrame {frame : Frame} (hf : frame ≠ .abort) (h : InProcessHost) (id : Nat)
    (x : Resource) : (h.pushFrame id frame).inbox? x = h.inbox? x := by
  cases x with
  | channel n =>
    refine Assoc.map_find?_modify (fun c => ?_) _ _ _
    simp [Channel.inbox, hf]
  | listener | stream | port | server => rfl

theorem inbox?_pushDatagram (h : InProcessHost) (id : Nat) (sender : NetAddress) (data : Bytes)
    (x : Resource) : (h.pushPacket id (.datagram sender data)).inbox? x = h.inbox? x := by
  cases x with
  | port n =>
    refine Assoc.map_find?_modify (fun p => ?_) _ _ _
    simp [Port.inbox]
  | listener | stream | channel | server => rfl

/-- An answer that takes nothing from a queue takes nothing from any inbox. -/
theorem Served.keepsInboxes {made : List Opening} (hs : Served h q made none h') :
    KeepsInboxes h h' := by
  cases hs with
  | nothing => exact .refl h
  | searches => exact keepsInboxes_of_eq (Nat.le_refl _) fun x => by cases x <;> rfl
  | listens =>
    exact keepsInboxes_fresh (x := .listener h.nextId) rfl rfl (inbox?_setListener h h.nextId _)
  | opensPort => exact keepsInboxes_fresh (x := .port h.nextId) rfl rfl (inbox?_setPort h h.nextId _)
  | @dials _ next l c =>
    refine keepsInboxes_fresh_pair (x := .stream h.nextId) (y := .stream (h.nextId + 1)) rfl rfl rfl
      fun z => ?_
    exact (inbox?_queueArrival _ l c z).trans (inbox?_dialed h z)
  | undials _ _ _ find =>
    refine keepsInboxes_undone .stream (fun _ => rfl) rfl (fun z hz => ?_) fun id => ?_
    · cases z with
      | stream id => exact absurd rfl (hz id)
      | listener | port | channel | server => rfl
    · simp only [inbox?, find]
      split <;> rfl
  | @dialsChannel server c =>
    refine keepsInboxes_fresh_pair (x := .channel h.nextId) (y := .channel (h.nextId + 1)) rfl rfl
      rfl fun z => ?_
    exact (inbox?_queueChannel _ server c z).trans (inbox?_dialedChannels h z)
  | undialsChannel _ _ find =>
    refine keepsInboxes_undone .channel (fun _ => rfl) rfl (fun z hz => ?_) fun id => ?_
    · cases z with
      | channel id => exact absurd rfl (hz id)
      | listener | stream | port | server => rfl
    · simp only [inbox?, find]
      split <;> rfl
  | @writes id data =>
    have hdata : Segment.data data ≠ .abort := by simp
    exact keepsInboxes_of_eq (Nat.le_refl _) (inbox?_pushSegment hdata h id)
  | sends => exact keepsInboxes_of_eq (Nat.le_refl _) (inbox?_pushDatagram h _ _ _)
  | @sendsMessage id m =>
    have hmessage : Frame.message m ≠ .abort := by simp
    exact keepsInboxes_of_eq (Nat.le_refl _) (inbox?_pushFrame hmessage h id)

/-- A request that does not wait takes nothing from any inbox. -/
theorem keepsInboxes_poll? {answer : Except HostFailure q.Answer} (hq : q.waits? = none)
    (hp : h.poll? q = some (answer, h')) : KeepsInboxes h h' := by
  have hserved := served_poll? hp
  rw [hq] at hserved
  exact hserved.keepsInboxes

/-! ### Acts that take from a queue -/

/-- One inbox loses some marks and nothing else changes. -/
structure Takes (h h' : InProcessHost) (x : Resource) (taken : Nat) : Prop where
  nextId : h'.nextId = h.nextId
  others : ∀ y, y ≠ x → h'.inbox? y = h.inbox? y
  inbox : ∃ b, h'.inbox? x = some b ∧ h.inbox? x = some { b with aborts := b.aborts + taken }

theorem takes_of_set {n : Nat} {b : Inbox} (hn : h'.nextId = h.nextId)
    (hi : ∀ y, h'.inbox? y = if y = x then some b else h.inbox? y)
    (hx : h.inbox? x = some { b with aborts := b.aborts + n }) : Takes h h' x n := by
  refine ⟨hn, fun y hy => ?_, b, ?_, hx⟩
  · rw [hi, if_neg hy]
  · rw [hi, if_pos rfl]

/-- An answer that takes from a queue takes its marks from one inbox. -/
theorem Served.takes {made : List Opening} {n : Nat} (hs : Served h q made (some (x, n)) h') :
    Takes h h' x n := by
  cases hs with
  | @accepts id n l queue found count =>
    refine takes_of_set rfl (inbox?_setListener h id { l with queue }) ?_
    simp only [inbox?, found, Option.map_some, Listener.inbox, count]
  | @reads id n s s' kind found fixed count =>
    refine takes_of_set rfl (inbox?_setStream h id s') ?_
    simp only [inbox?, found, Option.map_some, Stream.inbox, fixed, count]
  | @receives id n p queue kind found count =>
    refine takes_of_set rfl (inbox?_setPort h id { p with queue }) ?_
    simp only [inbox?, found, Option.map_some, Port.inbox, count]
  | @receivesMessage id n c queue kind found count =>
    refine takes_of_set rfl (inbox?_setChannel h id { c with queue }) ?_
    simp only [inbox?, found, Option.map_some, Channel.inbox, count]
  | @acceptsChannel id s queue found =>
    refine takes_of_set rfl (inbox?_setServer h id { s with queue }) ?_
    simp only [inbox?, found, Option.map_some]
    rfl

/-- A request that waits takes a mark exactly if it is told so. -/
theorem takes_poll? {answer : Except HostFailure q.Answer} (hx : q.waits? = some x)
    (hp : h.poll? q = some (answer, h')) : Takes h h' x (marks answer) := by
  have hserved := served_poll? hp
  rw [hx] at hserved
  exact hserved.takes

/-! ### Ends -/

theorem inbox?_pushAbort_stream (h : InProcessHost) (id : Nat) (y : Resource) :
    (h.pushSegment id .abort).inbox? y = if y = .stream id then
      (h.inbox? y).map fun b => { b with aborts := b.aborts + 1 } else h.inbox? y := by
  cases y with
  | stream n =>
    simp only [inbox?, pushSegment, Assoc.find?_modify, Resource.stream.injEq]
    split
    · rename_i hn
      rw [hn]
      cases h.streams.find? id with
      | none => rfl
      | some s => simp [Stream.inbox]
    · rfl
  | listener | port | channel | server => exact (if_neg (by simp)).symm

theorem inbox?_pushAbort_channel (h : InProcessHost) (id : Nat) (y : Resource) :
    (h.pushFrame id .abort).inbox? y = if y = .channel id then
      (h.inbox? y).map fun b => { b with aborts := b.aborts + 1 } else h.inbox? y := by
  cases y with
  | channel n =>
    simp only [inbox?, pushFrame, Assoc.find?_modify, Resource.channel.injEq]
    split
    · rename_i hn
      rw [hn]
      cases h.channels.find? id with
      | none => rfl
      | some c => simp [Channel.inbox]
    · rfl
  | listener | stream | port | server => exact (if_neg (by simp)).symm

theorem inbox?_release (h : InProcessHost) (id : Nat) (y : Resource) :
    (h.release id).inbox? y = h.inbox? y := by
  cases y <;> rfl

theorem inbox?_unchanged (hx : (h.inbox? x).map Inbox.shut = h.inbox? x) (y : Resource) :
    h.inbox? y = if y = x then (h.inbox? x).map Inbox.shut else h.inbox? y := by
  split
  · rename_i hy
    rw [hy, hx]
  · rfl

theorem inbox?_closeListener (h : InProcessHost) (id : Nat) (y : Resource) :
    (h.closeListener id).inbox? y = if y = .listener id then
      (h.inbox? (.listener id)).map Inbox.shut else h.inbox? y := by
  unfold closeListener
  split
  · rename_i hnone
    exact inbox?_unchanged (by simp only [inbox?, hnone, Option.map_none]) y
  · rename_i l hl
    split
    · rename_i hclosed
      exact inbox?_unchanged (by simp [inbox?, hl, Inbox.shut, Listener.inbox, hclosed]) y
    · rename_i hopen
      have hshut : some (Listener.inbox { l with closed := true, queue := l.queue ++ [.abort] }) =
          (h.inbox? (.listener id)).map Inbox.shut := by
        simp [inbox?, hl, Inbox.shut, Listener.inbox, hopen]
      rw [← hshut]
      exact inbox?_setListener h id _ y

theorem inbox?_closePort (h : InProcessHost) (id : Nat) (y : Resource) :
    (h.closePort id).inbox? y = if y = .port id then
      (h.inbox? (.port id)).map Inbox.shut else h.inbox? y := by
  unfold closePort
  split
  · rename_i hnone
    exact inbox?_unchanged (by simp only [inbox?, hnone, Option.map_none]) y
  · rename_i p hp
    split
    · rename_i hclosed
      exact inbox?_unchanged (by simp [inbox?, hp, Inbox.shut, Port.inbox, hclosed]) y
    · rename_i hopen
      have hshut : some (Port.inbox { p with closed := true, queue := p.queue ++ [.abort] }) =
          (h.inbox? (.port id)).map Inbox.shut := by
        simp [inbox?, hp, Inbox.shut, Port.inbox, hopen]
      rw [← hshut]
      exact inbox?_setPort h id _ y

theorem inbox?_closeStream (h : InProcessHost) (id : Nat) (y : Resource) :
    (h.closeStream id).inbox? y = if y = .stream id then
      (h.inbox? (.stream id)).map Inbox.shut else h.inbox? y := by
  unfold closeStream
  split
  · rename_i hnone
    exact inbox?_unchanged (by simp only [inbox?, hnone, Option.map_none]) y
  · rename_i s hs
    split
    · rename_i hclosed
      exact inbox?_unchanged (by simp [inbox?, hs, Inbox.shut, Stream.inbox, hclosed]) y
    · rename_i hopen
      have hfinish : Segment.finish ≠ .abort := by simp
      dsimp only
      rw [inbox?_release, inbox?_pushAbort_stream, inbox?_pushSegment hfinish, inbox?_setStream]
      split
      · simp [inbox?, hs, Inbox.shut, Stream.inbox, hopen]
      · rfl

theorem inbox?_closeChannel (h : InProcessHost) (id : Nat) (y : Resource) :
    (h.closeChannel id).inbox? y = if y = .channel id then
      (h.inbox? (.channel id)).map Inbox.shut else h.inbox? y := by
  unfold closeChannel
  split
  · rename_i hnone
    exact inbox?_unchanged (by simp only [inbox?, hnone, Option.map_none]) y
  · rename_i c hc
    split
    · rename_i hclosed
      exact inbox?_unchanged (by simp [inbox?, hc, Inbox.shut, Channel.inbox, hclosed]) y
    · rename_i hopen
      have hfinish : Frame.finish ≠ .abort := by simp
      dsimp only
      rw [inbox?_release, inbox?_pushAbort_channel, inbox?_pushFrame hfinish, inbox?_setChannel]
      split
      · simp [inbox?, hc, Inbox.shut, Channel.inbox, hopen]
      · rfl

/-- Closing shuts one inbox. -/
theorem inbox?_close (hx : ∀ id, x ≠ .server id) (y : Resource) :
    (h.close x).inbox? y = if y = x then (h.inbox? x).map Inbox.shut else h.inbox? y := by
  cases x with
  | listener id => exact inbox?_closeListener h id y
  | stream id => exact inbox?_closeStream h id y
  | port id => exact inbox?_closePort h id y
  | channel id => exact inbox?_closeChannel h id y
  | server id => exact absurd rfl (hx id)

theorem inbox?_forget (h : InProcessHost) (x y : Resource) :
    (h.forget x).inbox? y = if y = x then none else h.inbox? y := by
  cases x with
  | listener id =>
    cases y with
    | listener n =>
      simp only [inbox?, forget, Assoc.find?_erase, Resource.listener.injEq]
      split <;> rfl
    | stream | port | channel | server => exact (if_neg (by simp)).symm
  | stream id =>
    cases y with
    | stream n =>
      simp only [inbox?, forget, Assoc.find?_erase, Resource.stream.injEq]
      split <;> rfl
    | listener | port | channel | server => exact (if_neg (by simp)).symm
  | port id =>
    cases y with
    | port n =>
      simp only [inbox?, forget, Assoc.find?_erase, Resource.port.injEq]
      split <;> rfl
    | listener | stream | channel | server => exact (if_neg (by simp)).symm
  | channel id =>
    cases y with
    | channel n =>
      simp only [inbox?, forget, Assoc.find?_erase, Resource.channel.injEq]
      split <;> rfl
    | listener | stream | port | server => exact (if_neg (by simp)).symm
  | server id =>
    cases y with
    | server n =>
      simp only [inbox?, forget, Assoc.find?_erase, Resource.server.injEq]
      split <;> rfl
    | listener | stream | port | channel => exact (if_neg (by simp)).symm

theorem nextId_close (h : InProcessHost) (x : Resource) : (h.close x).nextId = h.nextId := by
  cases x with
  | listener id =>
    change (h.closeListener id).nextId = _
    unfold closeListener
    split
    · rfl
    · split <;> rfl
  | stream id =>
    change (h.closeStream id).nextId = _
    unfold closeStream
    split
    · rfl
    · split <;> rfl
  | port id =>
    change (h.closePort id).nextId = _
    unfold closePort
    split
    · rfl
    · split <;> rfl
  | channel id =>
    change (h.closeChannel id).nextId = _
    unfold closeChannel
    split
    · rfl
    · split <;> rfl
  | server => rfl

theorem nextId_forget (h : InProcessHost) (x : Resource) : (h.forget x).nextId = h.nextId := by
  cases x <;> rfl

theorem nextId_discard (h : InProcessHost) (x : Resource) : (h.discard x).nextId = h.nextId :=
  (nextId_forget _ x).trans (nextId_close h x)

/-- An act that takes nothing keeps the inboxes, or closes or drops a resource. -/
theorem act_inboxes (a : HostAct) (hreq : ∀ q, a = .request q → q.waits? = none) :
    KeepsInboxes h (h.act a) ∨ ∃ y, a = .close y ∨ a = .drop y := by
  cases a with
  | request q =>
    refine Or.inl (act_request_induct (motive := KeepsInboxes h) q (.refl h) fun answer h' hp => ?_)
    exact keepsInboxes_poll? (hreq q rfl) hp
  | close y => exact Or.inr ⟨y, Or.inl rfl⟩
  | drop y => exact Or.inr ⟨y, Or.inr rfl⟩
  | serve url => exact Or.inl (keepsInboxes_serve h url)
  | addName | log | takeLogs =>
    exact Or.inl (keepsInboxes_of_eq (Nat.le_refl _) fun x => by cases x <;> rfl)

end InProcessHost

end SyscallBridge
