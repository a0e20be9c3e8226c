import SyscallBridge.Proofs.Host.ClosedResources
import SyscallBridge.Proofs.Host.Kinds

/-!
# The end of a message channel

The two sides of a channel are made together, and nobody else puts frames into their queues. A side
gets the end when the other one is closed, so nothing but the mark of its own closing can come
behind the end, and a side that has taken the end has an empty queue until it is closed itself.
-/

namespace SyscallBridge.InProcess

def Frame.message? : Frame → Option Message
  | .message m => some m
  | .finish | .abort => none

end SyscallBridge.InProcess

namespace SyscallBridge.InProcessHost

open InProcess

variable {h h' : InProcessHost} {x y : Nat} {c c' : Channel}

/-- The side of a channel is there and open. -/
def isOpenChannel (h : InProcessHost) (id : Nat) : Bool :=
  (h.channels.find? id).any fun c => !c.closed

theorem isOpenChannel_of_find? (hc : h.channels.find? x = some c) :
    h.isOpenChannel x = !c.closed := by
  rw [isOpenChannel, hc, Option.any_some]

theorem find?_pushFrame (h : InProcessHost) (id : Nat) (frame : Frame) (x : Nat) :
    (h.pushFrame id frame).channels.find? x =
      if x = id then (h.channels.find? id).map fun c => { c with queue := c.queue ++ [frame] }
      else h.channels.find? x := Assoc.find?_modify _ _ _ _

/-- What an act sends from a side of a channel. -/
def sentBy (h : InProcessHost) (w : Nat) : HostAct → List Message
  | .request (.sendMessage c m) =>
    if c.id = w then
      match (h.sendMessage c.id m).1 with
      | .ok _ => [m]
      | .error _ => []
    else []
  | _ => []

/-- What an act receives on a side of a channel. -/
def gotBy (h : InProcessHost) (r : Nat) : HostAct → List Message
  | .request (.receiveMessage c) =>
    if c.id = r then
      match h.receiveMessage? c.id with
      | some (.ok m, _) => [m]
      | _ => []
    else []
  | _ => []

/-- What a request whose turn it is does to the channels. -/
inductive ChannelTurn (h : InProcessHost) : Request → InProcessHost → Prop where
  | keeps {q : Request} {h' : InProcessHost} (channels : h'.channels = h.channels)
    (nextId : h.nextId ≤ h'.nextId) (sent : ∀ w, h.sentBy w (.request q) = [])
    (got : ∀ r, h.gotBy r (.request q) = []) : ChannelTurn h q h'
  | dials {url : String} {h' : InProcessHost} (channels : h'.channels = h.dialedChannels)
    (nextId : h'.nextId = h.nextId + 2) : ChannelTurn h (.dialChannel url) h'
  | undials {url : String} {h' : InProcessHost} (found : ∀ y, h'.channels.find? y =
      if y = h.nextId + 1 ∨ y = h.nextId then none else h.channels.find? y)
    (nextId : h'.nextId = h.nextId + 2) : ChannelTurn h (.dialChannel url) h'
  | sends {c : ChannelHandle} {m : Message} {side : Channel}
    (found : h.channels.find? c.id = some side) (isOpen : side.closed = false)
    (sent : ∀ w, h.sentBy w (.request (.sendMessage c m)) = if c.id = w then [m] else []) :
    ChannelTurn h (.sendMessage c m) (h.pushFrame side.peer (.message m))
  | receives {c : ChannelHandle} {side : Channel} {frame : Frame} {queue : List Frame}
    (found : h.channels.find? c.id = some side) (next : side.queue = frame :: queue)
    (got : ∀ r, h.gotBy r (.request (.receiveMessage c)) =
      if c.id = r then frame.message?.toList else []) :
    ChannelTurn h (.receiveMessage c)
      { h with channels := h.channels.insert c.id { side with queue } }

theorem channelTurn_send (h : InProcessHost) (c : ChannelHandle) (m : Message) :
    ChannelTurn h (.sendMessage c m) (h.act (.request (.sendMessage c m))) := by
  change ChannelTurn h (.sendMessage c m) (h.sendMessage c.id m).2
  rcases sendMessage_cases h c.id m with ⟨f, hf⟩ | ⟨side, hside, hopen, hok⟩
  · have hsent (w : Nat) : h.sentBy w (.request (.sendMessage c m)) = [] := by
      simp only [sentBy, hf, ite_self]
    rw [hf]
    exact .keeps rfl (Nat.le_refl _) hsent fun _ => rfl
  · have hsent (w : Nat) :
        h.sentBy w (.request (.sendMessage c m)) = if c.id = w then [m] else [] := by
      simp only [sentBy, hok]
    rw [hok]
    exact .sends hside hopen hsent

theorem channelTurn_receive (h : InProcessHost) (c : ChannelHandle) :
    ChannelTurn h (.receiveMessage c) (h.act (.request (.receiveMessage c))) := by
  cases hp : h.receiveMessage? c.id with
  | none =>
    have hact : h.act (.request (.receiveMessage c)) = h := act_request_of_none hp
    have hgot (r : Nat) : h.gotBy r (.request (.receiveMessage c)) = [] := by
      simp only [gotBy, hp, ite_self]
    rw [hact]
    exact .keeps rfl (Nat.le_refl _) (fun _ => rfl) hgot
  | some result =>
    obtain ⟨answer, h'⟩ := result
    have hact : h.act (.request (.receiveMessage c)) = h' := act_request hp
    obtain ⟨side, frame, queue, hside, hqueue, hanswer, rfl⟩ := receiveMessage?_eq_some hp
    have hgot (r : Nat) : h.gotBy r (.request (.receiveMessage c)) =
        if c.id = r then frame.message?.toList else [] := by
      rcases hanswer with ⟨rfl, rfl⟩ | ⟨rfl, rfl⟩ | ⟨m, rfl, rfl⟩ <;> simp only [gotBy, hp] <;> rfl
    rw [hact]
    exact .receives hside hqueue hgot

theorem channelTurn_request (h : InProcessHost) (q : Request) :
    ChannelTurn h q (h.act (.request q)) := by
  have hspares := spares_act h (.request q)
  have hkeeps (hk : q.kind? ≠ some .channel) (sent : ∀ w, h.sentBy w (.request q) = [])
      (got : ∀ r, h.gotBy r (.request q) = []) : ChannelTurn h q (h.act (.request q)) :=
    .keeps (hspares.channels hk) hspares.nextId sent got
  cases q with
  | dialChannel url =>
    refine act_request_induct _ (.keeps rfl (Nat.le_refl _) (fun _ => rfl) fun _ => rfl)
      fun answer h' hp => ?_
    rcases dialChannel_eq_some hp with ⟨f, -, rfl⟩ | ⟨server, -, rfl⟩ |
      ⟨slots, channels, -, rfl, -, hfind⟩
    · exact .keeps rfl (Nat.le_refl _) (fun _ => rfl) fun _ => rfl
    · exact .dials rfl rfl
    · exact .undials hfind rfl
  | sendMessage c m => exact channelTurn_send h c m
  | receiveMessage c => exact channelTurn_receive h c
  | dial protocol own peer =>
    cases protocol <;> exact hkeeps (by simp [Request.kind?]) (fun _ => rfl) fun _ => rfl
  | read c size | write c data =>
    obtain ⟨protocol, id, own, peer⟩ := c
    cases protocol <;>
      exact hkeeps (by simp [Request.kind?, ConnectionHandle.resource, Resource.kind])
        (fun _ => rfl) fun _ => rfl
  | resolve | listen | bindPort | accept | sendTo | receiveFrom | acceptChannel =>
    exact hkeeps (by simp [Request.kind?]) (fun _ => rfl) fun _ => rfl

/-- What an act does to the channels. -/
inductive ChannelMove (h : InProcessHost) : InProcessHost → Prop where
  | keeps {h' : InProcessHost} (channels : h'.channels = h.channels)
    (nextId : h.nextId ≤ h'.nextId) : ChannelMove h h'
  | dials {h' : InProcessHost} (channels : h'.channels = h.dialedChannels)
    (nextId : h'.nextId = h.nextId + 2) : ChannelMove h h'
  | undials {h' : InProcessHost} (found : ∀ y, h'.channels.find? y =
      if y = h.nextId + 1 ∨ y = h.nextId then none else h.channels.find? y)
    (nextId : h'.nextId = h.nextId + 2) : ChannelMove h h'
  | sends {id : Nat} {c : Channel} (found : h.channels.find? id = some c)
    (isOpen : c.closed = false) (m : Message) : ChannelMove h (h.pushFrame c.peer (.message m))
  | receives {id : Nat} {c : Channel} {frame : Frame} {queue : List Frame}
    (found : h.channels.find? id = some c) (next : c.queue = frame :: queue) :
    ChannelMove h { h with channels := h.channels.insert id { c with queue } }
  | closes {id : Nat} {c : Channel} (found : h.channels.find? id = some c)
    (isOpen : c.closed = false) : ChannelMove h (h.closeChannel id)
  | forgets (id : Nat) : ChannelMove h (h.forget (.channel id))

theorem ChannelMove.refl (h : InProcessHost) : ChannelMove h h := .keeps rfl (Nat.le_refl _)

theorem closeChannel_cases (h : InProcessHost) (id : Nat) :
    (h.isOpenChannel id = false ∧ h.closeChannel id = h) ∨
      ∃ c, h.channels.find? id = some c ∧ c.closed = false := by
  unfold isOpenChannel closeChannel
  cases hside : h.channels.find? id with
  | none => exact Or.inl ⟨rfl, rfl⟩
  | some side =>
    cases hclosed : side.closed with
    | true => exact Or.inl ⟨by simp [hclosed], by simp [hclosed]⟩
    | false => exact Or.inr ⟨side, rfl, hclosed⟩

theorem channelMove_close (h : InProcessHost) (id : Nat) : ChannelMove h (h.closeChannel id) := by
  rcases closeChannel_cases h id with ⟨-, heq⟩ | ⟨c, hc, hopen⟩
  · rw [heq]
    exact .refl h
  · exact .closes hc hopen

theorem ChannelTurn.move {q : Request} (ht : ChannelTurn h q h') : ChannelMove h h' := by
  cases ht with
  | keeps channels nextId => exact .keeps channels nextId
  | dials channels nextId => exact .dials channels nextId
  | undials found nextId => exact .undials found nextId
  | sends found isOpen => exact .sends found isOpen _
  | receives found next => exact .receives found next

theorem channelMove_request (h : InProcessHost) (q : Request) :
    ChannelMove h (h.act (.request q)) := (channelTurn_request h q).move

/-- A channel is closed and forgotten in two moves. -/
theorem discard_channels_induct {motive : InProcessHost → Prop} (start : motive h)
    (moves : ∀ g g', ChannelMove g g' → motive g → motive g') (x : Resource) :
    motive (h.discard x) := by
  have hspares := spares_discard h x
  cases x with
  | channel id => exact moves _ _ (.forgets id) (moves h _ (channelMove_close h id) start)
  | listener | stream | port | server =>
    exact moves h _ (.keeps (hspares.channels (by simp [Resource.kind])) hspares.nextId) start

/-- An act is a move, or some of them where channels are closed and forgotten. -/
theorem act_channels_induct {motive : InProcessHost → Prop} (start : motive h)
    (moves : ∀ g g', ChannelMove g g' → motive g → motive g') (a : HostAct) :
    motive (h.act a) := by
  have hspares := spares_act h a
  have hkeeps (hk : a.kind? ≠ some .channel) : motive (h.act a) :=
    moves h _ (.keeps (hspares.channels hk) hspares.nextId) start
  cases a with
  | request q => exact moves h _ (channelMove_request h q) start
  | close x =>
    cases x with
    | channel id => exact moves h _ (channelMove_close h id) start
    | listener | stream | port | server => exact hkeeps (by simp [HostAct.kind?, Resource.kind])
  | drop x =>
    exact drop_induct x (discard_channels_induct start moves x)
      fun y _ g hg => discard_channels_induct hg moves y
  | serve | addName | log | takeLogs => exact hkeeps (by simp [HostAct.kind?])

/-! ### Pairs -/

/-- The sides of channels come in pairs: each has another one as its other side, which has it as
its own. The end stands in a queue only when the other side is not open, and before nothing but
marks of the closing of this side. -/
structure Orderly (h : InProcessHost) : Prop where
  numbered : ∀ x c, h.channels.find? x = some c → x < h.nextId ∧ c.peer < h.nextId
  apart : ∀ x c, h.channels.find? x = some c → c.peer ≠ x
  paired : ∀ x c d, h.channels.find? x = some c → h.channels.find? c.peer = some d → d.peer = x
  ended : ∀ x c, h.channels.find? x = some c → .finish ∈ c.queue → h.isOpenChannel c.peer = false
  last : ∀ x c, h.channels.find? x = some c →
    c.queue.Pairwise fun before after => before = .finish → after = .abort

theorem orderly_start : Orderly {} where
  numbered _ _ hc := nomatch hc
  apart _ _ hc := nomatch hc
  paired _ _ _ hc := nomatch hc
  ended _ _ hc := nomatch hc
  last _ _ hc := nomatch hc

/-- What a move does to the queue of a side whose other side is `peer`: an open other side gives
messages, and the end when it is closed. -/
inductive QueueMove (h h' : InProcessHost) (peer : Nat) (queue : List Frame) :
    List Frame → Prop where
  | same : QueueMove h h' peer queue queue
  | taken {frame : Frame} {rest : List Frame} (next : queue = frame :: rest) :
    QueueMove h h' peer queue rest
  | given (frame : Frame) (before : frame = .abort ∨ h.isOpenChannel peer = true)
    (after : frame = .finish → h'.isOpenChannel peer = false) :
    QueueMove h h' peer queue (queue ++ [frame])

/-- Where a side of a channel comes from. -/
inductive Origin (h h' : InProcessHost) (x : Nat) (c' : Channel) : Prop where
  | dialed (nextId : h'.nextId = h.nextId + 2)
    (pair : x = h.nextId ∧ c'.peer = h.nextId + 1 ∨ x = h.nextId + 1 ∧ c'.peer = h.nextId)
    (empty : c'.queue = [])
  | earlier (c : Channel) (found : h.channels.find? x = some c) (peer : c'.peer = c.peer)
    (closed : c.closed = true → c'.closed = true) (queue : QueueMove h h' c.peer c.queue c'.queue)

theorem find?_closeChannel {id : Nat} (hc : h.channels.find? id = some c) (hopen : c.closed = false)
    (hpeer : c.peer ≠ id) (x : Nat) : (h.closeChannel id).channels.find? x =
      if x = id then some { c with closed := true, queue := c.queue ++ [.abort] }
      else if x = c.peer then
        (h.channels.find? x).map fun d => { d with queue := d.queue ++ [.finish] }
      else h.channels.find? x := by
  simp only [closeChannel, hc, hopen, Bool.false_eq_true, if_false, release, find?_pushFrame,
    Assoc.find?_insert, if_true, if_neg hpeer.symm, if_neg hpeer, Option.map_some]
  split
  · rfl
  · split
    · rename_i hx
      rw [hx]
    · rfl

/-- To the other side of an open one, its own other side is open. -/
theorem Orderly.isOpen_of_peer (ho : h.Orderly) {id : Nat} {d : Channel}
    (hc : h.channels.find? id = some c) (hopen : c.closed = false)
    (hd : h.channels.find? c.peer = some d) : d.peer = id ∧ h.isOpenChannel d.peer = true := by
  have hpeer := ho.paired id c d hc hd
  refine ⟨hpeer, ?_⟩
  rw [hpeer, isOpenChannel_of_find? hc, hopen]
  rfl

theorem ChannelMove.origin (ho : h.Orderly) (hm : ChannelMove h h')
    (hc : h'.channels.find? x = some c') : Origin h h' x c' := by
  cases hm with
  | keeps channels =>
    rw [channels] at hc
    exact .earlier c' hc rfl id .same
  | dials channels nextId =>
    rw [channels, find?_dialedChannels] at hc
    split at hc
    · rename_i hx
      cases hc
      exact .dialed nextId (Or.inr ⟨hx, rfl⟩) rfl
    · split at hc
      · rename_i hx
        cases hc
        exact .dialed nextId (Or.inl ⟨hx, rfl⟩) rfl
      · exact .earlier c' hc rfl id .same
  | undials found nextId =>
    rw [found] at hc
    split at hc
    · cases hc
    · exact .earlier c' hc rfl id .same
  | sends found isOpen m =>
    rw [find?_pushFrame] at hc
    split at hc
    · rename_i hx
      obtain ⟨d, hd, rfl⟩ := Option.map_eq_some_iff.1 hc
      obtain ⟨-, hopen⟩ := ho.isOpen_of_peer found isOpen hd
      exact .earlier d (hx ▸ hd) rfl id (.given (.message m) (Or.inr hopen) (by simp))
    · exact .earlier c' hc rfl id .same
  | receives found next =>
    rename_i receiver side frame queue
    rw [Assoc.find?_insert] at hc
    split at hc
    · rename_i hx
      cases hc
      exact .earlier side (hx ▸ found) rfl id (.taken next)
    · exact .earlier c' hc rfl id .same
  | closes found isOpen =>
    -- the mark goes to the side that is closed, the end to the other one
    rename_i closing side
    have hfind := find?_closeChannel found isOpen (ho.apart closing side found)
    rw [hfind] at hc
    split at hc
    · rename_i hx
      cases hc
      exact .earlier side (hx ▸ found) rfl (fun _ => rfl) (.given .abort (Or.inl rfl) (by simp))
    · split at hc
      · rename_i hx
        obtain ⟨d, hd, rfl⟩ := Option.map_eq_some_iff.1 hc
        obtain ⟨hpeer, hopen⟩ := ho.isOpen_of_peer found isOpen (hx ▸ hd)
        have hclosed : (h.closeChannel closing).isOpenChannel d.peer = false := by
          rw [hpeer, isOpenChannel, hfind, if_pos rfl]
          rfl
        exact .earlier d hd rfl id (.given .finish (Or.inr hopen) fun _ => hclosed)
      · exact .earlier c' hc rfl id .same
  | forgets gone =>
    have hfind : (h.channels.erase gone).find? x = some c' := hc
    rw [Assoc.find?_erase] at hfind
    split at hfind
    · cases hfind
    · exact .earlier c' hfind rfl id .same

/-- A side that is open has been open since it was made. -/
theorem ChannelMove.isOpen_before (ho : h.Orderly) (hm : ChannelMove h h') (hx : x < h.nextId)
    (hopen : h'.isOpenChannel x = true) : h.isOpenChannel x = true := by
  obtain ⟨c', hc', hnot⟩ := (Option.any_eq_true _ _).1 hopen
  cases hm.origin ho hc' with
  | dialed nextId pair => omega
  | earlier c found peer closed =>
    rw [isOpenChannel_of_find? found]
    cases hclosed : c.closed with
    | false => rfl
    | true =>
      rw [closed hclosed] at hnot
      cases hnot

theorem ChannelMove.closed_after (ho : h.Orderly) (hm : ChannelMove h h') (hx : x < h.nextId)
    (hclosed : h.isOpenChannel x = false) : h'.isOpenChannel x = false := by
  cases hopen : h'.isOpenChannel x with
  | false => rfl
  | true =>
    rw [hm.isOpen_before ho hx hopen] at hclosed
    cases hclosed

theorem ChannelMove.nextId (hm : ChannelMove h h') : h.nextId ≤ h'.nextId := by
  cases hm with
  | keeps _ nextId => exact nextId
  | dials _ nextId | undials _ nextId => omega
  | sends | receives | forgets => exact Nat.le_refl _
  | closes =>
    rename_i id c found isOpen
    exact Nat.le_of_eq (nextId_close h (.channel id)).symm

theorem QueueMove.ended {peer : Nat} {queue queue' : List Frame}
    (hq : QueueMove h h' peer queue queue')
    (hended : .finish ∈ queue → h.isOpenChannel peer = false)
    (hkept : h.isOpenChannel peer = false → h'.isOpenChannel peer = false)
    (hmem : .finish ∈ queue') : h'.isOpenChannel peer = false := by
  cases hq with
  | same => exact hkept (hended hmem)
  | taken next => exact hkept (hended (next ▸ List.mem_cons_of_mem _ hmem))
  | given frame before after =>
    rcases List.mem_append.1 hmem with hmem | hmem
    · exact hkept (hended hmem)
    · exact after (List.mem_singleton.1 hmem).symm

theorem QueueMove.last {peer : Nat} {queue queue' : List Frame}
    (hq : QueueMove h h' peer queue queue')
    (hended : .finish ∈ queue → h.isOpenChannel peer = false)
    (hlast : queue.Pairwise fun before after => before = .finish → after = .abort) :
    queue'.Pairwise fun before after => before = .finish → after = .abort := by
  cases hq with
  | same => exact hlast
  | taken next =>
    rw [next] at hlast
    exact (List.pairwise_cons.1 hlast).2
  | given frame before after =>
    refine List.pairwise_append.2 ⟨hlast, List.pairwise_singleton _ _, ?_⟩
    intro first hmem frame' hframe hfinish
    rw [List.mem_singleton] at hframe
    rcases before with habort | hopen
    · exact hframe.trans habort
    · rw [hended (hfinish ▸ hmem)] at hopen
      cases hopen

theorem Orderly.move (ho : h.Orderly) (hm : ChannelMove h h') : h'.Orderly where
  numbered x c' hc' := by
    have hnext := hm.nextId
    cases hm.origin ho hc' with
    | dialed nextId pair => omega
    | earlier c found peer =>
      have := ho.numbered x c found
      omega
  apart x c' hc' := by
    cases hm.origin ho hc' with
    | dialed nextId pair => omega
    | earlier c found peer => exact peer ▸ ho.apart x c found
  paired x c' d' hc' hd' := by
    -- a new side cannot be paired with an earlier one, whose other side has a number already
    cases hm.origin ho hc' with
    | dialed nextId pair =>
      cases hm.origin ho hd' with
      | dialed _ pair' => omega
      | earlier d hd =>
        have := ho.numbered _ d hd
        omega
    | earlier c hc peer =>
      have hnumber := ho.numbered x c hc
      cases hm.origin ho hd' with
      | dialed _ pair' => omega
      | earlier d hd peer' =>
        rw [peer']
        exact ho.paired x c d hc (peer ▸ hd)
  ended x c' hc' hmem := by
    cases hm.origin ho hc' with
    | dialed nextId pair empty =>
      rw [empty] at hmem
      cases hmem
    | earlier c hc peer closed queue =>
      rw [peer]
      exact queue.ended (ho.ended x c hc) (hm.closed_after ho (ho.numbered x c hc).2) hmem
  last x c' hc' := by
    cases hm.origin ho hc' with
    | dialed nextId pair empty =>
      rw [empty]
      exact List.Pairwise.nil
    | earlier c hc peer closed queue => exact queue.last (ho.ended x c hc) (ho.last x c hc)

theorem Orderly.discard (ho : h.Orderly) (x : Resource) : (h.discard x).Orderly :=
  discard_channels_induct ho (fun _ _ hm ho => ho.move hm) x

theorem Orderly.act (ho : h.Orderly) (a : HostAct) : (h.act a).Orderly :=
  act_channels_induct ho (fun _ _ hm ho => ho.move hm) a

theorem Orderly.acts (ho : h.Orderly) (l : List HostAct) : (h.acts l).Orderly := by
  induction l generalizing h with
  | nil => exact ho
  | cons a l ih => exact ih (ho.act a)

/-! ### Behind the end -/

/-- Side `x` was there once; if it still is, its other side is not open, and its queue holds nothing
but marks of its own closing. -/
structure Quiet (x : Nat) (h : InProcessHost) : Prop where
  old : x < h.nextId
  nothing : ∀ c, h.channels.find? x = some c →
    h.isOpenChannel c.peer = false ∧ ∀ frame ∈ c.queue, frame = .abort

theorem Quiet.move (hq : Quiet x h) (ho : h.Orderly) (hm : ChannelMove h h') : Quiet x h' := by
  have hold := hq.old
  refine ⟨Nat.lt_of_lt_of_le hold hm.nextId, fun c' hc' => ?_⟩
  cases hm.origin ho hc' with
  | dialed nextId pair => omega
  | earlier c found peer closed queue =>
    obtain ⟨hclosed, habort⟩ := hq.nothing c found
    have hafter := hm.closed_after ho (ho.numbered x c found).2 hclosed
    refine ⟨peer ▸ hafter, fun frame hmem => ?_⟩
    generalize c'.queue = queue' at queue hmem
    cases queue with
    | same => exact habort frame hmem
    | taken next => exact habort frame (next ▸ List.mem_cons_of_mem _ hmem)
    | given given before after =>
      rcases List.mem_append.1 hmem with hmem | hmem
      · exact habort frame hmem
      · rw [List.mem_singleton.1 hmem]
        rcases before with habort | hopen
        · exact habort
        · rw [hopen] at hclosed
          cases hclosed

theorem Quiet.acts (hq : Quiet x h) (ho : h.Orderly) (l : List HostAct) : Quiet x (h.acts l) := by
  induction l generalizing h with
  | nil => exact hq
  | cons a l ih =>
    have hboth : Quiet x (h.act a) ∧ (h.act a).Orderly :=
      act_channels_induct (motive := fun g => Quiet x g ∧ g.Orderly) ⟨hq, ho⟩
        (fun _ _ hm hboth => ⟨hboth.1.move hboth.2 hm, hboth.2.move hm⟩) a
    exact ih hboth.1 hboth.2

/-- A side that has been told of the end is quiet from then on. -/
theorem Orderly.quiet_told (ho : h.Orderly) {c : ChannelHandle}
    (hp : h.receiveMessage? c.id = some (.error .connectionClosed, h')) : Quiet c.id h' := by
  obtain ⟨side, frame, queue, hside, hqueue, hanswer, rfl⟩ := receiveMessage?_eq_some hp
  have hfinish : frame = .finish := by
    rcases hanswer with ⟨hf, -⟩ | ⟨-, hframe⟩ | ⟨m, hf, -⟩
    · cases hf
    · exact hframe
    · cases hf
  subst hfinish
  have hmove : ChannelMove h { h with channels := h.channels.insert c.id { side with queue } } :=
    .receives hside hqueue
  obtain ⟨hnumber, hpeer⟩ := ho.numbered c.id side hside
  refine ⟨hnumber, fun d hd => ?_⟩
  rw [Assoc.find?_insert, if_pos rfl] at hd
  cases hd
  have hended := ho.ended c.id side hside (hqueue ▸ List.mem_cons_self)
  refine ⟨hmove.closed_after ho hpeer hended, fun frame hmem => ?_⟩
  have hlast := ho.last c.id side hside
  rw [hqueue] at hlast
  exact (List.pairwise_cons.1 hlast).1 frame hmem rfl

/-- What a quiet side is told, if anything, is that it was closed itself. -/
theorem Quiet.poll? {c : ChannelHandle} (hq : Quiet c.id h) {answer : Except HostFailure Message}
    (hp : h.poll? (.receiveMessage c) = some (answer, h')) : answer = .error .aborted := by
  obtain ⟨side, frame, queue, hside, hqueue, hanswer, -⟩ := receiveMessage?_eq_some hp
  have habort := (hq.nothing side hside).2 frame (hqueue ▸ List.mem_cons_self)
  rcases hanswer with ⟨hanswer, -⟩ | ⟨-, hframe⟩ | ⟨m, -, hframe⟩
  · exact hanswer
  · cases hframe.symm.trans habort
  · cases hframe.symm.trans habort

/-- A quiet side waits, unless it is closed. -/
theorem Quiet.answer? {c : ChannelHandle} (hq : Quiet c.id h) (hm : h.Marked)
    (there : (h.inbox? c.resource).isSome) : h.answer? (.receiveMessage c) =
      if h.isClosed c.resource then some (.error .aborted, h) else none := by
  obtain ⟨b, hb⟩ := Option.isSome_iff_exists.1 there
  obtain ⟨side, hside, rfl⟩ := Option.map_eq_some_iff.1 hb
  have hrefuses : h.refuses (.receiveMessage c) = h.isClosed c.resource := refuses_eq rfl
  rw [InProcessHost.answer?, hrefuses]
  split
  · rfl
  · rename_i hopen
    have hclosed : side.closed = false := by
      simpa [isClosed_eq, hb, Channel.inbox] using hopen
    have hempty : side.queue = [] := by
      rw [List.eq_nil_iff_forall_not_mem]
      intro frame hmem
      have habort := (hq.nothing side hside).2 frame hmem
      have hmark : 0 < side.inbox.aborts := List.count_pos_iff.2 (habort ▸ hmem)
      have := hm.closed _ _ hb hmark
      rw [Channel.inbox, hclosed] at this
      cases this
    change h.receiveMessage? c.id = none
    rw [receiveMessage?, hside]
    simp only [hempty]

end SyscallBridge.InProcessHost
