import SyscallBridge.Proofs.Host.LiveResources

/-!
# Arrivals

What is dialed to a listener waits in its queue and is accepted from there, first come first served.
The queue has the far side of each connection, which is the near one with the names exchanged.
-/

namespace SyscallBridge

open InProcess

def InProcess.Arrival.connection? : Arrival → Option ConnectionHandle
  | connection c => some c
  | abort => none

/-- The other side of a connection that was dialed. -/
def ConnectionHandle.farSide (c : ConnectionHandle) : ConnectionHandle :=
  ⟨c.protocol, c.id + 1, c.peer, c.own⟩

namespace InProcessHost

variable {h h' : InProcessHost} {n : Nat} {a : HostAct} {standing : List Opening} {l : List HostAct}

/-- The connections that wait at a listener. -/
def arrivals (h : InProcessHost) (n : Nat) : List ConnectionHandle :=
  ((h.listeners.find? n).map fun l => l.queue.filterMap Arrival.connection?).getD []

/-- The connection that an act dials to listener `n`. -/
def dialsBy (h : InProcessHost) (n : Nat) : HostAct → List ConnectionHandle
  | .request (.dial .tcp own peer) =>
    if h.listenerFor? peer = some n then
      match h.dialStream own peer with
      | some (.ok c, _) => [c]
      | _ => []
    else []
  | _ => []

/-- The connection that an act accepts from listener `n`. -/
def acceptsBy (h : InProcessHost) (n : Nat) : HostAct → List ConnectionHandle
  | .request (.accept l) =>
    if l.id = n then
      match h.takeArrival? n with
      | some (.ok c, _) => [c]
      | _ => []
    else []
  | _ => []

/-- All that is dialed to listener `n` in the course of some acts. -/
def dialsTo (h : InProcessHost) (n : Nat) : List HostAct → List ConnectionHandle
  | [] => []
  | a :: rest => h.dialsBy n a ++ (h.act a).dialsTo n rest

/-- All that is accepted from listener `n` in the course of some acts. -/
def acceptsFrom (h : InProcessHost) (n : Nat) : List HostAct → List ConnectionHandle
  | [] => []
  | a :: rest => h.acceptsBy n a ++ (h.act a).acceptsFrom n rest

/-! ### Listeners under acts -/

/-- Only listening, dialing over TCP and accepting is done to listeners. -/
def onListeners : Request → Bool
  | .listen .. | .dial .tcp .. | .accept _ => true
  | _ => false

theorem quiet_request {q : Request} (hq : onListeners q = false) :
    h.dialsBy n (.request q) = [] ∧ h.acceptsBy n (.request q) = [] := by
  cases q with
  | listen | accept => cases hq
  | dial protocol own peer =>
    cases protocol with
    | tcp => cases hq
    | udp => exact ⟨rfl, rfl⟩
  | resolve | bindPort | dialChannel | read | write | sendTo | receiveFrom | sendMessage
  | receiveMessage | acceptChannel => exact ⟨rfl, rfl⟩

theorem listeners_request {q : Request} (hq : onListeners q = false) :
    (h.act (.request q)).listeners = h.listeners := by
  refine act_request_induct (motive := fun g => g.listeners = h.listeners) q rfl
    fun answer h' hp => (served_poll? hp).listeners ?_ ?_
  · cases q with
    | listen | accept => cases hq
    | dial protocol own peer =>
      cases protocol with
      | tcp => cases hq
      | udp => exact Or.inr rfl
    | bindPort => exact Or.inr rfl
    | resolve | dialChannel | read | write | sendTo | receiveFrom | sendMessage | receiveMessage
    | acceptChannel => exact Or.inl rfl
  · cases q with
    | listen | accept => cases hq
    | read c size =>
      obtain ⟨protocol, id, own, peer⟩ := c
      cases protocol <;> simp [Request.waits?, ConnectionHandle.resource]
    | resolve | dial | bindPort | dialChannel | write | sendTo | receiveFrom | sendMessage
    | receiveMessage | acceptChannel => simp [Request.waits?, PortHandle.resource,
        ChannelHandle.resource]

theorem listeners_close {x : Resource} (hx : ∀ id, x ≠ .listener id) :
    (h.close x).listeners = h.listeners := by
  cases x with
  | listener id => exact absurd rfl (hx id)
  | stream id =>
    change (h.closeStream id).listeners = _
    unfold closeStream
    split
    · rfl
    · split <;> rfl
  | port id =>
    change (h.closePort id).listeners = _
    unfold closePort
    split
    · rfl
    · split <;> rfl
  | channel id =>
    change (h.closeChannel id).listeners = _
    unfold closeChannel
    split
    · rfl
    · split <;> rfl
  | server => rfl

/-! ### Queues under acts -/

theorem arrivals_of_eq (hl : h'.listeners.find? n = h.listeners.find? n) :
    h'.arrivals n = h.arrivals n := by
  rw [arrivals, hl, arrivals]

theorem arrivals_of_find? {l : Listener} (hl : h.listeners.find? n = some l) :
    h.arrivals n = l.queue.filterMap Arrival.connection? := by
  rw [arrivals, hl]
  rfl

theorem arrivals_of_absent (hl : h.listeners.find? n = none) : h.arrivals n = [] := by
  rw [arrivals, hl]
  rfl

theorem arrivals_close (h : InProcessHost) (x : Resource) :
    (h.close x).arrivals n = h.arrivals n := by
  by_cases hx : ∃ id, x = .listener id
  · obtain ⟨id, rfl⟩ := hx
    change (h.closeListener id).arrivals n = _
    unfold closeListener
    split
    · rfl
    · rename_i l hl
      split
      · rfl
      · simp only [arrivals, Assoc.find?_insert]
        split
        · rename_i hn
          simp [hn, hl, Arrival.connection?]
        · rfl
  · exact arrivals_of_eq (by rw [listeners_close fun id hid => hx ⟨id, hid⟩])

theorem arrivals_forget {x : Resource} (hx : x ≠ .listener n) :
    (h.forget x).arrivals n = h.arrivals n := by
  cases x with
  | listener id =>
    have hne : n ≠ id := fun heq => hx (heq ▸ rfl)
    exact arrivals_of_eq ((Assoc.find?_erase _ _ _).trans (if_neg hne))
  | stream | port | channel | server => rfl

theorem find?_forgetListener (h : InProcessHost) (n : Nat) :
    (h.forget (.listener n)).listeners.find? n = none :=
  (Assoc.find?_erase _ _ _).trans (if_pos rfl)

theorem arrivals_discard {x : Resource} (hx : x ≠ .listener n) :
    (h.discard x).arrivals n = h.arrivals n := (arrivals_forget hx).trans (arrivals_close h x)

theorem arrivals_drop {x : Resource} (hx : x ≠ .listener n) :
    (h.drop x).arrivals n = h.arrivals n := by
  refine drop_induct (motive := fun g => g.arrivals n = h.arrivals n) x (arrivals_discard hx)
    fun y hy g hg => (arrivals_discard ?_).trans hg
  rcases mem_queued hy with ⟨_, _, -, rfl⟩ | ⟨_, _, -, rfl⟩ <;> simp

theorem arrivals_dropped (h : InProcessHost) (n : Nat) :
    (h.drop (.listener n)).arrivals n = [] := by
  refine drop_induct (motive := fun g => g.arrivals n = []) (.listener n)
    (arrivals_of_absent (find?_forgetListener _ n)) fun y hy g hg => (arrivals_discard ?_).trans hg
  rcases mem_queued hy with ⟨_, _, -, rfl⟩ | ⟨_, _, -, rfl⟩ <;> simp

theorem Marked.absent (hm : h.Marked) (hn : h.nextId ≤ n) : h.listeners.find? n = none :=
  Option.map_eq_none_iff.1 (hm.inbox?_new (x := .listener n) hn)

/-- A dial that is answered is queued on the listener it is routed to, which is there. -/
theorem dialStream_of_route {own : Option NetAddress} {peer : NetAddress}
    {answer : Except HostFailure ConnectionHandle} (hroute : h.listenerFor? peer = some n)
    (hthere : h.listeners.contains n = true)
    (hd : h.dialStream own peer = some (answer, h')) :
    ∃ b, answer = .ok ⟨.tcp, h.nextId, b, peer⟩ ∧
      h'.listeners = h.listeners.modify n fun l =>
        { l with queue := l.queue ++ [.connection ⟨.tcp, h.nextId + 1, peer, b⟩] } := by
  simp only [dialStream, Option.bind_eq_bind, Option.bind_eq_some_iff] at hd
  obtain ⟨⟨started, g⟩, hstart, hrest⟩ := hd
  rcases startStream?_eq_some hstart with ⟨hnone, -, -⟩ | ⟨b, next, l, hl, -, rfl, rfl⟩
  · cases hnone.symm.trans hroute
  · cases hl.symm.trans hroute
    have hdelivered := (if_pos hthere).symm.trans (Option.some.inj hrest)
    cases hdelivered
    exact ⟨b, rfl, rfl⟩

theorem Tally.arrivals_dial (ht : h.Tally standing) (own : Option NetAddress)
    (peer : NetAddress) :
    (h.act (.request (.dial .tcp own peer))).arrivals n =
      h.arrivals n ++ (h.dialsBy n (.request (.dial .tcp own peer))).map (·.farSide) := by
  have hpoll : h.poll? (.dial .tcp own peer) = h.dialStream own peer := rfl
  cases hroute : h.listenerFor? peer with
  | none =>
    have hd : h.dialStream own peer = some (.error .connectionRefused, h) := by
      simp [dialStream, startStream?, hroute]
    rw [act_request (hpoll.trans hd)]
    simp [dialsBy, hroute]
  | some m =>
    obtain ⟨l, hl⟩ := ht.there_of_route hroute
    cases hd : h.dialStream own peer with
    | none =>
      rw [act_request_of_none (hpoll.trans hd)]
      simp [dialsBy, hd]
    | some result =>
      obtain ⟨answer, h'⟩ := result
      obtain ⟨b, rfl, hlisteners⟩ := dialStream_of_route hroute (ht.contains_of_route hroute) hd
      rw [act_request (hpoll.trans hd), arrivals, hlisteners, Assoc.find?_modify]
      by_cases hn : n = m
      · subst hn
        simp [hl, arrivals, dialsBy, hroute, hd, Arrival.connection?, ConnectionHandle.farSide]
      · have hne : some m ≠ some n := fun heq => hn (Option.some.inj heq).symm
        simp [hn, arrivals, dialsBy, hroute, Ne.symm hn]

theorem arrivals_accept (h : InProcessHost) (l : ListenerHandle) :
    h.arrivals n = h.acceptsBy n (.request (.accept l)) ++
      (h.act (.request (.accept l))).arrivals n := by
  have hpoll : h.poll? (.accept l) = h.takeArrival? l.id := rfl
  cases ht : h.takeArrival? l.id with
  | none =>
    have hnothing : h.acceptsBy n (.request (.accept l)) = [] := by
      simp only [acceptsBy]
      split
      · rename_i hn
        rw [← hn, ht]
      · rfl
    rw [act_request_of_none (hpoll.trans ht), hnothing, List.nil_append]
  | some result =>
    obtain ⟨answer, h'⟩ := result
    rw [act_request (hpoll.trans ht)]
    obtain ⟨listener, arrival, queue, hl, hq, hanswer, rfl⟩ := takeArrival?_eq_some ht
    by_cases hn : n = l.id
    · subst hn
      have hrest : arrivals { h with listeners := h.listeners.insert l.id { listener with queue } }
          l.id = queue.filterMap Arrival.connection? :=
        arrivals_of_find? (l := { listener with queue })
          ((Assoc.find?_insert _ _ _ _).trans (if_pos rfl))
      rw [arrivals_of_find? hl, hq, hrest]
      rcases hanswer with ⟨rfl, rfl⟩ | ⟨c, rfl, rfl⟩
      · simp [acceptsBy, ht, List.filterMap_cons, Arrival.connection?]
      · simp [acceptsBy, ht, Arrival.connection?]
    · have hother : acceptsBy h n (.request (.accept l)) = [] := if_neg (Ne.symm hn)
      rw [hother, List.nil_append]
      exact (arrivals_of_eq ((Assoc.find?_insert _ _ _ _).trans (if_neg hn))).symm

/-- What waited at a listener and what is dialed to it is what is accepted from it and what waits
then, in this order. -/
theorem Tally.arrivals_act (ht : h.Tally standing) (hm : h.Marked) (ha : a ≠ .drop (.listener n)) :
    h.arrivals n ++ (h.dialsBy n a).map (·.farSide) = h.acceptsBy n a ++ (h.act a).arrivals n := by
  have hquiet (hd : h.dialsBy n a = []) (hc : h.acceptsBy n a = [])
      (hsame : (h.act a).arrivals n = h.arrivals n) :
      h.arrivals n ++ (h.dialsBy n a).map (·.farSide) =
        h.acceptsBy n a ++ (h.act a).arrivals n := by
    rw [hd, hc, hsame, List.map_nil, List.append_nil, List.nil_append]
  cases a with
  | request q =>
    cases hq : onListeners q with
    | false =>
      obtain ⟨hdials, haccepts⟩ := quiet_request (h := h) (n := n) hq
      exact hquiet hdials haccepts (arrivals_of_eq (by rw [listeners_request hq]))
    | true =>
      cases q with
      | dial protocol own peer =>
        cases protocol with
        | tcp =>
          rw [ht.arrivals_dial]
          rfl
        | udp => cases hq
      | accept l =>
        rw [← arrivals_accept h l]
        exact List.append_nil _
      | listen protocol b =>
        refine hquiet rfl rfl ?_
        refine act_request_induct (motive := fun g => g.arrivals n = h.arrivals n) _ rfl
          fun answer h' hp => ?_
        rcases listen_eq_some hp with ⟨f, next, -, rfl⟩ | ⟨b, next, -, -, rfl, -⟩
        · rfl
        · by_cases hn : n = h.nextId
          · rw [arrivals_of_absent (hm.absent (Nat.le_of_eq hn.symm)), arrivals]
            simp [Assoc.find?_insert, hn]
          · exact arrivals_of_eq ((Assoc.find?_insert _ _ _ _).trans (if_neg hn))
      | resolve | bindPort | dialChannel | read | write | sendTo | receiveFrom | sendMessage
      | receiveMessage | acceptChannel => cases hq
  | close x => exact hquiet rfl rfl (arrivals_close h x)
  | drop x =>
    have hx : x ≠ .listener n := fun hx => ha (hx ▸ rfl)
    exact hquiet rfl rfl (arrivals_drop hx)
  | serve url =>
    refine hquiet rfl rfl ?_
    change (h.serve url).2.arrivals n = _
    unfold serve
    split <;> rfl
  | addName | log | takeLogs => exact hquiet rfl rfl rfl

/-! ### First come, first served -/

theorem Gone.find? (hg : Gone (.listener n) h) : h.listeners.find? n = none :=
  Option.map_eq_none_iff.1 hg.absent

/-- Nothing is dialed to a listener that is not there, and nothing is accepted from it. -/
theorem Tally.nothing_absent (ht : h.Tally standing) (hn : h.listeners.find? n = none)
    (a : HostAct) : h.dialsBy n a = [] ∧ h.acceptsBy n a = [] := by
  constructor
  · unfold dialsBy
    split
    · refine if_neg fun hroute => ?_
      obtain ⟨l, hl⟩ := ht.there_of_route hroute
      rw [hn] at hl
      cases hl
    · rfl
  · unfold acceptsBy
    split
    · split
      · rw [takeArrival?, hn]
      · rfl
    · rfl

/-- What was accepted from a listener and what waits there is what was dialed to it, in this order;
or the listener is gone, and what was accepted came first. -/
inductive Serves (h : InProcessHost) (n : Nat) (dials accepts : List ConnectionHandle) : Prop where
  | waiting (all : accepts ++ h.arrivals n = dials.map (·.farSide))
  | gone (gone : Gone (.listener n) h) (first : accepts <+: dials.map (·.farSide))

theorem Serves.accepts_first {dials accepts : List ConnectionHandle}
    (hs : h.Serves n dials accepts) : accepts <+: dials.map (·.farSide) := by
  cases hs with
  | waiting all => exact ⟨_, all⟩
  | gone gone first => exact first

theorem Serves.act {dials accepts : List ConnectionHandle} (hs : h.Serves n dials accepts)
    (ht : h.Tally standing) (hm : h.Marked) (a : HostAct) :
    (h.act a).Serves n (dials ++ h.dialsBy n a) (accepts ++ h.acceptsBy n a) := by
  cases hs with
  | gone gone first =>
    obtain ⟨hdials, haccepts⟩ := ht.nothing_absent gone.find? a
    rw [hdials, haccepts, List.append_nil, List.append_nil]
    exact .gone (gone.act a) first
  | waiting all =>
    by_cases ha : a = .drop (.listener n)
    · subst ha
      change Serves _ n (dials ++ []) (accepts ++ [])
      rw [List.append_nil, List.append_nil]
      by_cases hn : n < h.nextId
      · exact .gone (gone_drop hn) ⟨_, all⟩
      · -- a listener that is not there yet has been dialed by nobody
        have hbefore := arrivals_of_absent (hm.absent (Nat.le_of_not_lt hn))
        refine .waiting ?_
        rw [← all, hbefore]
        exact congrArg (accepts ++ ·) (arrivals_dropped h n)
    · refine .waiting ?_
      calc accepts ++ h.acceptsBy n a ++ (h.act a).arrivals n
          = accepts ++ (h.arrivals n ++ (h.dialsBy n a).map (·.farSide)) := by
            rw [List.append_assoc, ht.arrivals_act hm ha]
        _ = (dials ++ h.dialsBy n a).map (·.farSide) := by
            rw [← List.append_assoc, all, List.map_append]

theorem Serves.acts {dials accepts : List ConnectionHandle} (hs : h.Serves n dials accepts)
    (ht : h.Tally standing) (hm : h.Marked) (l : List HostAct) :
    (h.acts l).Serves n (dials ++ h.dialsTo n l) (accepts ++ h.acceptsFrom n l) := by
  induction l generalizing h standing dials accepts with
  | nil =>
    rw [dialsTo, acceptsFrom, List.append_nil, List.append_nil]
    exact hs
  | cons a l ih =>
    obtain ⟨_, hact⟩ := ht.act a
    have hrest := ih (hs.act ht hm a) hact (hm.act a)
    rwa [List.append_assoc, List.append_assoc] at hrest

/-- The first to be accepted are the far sides of the first that were dialed, in this order. -/
theorem accepts_first (n : Nat) (l : List HostAct) :
    acceptsFrom {} n l <+: (dialsTo {} n l).map (·.farSide) := by
  have hstart : Serves {} n [] [] := .waiting rfl
  exact (hstart.acts tally_start marked_start l).accepts_first

/-! ### Both sides -/

/-- Stream `x` is over, or its other side is `y`. -/
structure Side (x y : Nat) (h : InProcessHost) : Prop where
  old : x < h.nextId
  other : ∀ b, h.inbox? (.stream x) = some b → b.other = some y

theorem Side.act {x y : Nat} (hs : Side x y h) (a : HostAct) : Side x y (h.act a) := by
  refine act_inboxes_induct hs ?_ ?_ ?_ ?_ a
  · intro g g' hk hs
    have hold := hs.old
    refine ⟨Nat.lt_of_lt_of_le hold hk.nextId, fun b hb => ?_⟩
    rcases hk.inboxes (.stream x) with heq | ⟨hle, -⟩
    · exact hs.other b (heq ▸ hb)
    · exact absurd hold (Nat.not_lt.2 hle)
  · rintro g g' z n ⟨hnext, hothers, b, hb', hb⟩ hs
    refine ⟨hnext.symm ▸ hs.old, fun c hc => ?_⟩
    by_cases hz : .stream x = z
    · subst hz
      cases hb'.symm.trans hc
      have hother := hs.other _ hb
      exact hother
    · exact hs.other c (hothers _ hz ▸ hc)
  · intro g z hserver hs
    refine ⟨(nextId_close g z).symm ▸ hs.old, fun c hc => ?_⟩
    rw [inbox?_close hserver] at hc
    split at hc
    · rename_i hz
      obtain ⟨b, hb, rfl⟩ := Option.map_eq_some_iff.1 hc
      exact b.shut_other.trans (hs.other b (hz ▸ hb))
    · exact hs.other c hc
  · intro g z hs
    exact ⟨(nextId_forget g z).symm ▸ hs.old, fun c hc => hs.other c (inbox?_of_forget hc)⟩

theorem Side.acts {x y : Nat} (hs : Side x y h) (l : List HostAct) : Side x y (h.acts l) := by
  induction l generalizing h with
  | nil => exact hs
  | cons a l ih => exact ih (hs.act a)

theorem mem_dialsBy {c : ConnectionHandle} (hc : c ∈ h.dialsBy n a) :
    ∃ own peer g, a = .request (.dial .tcp own peer) ∧ h.listenerFor? peer = some n ∧
      h.dialStream own peer = some (.ok c, g) := by
  unfold dialsBy at hc
  split at hc
  · rename_i own peer
    split at hc
    · rename_i hroute
      split at hc
      · rename_i c' g hd
        cases List.mem_singleton.1 hc
        exact ⟨own, peer, g, rfl, hroute, hd⟩
      · cases hc
    · cases hc
  · cases hc

theorem sides_dialsBy {c : ConnectionHandle} (hc : c ∈ h.dialsBy n a) :
    c.protocol = .tcp ∧ Side c.id (c.id + 1) (h.act a) ∧ Side (c.id + 1) c.id (h.act a) := by
  obtain ⟨own, peer, g, rfl, -, hd⟩ := mem_dialsBy hc
  have hpoll : h.poll? (.dial .tcp own peer) = some (.ok c, g) := hd
  rw [act_request hpoll]
  rcases dialStream_eq_some hd with ⟨f, hf, -⟩ | ⟨b, next, l, hok, -, rfl⟩ |
    ⟨next, slots, streams, hf, -⟩
  · cases hf
  · cases hok
    refine ⟨rfl, ⟨Nat.lt_add_of_pos_right (by decide), fun b hb => ?_⟩,
      ⟨Nat.lt_succ_self _, fun b hb => ?_⟩⟩
    · have hne : h.nextId ≠ h.nextId + 1 := Nat.ne_of_lt (Nat.lt_succ_self _)
      simp only [inbox?, find?_dialed, if_neg hne, if_true] at hb
      cases hb
      rfl
    · simp only [inbox?, find?_dialed, if_true] at hb
      cases hb
      rfl
  · cases hf

/-- As long as they are there, the sides of what was dialed are the sides of one connection. -/
theorem sides_dialsTo {c : ConnectionHandle} {l : List HostAct} (hc : c ∈ h.dialsTo n l) :
    c.protocol = .tcp ∧ Side c.id (c.id + 1) (h.acts l) ∧ Side (c.id + 1) c.id (h.acts l) := by
  induction l generalizing h with
  | nil => cases hc
  | cons a l ih =>
    rcases List.mem_append.1 hc with hnow | hlater
    · obtain ⟨htcp, hnear, hfar⟩ := sides_dialsBy hnow
      exact ⟨htcp, hnear.acts l, hfar.acts l⟩
    · exact ih hlater

/-! ### In turn -/

theorem dialsTo_append (h : InProcessHost) (n : Nat) (l l' : List HostAct) :
    h.dialsTo n (l ++ l') = h.dialsTo n l ++ (h.acts l).dialsTo n l' := by
  induction l generalizing h with
  | nil => rfl
  | cons a l ih =>
    change h.dialsBy n a ++ (h.act a).dialsTo n (l ++ l') = _
    rw [ih, ← List.append_assoc]
    rfl

theorem acceptsFrom_append (h : InProcessHost) (n : Nat) (l l' : List HostAct) :
    h.acceptsFrom n (l ++ l') = h.acceptsFrom n l ++ (h.acts l).acceptsFrom n l' := by
  induction l generalizing h with
  | nil => rfl
  | cons a l ih =>
    change h.acceptsBy n a ++ (h.act a).acceptsFrom n (l ++ l') = _
    rw [ih, ← List.append_assoc]
    rfl

/-- A dial that is answered is the next one to the listener that it is routed to. -/
theorem dial_in_turn {l : List HostAct} {own : Option NetAddress} {peer : NetAddress}
    {c : ConnectionHandle} (hp : (acts {} l).poll? (.dial .tcp own peer) = some (.ok c, h')) :
    ∃ n, (acts {} l).listenerFor? peer = some n ∧
      dialsTo {} n (l ++ [.request (.dial .tcp own peer)]) = dialsTo {} n l ++ [c] := by
  have hd : (acts {} l).dialStream own peer = some (.ok c, h') := hp
  cases hroute : (acts {} l).listenerFor? peer with
  | none => simp [dialStream, startStream?, hroute] at hd
  | some n => exact ⟨n, rfl, by simp [dialsTo_append, dialsTo, dialsBy, hroute, hd]⟩

/-- An accept that is answered gets the far side of the first dial to the listener that none before
it got. -/
theorem accept_in_turn {l : List HostAct} {handle : ListenerHandle} {c : ConnectionHandle}
    (hp : (acts {} l).poll? (.accept handle) = some (.ok c, h')) :
    acceptsFrom {} handle.id (l ++ [.request (.accept handle)]) =
        acceptsFrom {} handle.id l ++ [c] ∧
      ∃ d, (dialsTo {} handle.id l)[(acceptsFrom {} handle.id l).length]? = some d ∧
        c = d.farSide := by
  have ht : (acts {} l).takeArrival? handle.id = some (.ok c, h') := hp
  have haccepts : acceptsFrom {} handle.id (l ++ [.request (.accept handle)]) =
      acceptsFrom {} handle.id l ++ [c] := by
    simp [acceptsFrom_append, acceptsFrom, acceptsBy, ht]
  have hdials : dialsTo {} handle.id (l ++ [.request (.accept handle)]) =
      dialsTo {} handle.id l := by
    simp [dialsTo_append, dialsTo, dialsBy]
  obtain ⟨later, hfirst⟩ := accepts_first handle.id (l ++ [.request (.accept handle)])
  rw [haccepts, hdials] at hfirst
  have hget : ((dialsTo {} handle.id l).map (·.farSide))[(acceptsFrom {} handle.id l).length]? =
      some c := by
    rw [← hfirst]
    simp
  rw [List.getElem?_map, Option.map_eq_some_iff] at hget
  obtain ⟨d, hd, hfar⟩ := hget
  exact ⟨haccepts, d, hd, hfar.symm⟩

/-! ### Listeners that nobody asks -/

theorem Tally.arrivals_unasked (ht : h.Tally standing) (hm : h.Marked) (hl : ∀ q, .request q ∉ l)
    (hn : .drop (.listener n) ∉ l) : (h.acts l).arrivals n = h.arrivals n := by
  induction l generalizing h standing with
  | nil => rfl
  | cons a l ih =>
    obtain ⟨_, hact⟩ := ht.act a
    have hrest := ih hact (hm.act a) (fun q hq => hl q (List.mem_cons_of_mem _ hq))
      fun hd => hn (List.mem_cons_of_mem _ hd)
    refine hrest.trans ?_
    have ha : a ≠ .drop (.listener n) := fun ha => hn (ha ▸ List.mem_cons_self)
    have hacts := ht.arrivals_act hm ha
    cases a with
    | request q => exact absurd List.mem_cons_self (hl q)
    | close | drop | serve | addName | log | takeLogs =>
      exact hacts.symm.trans (List.append_nil _)

/-! ### What waits at listeners -/

/-- What waits at a listener is a stream that was opened before. -/
def ArrivalsKnown (h : InProcessHost) : Prop :=
  ∀ n, ∀ c ∈ h.arrivals n, c.protocol = .tcp ∧ c.id < h.nextId

theorem arrivalsKnown_start : ArrivalsKnown {} := fun _ _ hc => nomatch hc

/-- What waits at a listener after an act waited there before, or has just been dialed to it. -/
theorem Tally.arrival_before (ht : h.Tally standing) (hm : h.Marked) {c : ConnectionHandle}
    (hc : c ∈ (h.act a).arrivals n) :
    c ∈ h.arrivals n ∨ ∃ d ∈ h.dialsBy n a, c = d.farSide := by
  by_cases ha : a = .drop (.listener n)
  · subst ha
    have hc : c ∈ (h.drop (.listener n)).arrivals n := hc
    rw [arrivals_dropped] at hc
    cases hc
  · have hmem := List.mem_append_right (h.acceptsBy n a) hc
    rw [← ht.arrivals_act hm ha] at hmem
    rcases List.mem_append.1 hmem with hold | hnew
    · exact Or.inl hold
    · obtain ⟨d, hd, rfl⟩ := List.mem_map.1 hnew
      exact Or.inr ⟨d, hd, rfl⟩

theorem ArrivalsKnown.act (hk : h.ArrivalsKnown) (ht : h.Tally standing) (hm : h.Marked)
    (a : HostAct) : (h.act a).ArrivalsKnown := by
  intro n c hc
  rcases ht.arrival_before hm hc with hold | ⟨d, hd, rfl⟩
  · obtain ⟨htcp, hlt⟩ := hk n c hold
    exact ⟨htcp, Nat.lt_of_lt_of_le hlt (nextId_le_acts h [a])⟩
  · obtain ⟨htcp, -, hfar⟩ := sides_dialsBy hd
    exact ⟨htcp, hfar.old⟩

theorem ArrivalsKnown.acts (hk : h.ArrivalsKnown) (ht : h.Tally standing) (hm : h.Marked)
    (l : List HostAct) : (h.acts l).ArrivalsKnown := by
  induction l generalizing h standing with
  | nil => exact hk
  | cons a l ih =>
    obtain ⟨_, hact⟩ := ht.act a
    exact ih (hk.act ht hm a) hact (hm.act a)

theorem queued_listener (h : InProcessHost) (n : Nat) :
    h.queued (.listener n) = (h.arrivals n).map fun c => .stream c.id := by
  simp only [queued, arrivals]
  cases h.listeners.find? n with
  | none => rfl
  | some l =>
    have hqueue : ∀ queue : List Arrival, queue.filterMap Arrival.resource? =
        (queue.filterMap Arrival.connection?).map fun c => .stream c.id := by
      intro queue
      rw [List.map_filterMap]
      refine List.filterMap_congr fun arrival _ => ?_
      cases arrival <;> rfl
    exact hqueue l.queue

end InProcessHost

end SyscallBridge
