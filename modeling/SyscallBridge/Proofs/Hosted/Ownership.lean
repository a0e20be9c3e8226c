import SyscallBridge.Proofs.Hosted.Run
import SyscallBridge.Proofs.Host.Arrivals

/-!
# Who owns what is open

On a host that only the process uses, whatever is open has an owner: the socket of a descriptor, a
call that has just been given it, or a listener at which it waits to be accepted.
-/

namespace SyscallBridge

open InProcessHost

/-! ### Effects on the host -/

theorem unasked_effects (effects : List Effect) :
    (∀ q, .request q ∉ effects.filterMap Effect.act?) ∧
      ∀ x, .drop x ∉ effects.filterMap Effect.act? := by
  refine ⟨fun q hq => ?_, fun x hx => ?_⟩
  · obtain ⟨e, -, he⟩ := List.mem_filterMap.1 hq
    cases e <;> cases he
  · obtain ⟨e, -, he⟩ := List.mem_filterMap.1 hx
    cases e <;> cases he

theorem close_mem_effects {effects : List Effect} {x : Resource} (hx : x ∈ closings effects) :
    .close x ∈ effects.filterMap Effect.act? := by
  induction effects with
  | nil => cases hx
  | cons e effects ih =>
    cases e with
    | close y =>
      rcases List.mem_cons.1 hx with rfl | hx
      · exact List.mem_cons_self
      · exact List.mem_cons_of_mem _ (ih hx)
    | log r => exact List.mem_cons_of_mem _ (ih hx)
    | notice n => exact ih hx

/-! ### Answers -/

/-- What an answer tells of as open is given to who asked, or it is the far side of a stream, which
waits at a listener. -/
theorem InProcessHost.Tally.opened_owned {h h' : InProcessHost} {standing : List Opening}
    {q : Request} {answer : Except HostFailure q.Answer} {o : Opening} (ht : h.Tally standing)
    (hp : h.poll? q = some (answer, h')) (hq : ∀ url, q ≠ .dialChannel url)
    (ho : o ∈ q.opened answer) : (∃ a, answer = .ok a ∧ q.given? a = some o.resource) ∨
      ∃ n, ∃ c ∈ h'.arrivals n, c.resource = o.resource := by
  cases answer with
  | error f => cases q <;> first | cases ho | (rename_i protocol _ _; cases protocol <;> cases ho)
  | ok a =>
    cases q with
    | dialChannel url => exact absurd rfl (hq url)
    | resolve | accept | read | write | sendTo | receiveFrom | sendMessage | receiveMessage
    | acceptChannel => cases ho
    | listen | bindPort =>
      obtain rfl := List.mem_singleton.1 ho
      exact Or.inl ⟨a, rfl, rfl⟩
    | dial protocol own peer =>
      cases protocol with
      | udp =>
        obtain rfl := List.mem_singleton.1 ho
        rcases dialDatagram_eq_some hp with ⟨f, next, hf, -⟩ | ⟨b, next, hok, -, -⟩
        · cases hf
        · cases hok
          exact Or.inl ⟨_, rfl, rfl⟩
      | tcp =>
        have hd : h.dialStream own peer = some (.ok a, h') := hp
        have htcp : a.protocol = .tcp := by
          rcases dialStream_eq_some hd with ⟨f, hf, -⟩ | ⟨b, next, l, hok, -, -⟩ |
            ⟨next, slots, streams, hf, -⟩
          · cases hf
          · cases hok
            rfl
          · cases hf
        rcases List.mem_cons.1 ho with rfl | ho
        · cases hroute : h.listenerFor? peer with
          | none => simp [dialStream, startStream?, hroute] at hd
          | some n =>
            have hdials : h.dialsBy n (.request (.dial .tcp own peer)) = [a] := by
              simp [dialsBy, hroute, hd]
            have harrivals := ht.arrivals_dial (n := n) own peer
            rw [act_request hp, hdials] at harrivals
            refine Or.inr ⟨n, a.farSide, ?_, ?_⟩
            · rw [harrivals]
              exact List.mem_append_right _ List.mem_cons_self
            · simp [ConnectionHandle.resource, ConnectionHandle.farSide, htcp]
        · obtain rfl := List.mem_singleton.1 ho
          refine Or.inl ⟨a, rfl, ?_⟩
          simp [Request.given?, ConnectionHandle.resource, htcp]

/-- What an accept takes from a queue is given to who asked. -/
theorem InProcessHost.taken_given {h h' : InProcessHost} {q : Request}
    {answer : Except HostFailure q.Answer} {n : Nat} {c : ConnectionHandle}
    (hp : h.poll? q = some (answer, h')) (hc : c ∈ h.acceptsBy n (.request q)) :
    ∃ a, answer = .ok a ∧ q.given? a = some c.resource := by
  cases q with
  | accept l =>
    have ht : h.takeArrival? l.id = some (answer, h') := hp
    simp only [acceptsBy] at hc
    split at hc
    · rename_i hl
      subst hl
      rw [ht] at hc
      cases answer with
      | error f => cases hc
      | ok a =>
        obtain rfl := List.mem_singleton.1 hc
        exact ⟨c, rfl, rfl⟩
    · cases hc
  | resolve | listen | dial | bindPort | dialChannel | read | write | sendTo | receiveFrom
  | sendMessage | receiveMessage | acceptChannel => cases hc

theorem ConnectionHandle.resource_ne_channel (c : ConnectionHandle) (id : Nat) :
    c.resource ≠ .channel id := by
  obtain ⟨protocol, n, own, peer⟩ := c
  cases protocol <;> simp [resource]

/-- Connections are queued at listeners alone. -/
theorem InProcessHost.ArrivalsKnown.of_queued {h : InProcessHost} {x : Resource}
    {c : ConnectionHandle} (hk : h.ArrivalsKnown) (hc : c.resource ∈ h.queued x) :
    ∃ n, x = .listener n ∧ ∃ c' ∈ h.arrivals n, c'.resource = c.resource := by
  rcases InProcessHost.mem_queued hc with ⟨n, id, rfl, -⟩ | ⟨s, id, -, hchannel⟩
  · rw [queued_listener] at hc
    obtain ⟨c', hc', heq⟩ := List.mem_map.1 hc
    refine ⟨n, rfl, c', hc', ?_⟩
    rw [ConnectionHandle.resource, (hk n c' hc').1, ← heq]
  · exact absurd hchannel (c.resource_ne_channel id)

theorem ConnectionHandle.number_resource (c : ConnectionHandle) : c.resource.number = c.id := by
  obtain ⟨protocol, id, own, peer⟩ := c
  cases protocol <;> rfl

theorem InProcessHost.ArrivalsKnown.given_old {h h' : InProcessHost} {q : Request} {a : q.Answer}
    {x : Resource} (hk : h.ArrivalsKnown) (hp : h.poll? q = some (.ok a, h'))
    (hq : ∀ server, q ≠ .acceptChannel server) (hx : q.given? a = some x) :
    x.number < h'.nextId := by
  have hbrings := brings_poll? hp
  cases q with
  | acceptChannel server => exact absurd rfl (hq server)
  | accept l =>
    have harrivals := arrivals_accept h l (n := l.id)
    have ht : h.takeArrival? l.id = some (.ok a, h') := hp
    have hmem : a ∈ h.arrivals l.id := by
      rw [harrivals]
      refine List.mem_append_left _ ?_
      simp [acceptsBy, ht]
    cases hx
    exact a.number_resource ▸ Nat.lt_of_lt_of_le (hk l.id a hmem).2 hbrings.nextId
  | resolve | read | write | sendTo | receiveFrom | sendMessage | receiveMessage => cases hx
  | listen | bindPort =>
    cases hx
    exact (hbrings.numbered _ List.mem_cons_self).2
  | dialChannel url =>
    cases hx
    exact (hbrings.numbered _ (List.mem_cons_of_mem _ List.mem_cons_self)).2
  | dial protocol own peer =>
    cases hx
    refine a.number_resource ▸ ?_
    cases protocol with
    | udp => exact (hbrings.numbered _ List.mem_cons_self).2
    | tcp => exact (hbrings.numbered _ (List.mem_cons_of_mem _ List.mem_cons_self)).2

/-! ### Owners -/

namespace Hosted

/-- Somebody answers for the resource. -/
inductive Owned (s : Hosted) (x : Resource) : Prop
  | held (has : s.process.Has x)
  | given (c : InFlight) (inFlight : c ∈ s.calls) (gives : c.given? = some x)
  | waits (n : Nat) (c : ConnectionHandle) (queued : c ∈ s.host.arrivals n)
    (is : c.resource = x)

/-- Whatever is open has an owner; a call waits for what a socket has, or had until it was closed;
and nothing is spoken of that was never there. -/
structure Owns (s : Hosted) : Prop where
  tally : ∃ standing, s.host.Tally standing
  marked : s.host.Marked
  owned : ∀ o, s.host.Stands o → s.Owned o.resource
  asked : ∀ c ∈ s.calls, ∀ x, c.pending.request.resource? = some x →
    s.process.Has x ∨ Shut x s.host
  installed : ∀ y x, s.process.Installed y → y.resource? = some x → x.number < s.host.nextId
  given : ∀ c ∈ s.calls, ∀ x, c.given? = some x → x.number < s.host.nextId
  arrivals : s.host.ArrivalsKnown

theorem owns_create (settings : Settings) : (create settings).Owns where
  tally := ⟨[], tally_start⟩
  marked := marked_start
  owned := fun o ho => nomatch (tally_start.stands o).2 ho
  asked := fun _ hc => nomatch hc
  installed := fun _ _ hy hx => absurd hy (Process.not_installed_create settings hx)
  given := fun _ hc => nomatch hc
  arrivals := arrivalsKnown_start

variable {s s' : Hosted} {e : ProcessEvent} {others : List InFlight} {x : Resource}

theorem Owns.turned (ho : s.Owns) (hs : s.Sound)
    (resumed : (∃ c, e = .call c ∧ others = s.calls) ∨
      ∃ q a, e = .answer q a ∧ s.calls.Perm (⟨q, some a⟩ :: others)) :
    (s.turned e others).Owns := by
  obtain ⟨⟨⟨given, hmoves, hgiven⟩, hasks⟩, hothers⟩ := hs.turn resumed
  obtain ⟨hsealed, -⟩ := hs.seals.moves hs.registered hmoves
  obtain ⟨⟨standing, ht⟩, hm, howned, hasked, hinstalled, hgave, hknown⟩ := ho
  obtain ⟨hunasked, hdrops⟩ := unasked_effects (s.process.turn e).effects
  have hnext := nextId_le_acts s.host ((s.process.turn e).effects.filterMap Effect.act?)
  have hmoved (x : Resource) (hx : x ∈ given ∨ s.process.Has x) :=
    Process.Has.moves hs.seals hs.registered hmoves hx
  have hshut (x : Resource) (hx : x ∈ closings (s.process.turn e).effects)
      (hserver : ∀ id, x ≠ .server id) (hold : x.number < s.host.nextId) :
      Shut x (s.turned e others).host :=
    shut_acts_of_mem hserver hold (Or.inl (close_mem_effects hx))
  have hgivenOld (y : Endpoint) (x : Resource) (hy : e.Gives y) (hx : y.resource? = some x) :
      x.number < s.host.nextId := by
    rcases resumed with ⟨c, rfl, -⟩ | ⟨q, a, rfl, hperm⟩
    · cases hy
    · exact hgave _ (hperm.mem_iff.2 List.mem_cons_self) x (hy.given?.trans hx)
  constructor
  · exact ht.acts _
  · exact hm.acts _
  · intro o ho
    have hbefore : s.host.Stands o := ht.stands_before hunasked ho
    have hopen : o.resource ∉ closings (s.process.turn e).effects := fun hx =>
      (hshut o.resource hx hbefore.not_server (ht.numbered o ((ht.stands o).2 hbefore))).not_stands
        ho
    cases howned o hbefore with
    | held has => exact .held ((hmoved _ (Or.inr has)).resolve_left hopen)
    | given c inFlight gives =>
      rcases resumed with ⟨call, rfl, rfl⟩ | ⟨q, a, rfl, hperm⟩
      · exact .given c (List.mem_append_left _ inFlight) gives
      · rcases List.mem_cons.1 (hperm.mem_iff.1 inFlight) with rfl | hc
        · exact .held ((hmoved _ (Or.inl (hgiven _ gives))).resolve_left hopen)
        · exact .given c (List.mem_append_left _ hc) gives
    | waits n c queued is =>
      refine .waits n c ?_ is
      have hsame := ht.arrivals_unasked hm hunasked (hdrops (.listener n))
      exact hsame.symm ▸ queued
  · intro c hc x hx
    rcases List.mem_append.1 hc with hold | hnew
    · rcases hasked c (hothers c hold) x hx with has | hclosed
      · obtain ⟨y, hy, hyx, hserver⟩ := has.installed
        rcases hmoved x (Or.inr has) with hx | hhas
        · exact Or.inr (hshut x hx hserver (hinstalled y x hy hyx))
        · exact Or.inl hhas
      · exact Or.inr (hclosed.acts _)
    · obtain ⟨q, hq, rfl⟩ := Process.Step.mem_asked hnew
      obtain ⟨f, t, hf, hfx⟩ := (hasks q hq).2 x hx
      exact Or.inl (hsealed.has hf hfx)
  · intro y x hy hx
    refine Nat.lt_of_lt_of_le ?_ hnext
    rcases hy.moves hmoves hx with hthere | hgives
    · exact hinstalled y x hthere hx
    · exact hgivenOld y x hgives hx
  · intro c hc x hx
    rcases List.mem_append.1 hc with hold | hnew
    · exact Nat.lt_of_lt_of_le (hgave c (hothers c hold) x hx) hnext
    · obtain ⟨q, -, rfl⟩ := Process.Step.mem_asked hnew
      cases hx
  · exact hknown.acts ht hm _

/-- The process has no dealings with channels. -/
theorem no_channel (q : ProcessPending) :
    (∀ url, q.request ≠ .dialChannel url) ∧ ∀ server, q.request ≠ .acceptChannel server := by
  constructor <;> rintro _ h
  all_goals
    cases q with
    | resolving => cases h
    | onSocket file q next => cases q <;> cases h

theorem Owns.answered {q : ProcessPending} {a : Except HostFailure q.request.Answer}
    {host : InProcessHost} {others calls : List InFlight} (ho : s.Owns)
    (waited : s.calls.Perm (⟨q, none⟩ :: others)) (answered : calls.Perm (⟨q, some a⟩ :: others))
    (served : s.host.poll? q.request = some (a, host)) : Owns { s with host, calls } := by
  obtain ⟨⟨standing, ht⟩, hm, howned, hasked, hinstalled, hgave, hknown⟩ := ho
  obtain ⟨hdial, haccept⟩ := no_channel q
  have hact := act_request served
  have hbrings := brings_poll? served
  have hmarked : host.Marked := hact ▸ hm.act (.request q.request)
  have hshut (x : Resource) (hx : Shut x s.host) : Shut x host := hact ▸ hx.act (.request q.request)
  have hnew (a' : q.request.Answer) (x : Resource) (ha : a = .ok a')
      (hx : q.request.given? a' = some x) : Owned { s with host, calls } x := by
    subst ha
    exact .given ⟨q, some (.ok a')⟩ (answered.mem_iff.2 List.mem_cons_self) hx
  constructor
  · exact ⟨_, ht.brings hbrings⟩
  · exact hmarked
  · intro o ho
    rcases List.mem_append.1 (((ht.brings hbrings).stands o).2 ho) with hopened | hold
    · rcases ht.opened_owned served hdial hopened with ⟨a', ha, hx⟩ | ⟨n, c, hc, hx⟩
      · exact hnew a' _ ha hx
      · exact .waits n c hc hx
    · cases howned o ((ht.stands o).1 hold) with
      | held has => exact .held has
      | given c inFlight gives =>
        exact .given c (given_after waited answered inFlight gives) gives
      | waits n c queued is =>
        have hall := ht.arrivals_act hm (n := n) (a := .request q.request) (by simp)
        rw [hact] at hall
        have hmem := List.mem_append_left
          ((s.host.dialsBy n (.request q.request)).map (·.farSide)) queued
        rw [hall] at hmem
        rcases List.mem_append.1 hmem with htaken | hstill
        · obtain ⟨a', ha, hx⟩ := taken_given served htaken
          exact hnew a' _ ha (is ▸ hx)
        · exact .waits n c hstill is
  · intro c hc x hx
    obtain ⟨c', hc', hsame⟩ := pending_before waited answered hc
    exact (hasked c' hc' x (hsame ▸ hx)).imp id (hshut x)
  · exact fun y x hy hx => Nat.lt_of_lt_of_le (hinstalled y x hy hx) hbrings.nextId
  · intro c hc x hx
    rcases mem_before waited answered hc with rfl | hold
    · cases a with
      | error f => cases hx
      | ok a => exact hknown.given_old served haccept hx
    · exact Nat.lt_of_lt_of_le (hgave c hold x hx) hbrings.nextId
  · exact hact ▸ hknown.act ht hm _

theorem Owns.failed {q : ProcessPending} {f : HostFailure} {others calls : List InFlight}
    (ho : s.Owns) (waited : s.calls.Perm (⟨q, none⟩ :: others))
    (answered : calls.Perm (⟨q, some (.error f)⟩ :: others)) : Owns { s with calls } := by
  refine ⟨ho.tally, ho.marked, fun o hstands => ?_, fun c hc x hx => ?_, ho.installed,
    fun c hc x hx => ?_, ho.arrivals⟩
  · cases ho.owned o hstands with
    | held has => exact .held has
    | given c inFlight gives => exact .given c (given_after waited answered inFlight gives) gives
    | waits n c queued is => exact .waits n c queued is
  · obtain ⟨c', hc', hsame⟩ := pending_before waited answered hc
    exact ho.asked c' hc' x (hsame ▸ hx)
  · rcases mem_before waited answered hc with rfl | hold
    · cases hx
    · exact ho.given c hold x hx

theorem Sound.has_of_file (hs : s.Sound) {ids : List Nat} (hx : x ∈ s.process.resources ids) :
    s.process.Has x := by
  obtain ⟨id, -, hid⟩ := List.mem_filterMap.1 hx
  obtain ⟨t, ht, hx⟩ := Option.bind_eq_some_iff.1 hid
  exact hs.seals.has (OpenFile.eq_socket ht) hx

/-- What is referred to is a socket's, or has been given to a call, or is not open any more. -/
theorem Owns.root (ho : s.Owns) (hs : s.Sound) (hx : x ∈ s.roots) :
    s.process.Has x ∨ Shut x s.host ∨ ∃ c ∈ s.calls, c.given? = some x := by
  rcases List.mem_append.1 hx with hx | hgiven
  · rcases List.mem_append.1 hx with hfile | hasked
    · exact Or.inl (hs.has_of_file hfile)
    · obtain ⟨c, hc, hx⟩ := List.mem_filterMap.1 hasked
      exact (ho.asked c hc x hx).imp id Or.inl
  · obtain ⟨c, hc, hx⟩ := List.mem_filterMap.1 hgiven
    exact Or.inr (Or.inr ⟨c, hc, hx⟩)

theorem unasked_drops (s : Hosted) : ∀ q, .request q ∉ s.unreachable.map HostAct.drop := by
  simp

/-- What is open after a collection was open before and is reachable. -/
theorem stands_collect {standing : List Opening} {o : Opening} (ht : s.host.Tally standing)
    (ho : s.collect.host.Stands o) :
    s.host.Stands o ∧ o.resource ∈ s.host.reachable s.roots := by
  rw [host_collect] at ho
  have hbefore : s.host.Stands o := ht.stands_before s.unasked_drops ho
  have hthere : o.resource ∉ s.unreachable := fun hx => by
    have hdropped := shut_acts_of_mem hbefore.not_server (ht.numbered o ((ht.stands o).2 hbefore))
      (l := s.unreachable.map .drop) (Or.inr (List.mem_map_of_mem hx))
    exact hdropped.not_stands ho
  exact ⟨hbefore, by simpa [unreachable, hbefore.mem_resources] using hthere⟩

theorem Owns.collect (ho : s.Owns) (hs : s.Sound) : s.collect.Owns := by
  have hroot := fun x hx => ho.root hs (x := x) hx
  obtain ⟨⟨standing, ht⟩, hm, howned, hasked, hinstalled, hgave, hknown⟩ := ho
  have hhost := host_collect s
  have hnext := nextId_le_acts s.host (s.unreachable.map .drop)
  rw [← hhost] at hnext
  have harrivals (n : Nat) (hn : .listener n ∉ s.unreachable) :
      s.collect.host.arrivals n = s.host.arrivals n := by
    rw [hhost]
    exact ht.arrivals_unasked hm s.unasked_drops (by simpa using hn)
  have hshut (x : Resource) (hx : Shut x s.host) : Shut x s.collect.host := hhost ▸ hx.acts _
  have hkept (x : Resource) (hx : x ∈ s.host.reachable s.roots) : x ∉ s.unreachable := by
    simp [unreachable, hx]
  constructor
  · exact hhost ▸ ht.acts _
  · exact hhost ▸ hm.acts _
  · intro o ho
    obtain ⟨hbefore, hreachable⟩ := stands_collect ht ho
    cases howned o hbefore with
    | held has => exact .held has
    | given c inFlight gives => exact .given c inFlight gives
    | waits n c queued is =>
      by_cases hn : .listener n ∈ s.unreachable
      · -- the listener goes, so somebody else refers to what waited there
        rcases List.mem_append.1 hreachable with hx | hx
        · rcases hroot _ hx with has | hclosed | ⟨c, hc, gives⟩
          · exact .held has
          · exact absurd hbefore hclosed.not_stands
          · exact .given c hc gives
        · obtain ⟨y, hy, hx⟩ := List.mem_flatMap.1 hx
          rw [← is] at hx
          obtain ⟨m, rfl, c', hc', is'⟩ := hknown.of_queued hx
          have hstill := hkept (.listener m) (List.mem_append_left _ hy)
          exact .waits m c' ((harrivals m hstill).symm ▸ hc') (is'.trans is)
      · exact .waits n c ((harrivals n hn).symm ▸ queued) is
  · exact fun c hc x hx => (hasked c hc x hx).imp id (hshut x)
  · exact fun y x hy hx => Nat.lt_of_lt_of_le (hinstalled y x hy hx) hnext
  · exact fun c hc x hx => Nat.lt_of_lt_of_le (hgave c hc x hx) hnext
  · exact hhost ▸ hknown.acts ht hm _

theorem Owns.next {event : HostedEvent} (ho : s.Owns) (hs : s.Sound)
    (hown : ∀ a, event ≠ .elsewhere a) : (s.next event).Owns := by
  have hgoes := goes_next s event
  generalize s.next event = s' at hgoes
  cases hgoes with
  | rests => exact ho
  | turns _ resumed => exact ho.turned hs resumed
  | served _ waited answered served => exact ho.answered waited answered served
  | failed _ waited answered => exact ho.failed waited answered
  | collects => exact ho.collect hs
  | elsewhere a => exact absurd rfl (hown a)

theorem Owns.run {events : List HostedEvent} (ho : s.Owns) (hs : s.Sound)
    (hown : ∀ a, .elsewhere a ∉ events) : (s.run events).Owns := by
  induction events generalizing s with
  | nil => exact ho
  | cons event events ih =>
    refine ih (ho.next hs fun a ha => hown a (ha ▸ List.mem_cons_self)) (hs.next event)
      fun a ha => hown a (List.mem_cons_of_mem _ ha)

/-! ### When nothing is left -/

/-- On a host that nobody else uses, in any state with no call in flight and no descriptor on a
socket: what is still open was never accepted, it waits at a listener, and that one is closed; and
nothing is live any more once it is dropped with the listener, as nothing refers to either. -/
theorem nothing_live_without_sockets (settings : Settings) (events : List HostedEvent)
    (own : ∀ a, .elsewhere a ∉ events) :
    let s := (create settings).run events
    s.calls = [] →
    (∀ fd f, s.process.table.lookup fd = .ok f → (s.process.store.file f).socket? = none) →
    (∀ o, s.host.Stands o → ∃ n, ∃ c ∈ s.host.arrivals n, c.resource = o.resource ∧
      ∀ a, ¬ s.host.Stands ⟨.listener n, a⟩) ∧
    s.collect.host.live = [] := by
  intro s hcalls hplain
  have hs : s.Sound := (sound_create settings).run events
  have ho : s.Owns := (owns_create settings).run (sound_create settings) own
  have hnone (x : Resource) : ¬ s.process.Has x := by
    rintro ⟨r, f, t, hrecord, hf, -⟩
    obtain ⟨fd, hfd⟩ := (hs.registered.accounted.holds_iff f).2 ⟨r, hrecord⟩
    have hsocket := hplain fd f hfd
    rw [hf] at hsocket
    cases hsocket
  have hwaits (o : Opening) (hstands : s.host.Stands o) :
      ∃ n, ∃ c ∈ s.host.arrivals n, c.resource = o.resource := by
    cases ho.owned o hstands with
    | held has => exact absurd has (hnone _)
    | given c inFlight gives =>
      rw [hcalls] at inFlight
      cases inFlight
    | waits n c queued is => exact ⟨n, c, queued, is⟩
  refine ⟨fun o hstands => ?_, ?_⟩
  · obtain ⟨n, c, queued, is⟩ := hwaits o hstands
    refine ⟨n, c, queued, is, fun a hopen => ?_⟩
    -- nobody waits to accept a listener
    obtain ⟨-, c', -, is'⟩ := hwaits _ hopen
    obtain ⟨protocol, id, own, peer⟩ := c'
    cases protocol <;> cases is'
  · have hroots : s.roots = [] := by
      have hfiles : s.process.resources [] = [] :=
        List.eq_nil_iff_forall_not_mem.2 fun x hx => hnone x (hs.has_of_file hx)
      simp [roots, hcalls, hfiles]
    obtain ⟨standing, ht⟩ := ho.tally
    obtain ⟨standing', ht'⟩ := (ho.collect hs).tally
    have hempty : standing' = [] := List.eq_nil_iff_forall_not_mem.2 fun o hmem => by
      obtain ⟨-, hreachable⟩ := stands_collect ht ((ht'.stands o).1 hmem)
      simp [hroots, reachable] at hreachable
    exact List.forall₂_nil_left_iff.1 (hempty ▸ ht'.live)

/-- A listener is connected to and accepts nothing; both sockets are closed, and the far side of the
connection is all that is left. -/
theorem unaccepted_goes_with_listener :
    let a : SockAddr := .ofNet ⟨.v4 .loopback, 7001⟩
    let s := (create {}).run [.call (.socket 2 1 0), .call (.onSocket 3 (.bind a)),
      .call (.onSocket 3 .listen), .serve 0, .resume 0, .call (.socket 2 1 0),
      .call (.onSocket 4 (.connect a)), .serve 0, .resume 0, .call (.close 3), .call (.close 4)]
    s.host.live = [2] ∧ (∀ o, s.host.Stands o → ∃ n, ∃ c ∈ s.host.arrivals n,
      c.resource = o.resource ∧ ∀ a, ¬ s.host.Stands ⟨.listener n, a⟩) ∧
    s.collect.host.live = [] := by
  intro a s
  have hcalls : s.calls = [] := List.isEmpty_iff.1 (by decide +kernel)
  have hfiles : ∀ f ∈ s.process.table.files, ((s.process.store.file f).socket?).isNone = true := by
    decide +kernel
  have hleft := nothing_live_without_sockets {} [.call (.socket 2 1 0),
    .call (.onSocket 3 (.bind a)), .call (.onSocket 3 .listen), .serve 0, .resume 0,
    .call (.socket 2 1 0), .call (.onSocket 4 (.connect a)), .serve 0, .resume 0,
    .call (.close 3), .call (.close 4)] (by simp) hcalls fun fd f hf =>
      Option.isNone_iff_eq_none.1 (hfiles f (DescriptorTable.mem_files_of_lookup hf))
  exact ⟨by decide +kernel, hleft⟩

end Hosted

end SyscallBridge
