import SyscallBridge.Proofs.Host.ByteStream
import SyscallBridge.Proofs.Host.Channels

/-!
# The end of a stream and of a channel

A read or a receive fails when the other side was closed or when its own side is. A stream keeps in
mind that it has come to its end. A side of a channel only takes the end from its queue, so the next
receive waits for a message that nobody can send.
-/

namespace SyscallBridge.InProcessHost

open InProcess

variable {h h' h'' : InProcessHost} {r : Nat}

/-! ### Streams -/

/-- What becomes of a stream in an act: nothing undoes its closing or its end. -/
structure Follows (s s' : Stream) : Prop where
  closed : s.closed = true → s'.closed = true
  ended : s.ended = true ∧ s.unread = [] → s'.ended = true ∧ s'.unread = []

theorem Follows.refl (s : Stream) : Follows s s := ⟨id, id⟩

theorem Follows.trans {s s' s'' : Stream} (h₁ : Follows s s') (h₂ : Follows s' s'') :
    Follows s s'' := ⟨h₂.closed ∘ h₁.closed, h₂.ended ∘ h₁.ended⟩

theorem follows_take? {s s' : Stream} {size : Nat} {answer : Except HostFailure Bytes}
    (ht : Stream.take? s size = some (answer, s')) : Follows s s' := by
  refine ⟨fun hclosed => (take?_fixed ht).2.2.trans hclosed, fun hended => ?_⟩
  unfold Stream.take? at ht
  rw [if_neg (by simp [hended.2]), if_pos hended.1] at ht
  cases ht
  exact hended

/-- The streams that are there follow earlier ones, or are new. -/
structure FollowStreams (h h' : InProcessHost) : Prop where
  nextId : h.nextId ≤ h'.nextId
  streams : ∀ r s', r < h.nextId → h'.streams.find? r = some s' →
    ∃ s, h.streams.find? r = some s ∧ Follows s s'

theorem FollowStreams.of_eq (nextId : h.nextId ≤ h'.nextId) (streams : h'.streams = h.streams) :
    FollowStreams h h' :=
  ⟨nextId, fun _ s' _ hs' => ⟨s', streams ▸ hs', .refl s'⟩⟩

theorem FollowStreams.trans (h₁ : FollowStreams h h') (h₂ : FollowStreams h' h'') :
    FollowStreams h h'' := by
  refine ⟨Nat.le_trans h₁.nextId h₂.nextId, fun r s'' hr hs'' => ?_⟩
  obtain ⟨s', hs', hfollows'⟩ := h₂.streams r s'' (Nat.lt_of_lt_of_le hr h₁.nextId) hs''
  obtain ⟨s, hs, hfollows⟩ := h₁.streams r s' hr hs'
  exact ⟨s, hs, hfollows.trans hfollows'⟩

theorem followStreams_insert {id : Nat} {s s' : Stream} (hs : h.streams.find? id = some s)
    (hfollows : Follows s s') : FollowStreams h { h with streams := h.streams.insert id s' } := by
  refine ⟨Nat.le_refl _, fun r t _ ht => ?_⟩
  rw [Assoc.find?_insert] at ht
  split at ht
  · rename_i hr
    cases ht
    exact ⟨s, hr ▸ hs, hfollows⟩
  · exact ⟨t, ht, .refl t⟩

theorem followStreams_push (h : InProcessHost) (id : Nat) (segment : Segment) :
    FollowStreams h (h.pushSegment id segment) := by
  refine ⟨Nat.le_refl _, fun r t _ ht => ?_⟩
  rw [find?_pushSegment] at ht
  split at ht
  · rename_i hr
    obtain ⟨s, hs, rfl⟩ := Option.map_eq_some_iff.1 ht
    exact ⟨s, hr ▸ hs, fun hclosed => hclosed, fun hended => hended⟩
  · exact ⟨t, ht, .refl t⟩

theorem followStreams_close (h : InProcessHost) (id : Nat) :
    FollowStreams h (h.closeStream id) := by
  rcases closeStream_cases h id with ⟨-, heq⟩ | ⟨s, hs, -, heq⟩
  · rw [heq]
    exact .of_eq (Nat.le_refl _) rfl
  · have hclosed : Follows s { s with closed := true } := ⟨fun _ => rfl, fun hended => hended⟩
    have hset := followStreams_insert hs hclosed
    rw [heq]
    exact ((hset.trans (followStreams_push _ s.peer .finish)).trans
      (followStreams_push _ id .abort)).trans (.of_eq (Nat.le_refl _) rfl)

theorem followStreams_forget (h : InProcessHost) (id : Nat) :
    FollowStreams h (h.forget (.stream id)) := by
  refine ⟨Nat.le_refl _, fun r t _ ht => ?_⟩
  rw [find?_forgetStream] at ht
  split at ht
  · cases ht
  · exact ⟨t, ht, .refl t⟩

theorem followStreams_dialed (hs : h'.streams = h.dialed) (hi : h'.nextId = h.nextId + 2) :
    FollowStreams h h' := by
  refine ⟨by omega, fun r t hr ht => ⟨t, ?_, .refl t⟩⟩
  rwa [hs, find?_dialed, if_neg (by omega), if_neg (by omega)] at ht

theorem followStreams_undials (hu : Undials h h') : FollowStreams h h' := by
  have hnext := hu.nextId
  refine ⟨by omega, fun r t _ ht => ⟨t, ?_, .refl t⟩⟩
  rw [hu.find] at ht
  split at ht
  · cases ht
  · exact ht

theorem followStreams_request (h : InProcessHost) (q : Request) :
    FollowStreams h (h.act (.request q)) := by
  cases hq : onStreams q with
  | false =>
    have hk := keepsStreams_request (h := h) hq
    exact .of_eq hk.nextId hk.streams
  | true =>
    refine act_request_induct (motive := FollowStreams h) q (.of_eq (Nat.le_refl _) rfl)
      fun answer h' hp => ?_
    rcases onStreams_cases hq with ⟨own, peer, rfl⟩ | ⟨c, size, hc, rfl⟩ | ⟨c, data, hc, rfl⟩
    · rcases dialStream_eq_some hp with ⟨f, -, rfl⟩ | ⟨b, next, l, -, -, rfl⟩ |
        ⟨next, slots, streams, -, rfl, -, hfind⟩
      · exact .of_eq (Nat.le_refl _) rfl
      · exact followStreams_dialed rfl rfl
      · exact followStreams_undials ⟨rfl, hfind⟩
    · obtain ⟨protocol, id, own, peer⟩ := c
      cases hc
      obtain ⟨s, s', hs, ht, rfl⟩ := readStream?_eq_some hp
      exact followStreams_insert hs (follows_take? ht)
    · obtain ⟨protocol, id, own, peer⟩ := c
      cases hc
      rcases writeStream_eq_some hp with ⟨f, -, rfl⟩ | ⟨s, -, -, -, -, rfl⟩
      · exact .of_eq (Nat.le_refl _) rfl
      · exact followStreams_push h s.peer (.data data)

theorem followStreams_discard (h : InProcessHost) (x : Resource) :
    FollowStreams h (h.discard x) := by
  have hspares := spares_discard h x
  cases x with
  | stream id => exact (followStreams_close h id).trans (followStreams_forget _ id)
  | listener | port | channel | server =>
    exact .of_eq hspares.nextId (hspares.streams (by simp [Resource.kind]))

theorem followStreams_act (h : InProcessHost) (a : HostAct) : FollowStreams h (h.act a) := by
  have hspares := spares_act h a
  have hkeeps (hk : a.kind? ≠ some .stream) : FollowStreams h (h.act a) :=
    .of_eq hspares.nextId (hspares.streams hk)
  cases a with
  | request q => exact followStreams_request h q
  | close x =>
    cases x with
    | stream id => exact followStreams_close h id
    | listener | port | channel | server => exact hkeeps (by simp [HostAct.kind?, Resource.kind])
  | drop x =>
    exact drop_induct (motive := FollowStreams h) x (followStreams_discard h x)
      fun y _ g hg => hg.trans (followStreams_discard g y)
  | serve | addName | log | takeLogs => exact hkeeps (by simp [HostAct.kind?])

theorem followStreams_acts (h : InProcessHost) (l : List HostAct) :
    FollowStreams h (h.acts l) := by
  induction l generalizing h with
  | nil => exact .of_eq (Nat.le_refl _) rfl
  | cons a l ih => exact (followStreams_act h a).trans (ih _)

/-- Stream `r` was there once; if it still is, it is closed or has come to its end. -/
structure Finished (r : Nat) (h : InProcessHost) : Prop where
  old : r < h.nextId
  done : ∀ s, h.streams.find? r = some s → s.closed = true ∨ s.ended = true ∧ s.unread = []

theorem Finished.later (hf : Finished r h) (hl : FollowStreams h h') : Finished r h' := by
  have hold := hf.old
  refine ⟨Nat.lt_of_lt_of_le hold hl.nextId, fun s' hs' => ?_⟩
  obtain ⟨s, hs, hfollows⟩ := hl.streams r s' hold hs'
  exact (hf.done s hs).imp hfollows.closed hfollows.ended

/-- A result comes at once, or when the turn of a call that waits has come. -/
def Tells (h : InProcessHost) (q : Request) (result : Except HostFailure q.Answer)
    (h' : InProcessHost) : Prop :=
  h.answer? q = some (result, h') ∨ h.poll? q = some (result, h')

/-- A call that fails at once is refused, or is one whose turn has come. -/
theorem tells_error_cases {q : Request} {f : HostFailure} (ht : Tells h q (.error f) h') :
    (h.refuses q = true ∧ f = .aborted ∧ h' = h) ∨ h.poll? q = some (.error f, h') := by
  rcases ht with ha | hp
  · rw [InProcessHost.answer?] at ha
    split at ha
    · rename_i hrefused
      cases ha
      exact Or.inl ⟨hrefused, rfl, rfl⟩
    · exact Or.inr ha
  · exact Or.inr hp

theorem Marked.shut_refused (hm : h.Marked) {q : Request} {x : Resource} (hq : q.waits? = some x)
    (hrefused : h.refuses q = true) : Shut x h := by
  rw [refuses_eq hq, isClosed_eq] at hrefused
  obtain ⟨b, hb, hclosed⟩ := (Option.any_eq_true _ _).1 hrefused
  refine ⟨hm.numbered x b hb, fun c hc => ?_⟩
  cases hb.symm.trans hc
  exact hclosed

theorem Shut.finished (hs : Shut (.stream r) h) : Finished r h := by
  refine ⟨hs.old, fun s hfind => Or.inl ?_⟩
  have hinbox : h.inbox? (.stream r) = some s.inbox := congrArg (Option.map Stream.inbox) hfind
  exact hs.closed s.inbox hinbox

theorem take?_error {s s' : Stream} {size : Nat} {f : HostFailure}
    (ht : Stream.take? s size = some (.error f, s')) :
    f = .aborted ∨ f = .connectionClosed ∧ s'.ended = true ∧ s'.unread = [] := by
  unfold Stream.take? at ht
  split at ht
  · cases ht
  · rename_i hunread
    have hempty : s.unread = [] := Decidable.of_not_not hunread
    split at ht
    · rename_i hended
      cases ht
      exact Or.inr ⟨rfl, hended, hempty⟩
    · split at ht
      · cases ht
      · cases ht
      · cases ht
        exact Or.inr ⟨rfl, rfl, hempty⟩
      · cases ht
        exact Or.inl rfl

theorem Marked.finished_told (hm : h.Marked) {c : ConnectionHandle} {size : Nat} {f : HostFailure}
    (hc : c.resource = .stream r) (ht : Tells h (.read c size) (.error f) h') :
    (f = .connectionClosed ∨ f = .aborted) ∧ Finished r h' := by
  obtain ⟨protocol, id, own, peer⟩ := c
  cases protocol with
  | udp => cases hc
  | tcp =>
    cases hc
    rcases tells_error_cases ht with ⟨hrefused, rfl, rfl⟩ | hp
    · exact ⟨Or.inr rfl, (hm.shut_refused rfl hrefused).finished⟩
    · have hpoll := hp
      obtain ⟨s, s', hs, htake, rfl⟩ := readStream?_eq_some hp
      rcases take?_error htake with rfl | ⟨rfl, hended, hempty⟩
      · exact ⟨Or.inr rfl, (hm.shut_told rfl hpoll).finished⟩
      · refine ⟨Or.inl rfl, ?_, fun t ht => ?_⟩
        · exact hm.numbered (.stream id) s.inbox (congrArg (Option.map Stream.inbox) hs)
        · rw [Assoc.find?_insert, if_pos rfl] at ht
          cases ht
          exact Or.inr ⟨hended, hempty⟩

/-- A read of a stream that is over fails at once. -/
theorem Finished.answer? (hf : Finished r h) {c : ConnectionHandle} (hc : c.resource = .stream r)
    (there : (h.inbox? (.stream r)).isSome) (size : Nat) :
    ∃ f h', (f = .connectionClosed ∨ f = .aborted) ∧
      h.answer? (.read c size) = some (.error f, h') := by
  obtain ⟨protocol, id, own, peer⟩ := c
  cases protocol with
  | udp => cases hc
  | tcp =>
    cases hc
    obtain ⟨b, hb⟩ := Option.isSome_iff_exists.1 there
    obtain ⟨s, hs, rfl⟩ := Option.map_eq_some_iff.1 hb
    have hrefuses : h.refuses (.read ⟨.tcp, id, own, peer⟩ size) = s.closed := by
      rw [refuses_eq rfl]
      simp [isClosed, ConnectionHandle.resource, hs]
    rw [InProcessHost.answer?, hrefuses]
    cases hclosed : s.closed with
    | true => exact ⟨.aborted, h, Or.inr rfl, rfl⟩
    | false =>
      rcases hf.done s hs with hshut | ⟨hended, hempty⟩
      · rw [hclosed] at hshut
        cases hshut
      · have htake : Stream.take? s size = some (.error .connectionClosed, s) := by
          simp [Stream.take?, hended, hempty]
        refine ⟨.connectionClosed, { h with streams := h.streams.insert id s }, Or.inl rfl, ?_⟩
        change h.readStream? id size = _
        simp only [readStream?, hs, htake, Option.bind_eq_bind, Option.bind_some]
        rfl

/-! ### After the end -/

theorem Orderly.receive_told (ho : h.Orderly) (hm : h.Marked) {c : ChannelHandle} {f : HostFailure}
    (ht : Tells h (.receiveMessage c) (.error f) h') :
    f = .aborted ∧ Shut c.resource h' ∨
      f = .connectionClosed ∧ Quiet c.id h' ∧ h'.Orderly ∧ h'.Marked := by
  rcases tells_error_cases ht with ⟨hrefused, rfl, rfl⟩ | hp
  · exact Or.inl ⟨rfl, hm.shut_refused rfl hrefused⟩
  · obtain ⟨side, frame, queue, -, -, hanswer, -⟩ := receiveMessage?_eq_some hp
    have hact : h.act (.request (.receiveMessage c)) = h' := act_request hp
    rcases hanswer with ⟨hf, -⟩ | ⟨hf, -⟩ | ⟨m, hf, -⟩
    · cases hf
      exact Or.inl ⟨rfl, hm.shut_told rfl hp⟩
    · cases hf
      exact Or.inr ⟨rfl, ho.quiet_told hp, hact ▸ ho.act _, hact ▸ hm.act _⟩
    · cases hf

/-- A read or a receive has failed, at once or after it waited, on a host that anything was done to
before; it was told that the other side or its own was closed. Then anything is done to the host,
and the same side is still there. A read from a stream fails at once in one of the two ways. A
receive from a channel fails at once when its own side is closed. Otherwise it waits, if what was
told was the end, and it is never given anything but that its own side was closed. -/
theorem after_end (earlier : List HostAct) :
    (∀ (c : ConnectionHandle) (r size : Nat) (f : HostFailure) (h : InProcessHost),
      c.resource = .stream r → Tells (acts {} earlier) (.read c size) (.error f) h →
      (f = .connectionClosed ∨ f = .aborted) ∧
      ∀ (l : List HostAct) (c' : ConnectionHandle) (size' : Nat), c'.resource = .stream r →
        ((h.acts l).inbox? (.stream r)).isSome →
        ∃ f' h', (f' = .connectionClosed ∨ f' = .aborted) ∧
          (h.acts l).answer? (.read c' size') = some (.error f', h')) ∧
    ∀ (c : ChannelHandle) (f : HostFailure) (h : InProcessHost),
      Tells (acts {} earlier) (.receiveMessage c) (.error f) h →
      (f = .aborted ∧ ∀ l, ((h.acts l).inbox? c.resource).isSome →
        (h.acts l).answer? (.receiveMessage c) = some (.error .aborted, h.acts l)) ∨
      (f = .connectionClosed ∧ ∀ l, ((h.acts l).inbox? c.resource).isSome →
        ((h.acts l).answer? (.receiveMessage c) =
          if (h.acts l).isClosed c.resource then some (.error .aborted, h.acts l) else none) ∧
        ∀ answer h', (h.acts l).poll? (.receiveMessage c) = some (answer, h') →
          answer = .error .aborted) := by
  have hmarked : (acts {} earlier).Marked := marked_start.acts earlier
  have horderly : (acts {} earlier).Orderly := orderly_start.acts earlier
  refine ⟨?_, ?_⟩
  · intro c r size f h hc htold
    obtain ⟨hf, hfinished⟩ := hmarked.finished_told hc htold
    refine ⟨hf, fun l c' size' hc' there => ?_⟩
    exact (hfinished.later (followStreams_acts h l)).answer? hc' there size'
  · intro c f h htold
    rcases horderly.receive_told hmarked htold with ⟨rfl, hshut⟩ | ⟨rfl, hquiet, ho, hm⟩
    · exact Or.inl ⟨rfl, fun l there => (hshut.acts l).answer? there rfl⟩
    · refine Or.inr ⟨rfl, fun l there => ?_⟩
      have hlater := hquiet.acts ho l
      exact ⟨hlater.answer? (hm.acts l) there, fun answer h' hp => hlater.poll? hp⟩

/-- The other side is closed. The end is found, and found again when the other side is gone. -/
theorem after_end_of_stream :
    let peer : NetAddress := ⟨.v4 .loopback, 7001⟩
    let near : ConnectionHandle := ⟨.tcp, 1, ⟨.v4 .loopback, 5000⟩, peer⟩
    let earlier : List HostAct := [.request (.listen .tcp peer),
      .request (.dial .tcp (some near.own) peer), .close (.stream 2)]
    let h := (acts {} earlier).act (.request (.read near 8))
    Tells (acts {} earlier) (.read near 8) (.error .connectionClosed) h ∧
      ∃ f h', (f = .connectionClosed ∨ f = .aborted) ∧
        (h.acts [.drop (.stream 2)]).answer? (.read near 3) = some (.error f, h') := by
  intro peer near earlier h
  have hfirst : ((acts {} earlier).poll? (.read near 8)).map Prod.fst =
      some (.error .connectionClosed) := rfl
  obtain ⟨⟨answer, h'⟩, hp, rfl⟩ := Option.map_eq_some_iff.1 hfirst
  have hact : h = h' := act_request hp
  have htold : Tells (acts {} earlier) (.read near 8) (.error .connectionClosed) h :=
    Or.inr (hact ▸ hp)
  have hagain := ((after_end earlier).1 near 1 8 _ h rfl htold).2
  exact ⟨htold, hagain [.drop (.stream 2)] near 3 rfl (by decide +kernel)⟩

/-- The other side of a channel is closed: the first receive is told of it, and the second waits. -/
theorem second_receive_waits :
    let c : ChannelHandle := ⟨1, "ws://a/"⟩
    let h := acts {} [.serve c.url, .request (.dialChannel c.url), .request (.acceptChannel 0),
      .close (.channel 2)]
    let told := h.act (.request (.receiveMessage c))
    (h.answer? (.receiveMessage c)).map Prod.fst = some (.error .connectionClosed) ∧
      (told.inbox? c.resource).isSome ∧ told.answer? (.receiveMessage c) = none := by
  intro c h told
  exact ⟨rfl, by decide +kernel, Option.isNone_iff_eq_none.1 (by decide +kernel)⟩

end SyscallBridge.InProcessHost
