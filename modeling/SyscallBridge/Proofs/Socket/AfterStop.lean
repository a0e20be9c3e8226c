import SyscallBridge.Proofs.Host.ClosedResources
import SyscallBridge.Proofs.Socket.Calls

/-!
# Receiving after a stop

`ComesTo` takes a call from its first turn to its end, or to a request that the host leaves
waiting. With it, what `receiveFrom` finds on a datagram socket that was stopped or closed: the end
of the stream where the host had a resource to close, a new port where it had none, and a closed
socket that is no end of a stream.
-/

namespace SyscallBridge

open InProcess

namespace InProcessHost

/-- The host when a turn has closed what it closes. -/
def closeAll (h : InProcessHost) (effects : List Effect) : InProcessHost :=
  (closings effects).foldl close h

theorem closeAll_closing {x : Endpoint} {r : Resource} (hx : x.resource? = some r)
    (h : InProcessHost) : h.closeAll x.closing = h.close r := by
  rw [closeAll, closings_closing, hx]
  rfl

/-- A port is opened with nothing in its queue, so who receives from it has to wait. -/
theorem receive_waits_of_bindPort {h h' : InProcessHost} {own : NetAddress} {q : PortHandle}
    (hb : h.bindPort own = some (.ok q, h')) (size : Nat) :
    h'.answer? (.receiveFrom q size) = none := by
  rcases bindPort_eq_some hb with ⟨f, next, hf, -⟩ | ⟨a, next, hq, -, rfl, -⟩
  · cases hf
  · cases hq
    have hnew : (h.ports.insert h.nextId { slot := h.slots.insert.1, own := a }).find? h.nextId =
        some { slot := h.slots.insert.1, own := a } := by
      rw [Assoc.find?_insert, if_pos rfl]
    simp [answer?, refuses, Request.waits?, PortHandle.resource, isClosed, poll?,
      receiveDatagram?, takeDatagram?, hnew]

end InProcessHost

namespace Socket

/-- What a call comes to from a turn on, if nothing else happens: the host and the socket at its
end with the result, or as they are when it has to wait, without one. -/
inductive ComesTo : InProcessHost → Step → InProcessHost → Socket →
    Option (Except CallError SocketReply) → Prop where
  | ends {h : InProcessHost} {t : Step} {result : Except CallError SocketReply}
    (hd : t.progress = .done result) : ComesTo h t (h.closeAll t.effects) t.state (some result)
  | waits {h : InProcessHost} {t : Step} {p : SocketPending} (hp : t.progress = .pending p)
    (ha : (h.closeAll t.effects).answer? p.request = none) :
    ComesTo h t (h.closeAll t.effects) t.state none
  | goesOn {h h' h'' : InProcessHost} {t : Step} {p : SocketPending} {s : Socket}
    {answer : Except HostFailure p.request.Answer} {result : Option (Except CallError SocketReply)}
    (hp : t.progress = .pending p)
    (ha : (h.closeAll t.effects).answer? p.request = some (answer, h'))
    (hrest : ComesTo h' (t.state.resume p answer) h'' s result) : ComesTo h t h'' s result

theorem ComesTo.unique {h h₁ h₂ : InProcessHost} {t : Step} {s₁ s₂ : Socket}
    {r₁ r₂ : Option (Except CallError SocketReply)} (h₁' : ComesTo h t h₁ s₁ r₁)
    (h₂' : ComesTo h t h₂ s₂ r₂) : h₁ = h₂ ∧ s₁ = s₂ ∧ r₁ = r₂ := by
  -- a turn is done or pending, and a request is answered or not: no two ways go together
  induction h₁' with
  | ends hd =>
    cases h₂' with
    | ends hd' =>
      rw [hd] at hd'
      cases hd'
      exact ⟨rfl, rfl, rfl⟩
    | waits hp | goesOn hp =>
      rw [hd] at hp
      cases hp
  | waits hp ha =>
    cases h₂' with
    | ends hd =>
      rw [hd] at hp
      cases hp
    | waits => exact ⟨rfl, rfl, rfl⟩
    | goesOn hp' ha' =>
      rw [hp] at hp'
      cases hp'
      rw [ha] at ha'
      cases ha'
  | goesOn hp ha _ ih =>
    cases h₂' with
    | ends hd =>
      rw [hd] at hp
      cases hp
    | waits hp' ha' =>
      rw [hp] at hp'
      cases hp'
      rw [ha] at ha'
      cases ha'
    | goesOn hp' ha' hrest =>
      rw [hp] at hp'
      cases hp'
      rw [ha] at ha'
      cases ha'
      exact ih hrest

theorem ComesTo.iff {h h₁ h₂ : InProcessHost} {t : Step} {s₁ s₂ : Socket}
    {r₁ r₂ : Option (Except CallError SocketReply)} (h₁' : ComesTo h t h₁ s₁ r₁) :
    ComesTo h t h₂ s₂ r₂ ↔ h₂ = h₁ ∧ s₂ = s₁ ∧ r₂ = r₁ := by
  constructor
  · intro h₂'
    exact h₂'.unique h₁'
  · rintro ⟨rfl, rfl, rfl⟩
    exact h₁'

/-- A call that asks one thing of a resource that is closed. -/
theorem comesTo_of_shut {h : InProcessHost} {s : Socket} {p : SocketPending} {x : Resource}
    (hs : h.Shut x) (there : (h.inbox? x).isSome) (hp : p.request.waits? = some x) :
    ComesTo h (.ask s p) h s (some p.endOfStream) := by
  refine .goesOn (t := .ask s p) rfl (hs.answer? there hp) ?_
  rw [resume_error, if_pos (Or.inl rfl)]
  exact .ends rfl

/-- Where a socket that has no resource yet claims its port. -/
inductive ClaimsAt (s : Socket) : NetAddress → Prop where
  | anywhere (hx : s.endpoint = .unbound) : ClaimsAt s (SockAddr.unspecified s.family).toNet
  | bound {address : String} {own : NetAddress} (hx : s.endpoint = .bound address)
    (ho : boundAddress address = .ok own) : ClaimsAt s own

variable {s : Socket} {size : Nat}

theorem start_receive_connected {c : ConnectionHandle} {peer : SockAddr}
    (hx : s.endpoint = .connected c peer) :
    s.start (.receiveFrom size) = .ask s (.readingFrom c size peer) := by
  change s.startReceiveFrom size = _
  simp only [startReceiveFrom, hx]

theorem start_receive_datagram (hudp : s.protocol = .udp) {q : PortHandle}
    (hx : s.endpoint = .datagram q) :
    s.start (.receiveFrom size) = .ask s (.receiving q size) := by
  change s.startReceiveFrom size = _
  simp [startReceiveFrom, hx, hudp, useDatagram]

theorem start_receive_claims (hudp : s.protocol = .udp) {own : NetAddress} (hc : s.ClaimsAt own) :
    s.start (.receiveFrom size) = .ask s (.claiming own (.receive size)) := by
  change s.startReceiveFrom size = _
  cases hc with
  | anywhere hx => simp [startReceiveFrom, hx, hudp, useDatagram]
  | bound hx ho => simp [startReceiveFrom, hx, hudp, useDatagram, guarded, ho]

theorem start_receive_closed (hudp : s.protocol = .udp) (hx : s.endpoint = .closed) :
    s.start (.receiveFrom size) = s.invalid "socket is closed" := by
  change s.startReceiveFrom size = _
  simp [startReceiveFrom, hx, hudp, useDatagram]

/-- A first receive claims a port and waits there for its first datagram. -/
theorem comesTo_of_claim (hudp : s.protocol = .udp) {own : NetAddress} (hc : s.ClaimsAt own)
    {h h' : InProcessHost} {q : PortHandle} (hb : h.bindPort own = some (.ok q, h')) :
    ComesTo h (s.start (.receiveFrom size)) h' (s.withEndpoint (.datagram q)) none := by
  have hfree : s.endpoint.Free := by
    cases hc with
    | anywhere hx => exact hx ▸ .unbound
    | bound hx => exact hx ▸ .bound _
  rw [start_receive_claims hudp hc]
  refine .goesOn (t := .ask s (.claiming own (.receive size))) rfl hb ?_
  change ComesTo h' (s.resumeClaim (.receive size) q) _ _ _
  rw [resumeClaim_free q hfree]
  have hwaits := InProcessHost.receive_waits_of_bindPort hb size
  exact .waits (t := .ask (s.withEndpoint (.datagram q)) (.receiving q size)) rfl hwaits

/-- The host some time after a call on the socket that ends in one turn. -/
def hostAfter (s : Socket) (c : SocketCall) (h : InProcessHost) (l : List HostAct) :
    InProcessHost := (h.closeAll (s.start c).effects).acts l

theorem resource?_ne_server {e : Endpoint} {x : Resource} (hx : e.resource? = some x) (id : Nat) :
    x ≠ .server id := by
  cases e with
  | connected c peer =>
    obtain ⟨protocol, n, own, far⟩ := c
    cases protocol <;> cases hx <;> simp [ConnectionHandle.resource]
  | listening | datagram =>
    cases hx
    simp [ListenerHandle.resource, PortHandle.resource]
  | unbound | bound | closed => cases hx

theorem shut_after_stop {h : InProcessHost} (hm : h.Marked) {x : Resource}
    (hx : s.endpoint.resource? = some x) (there : (h.inbox? x).isSome) (l : List HostAct) :
    (s.hostAfter .stopIo h l).Shut x := by
  have hclosing : h.closeAll (s.start .stopIo).effects = h.close x :=
    InProcessHost.closeAll_closing hx h
  rw [hostAfter, hclosing]
  exact (hm.shut_close (resource?_ne_server hx) there).acts l

/-- A datagram socket is stopped or closed on a host that anything has been done to and that runs
on in any way, its resource being there. The stop leaves the socket as it is. A `receiveFrom` that
follows it comes to nothing from the peer of a connected socket, and to the end of the stream on a
socket with a port; a socket that has neither claims a port all the same and waits there. After a
`close` there is no end of a stream: `receiveFrom` fails, since the socket is closed. -/
theorem receive_after_stop (earlier l : List HostAct) (hudp : s.protocol = .udp) (size : Nat) :
    let before := InProcessHost.acts {} earlier
    let stopped := s.hostAfter .stopIo before l
    let closed := s.hostAfter .close before l
    (s.start .stopIo).state = s ∧
    (∀ x, s.endpoint.resource? = some x → (before.inbox? x).isSome → (stopped.inbox? x).isSome →
      (∀ c peer, s.endpoint = .connected c peer → ∀ h' s' result,
        ComesTo stopped (s.start (.receiveFrom size)) h' s' result ↔
          h' = stopped ∧ s' = s ∧ result = some (.ok (.plain (.datagram [] peer)))) ∧
      (∀ q, s.endpoint = .datagram q → ∀ h' s' result,
        ComesTo stopped (s.start (.receiveFrom size)) h' s' result ↔
          h' = stopped ∧ s' = s ∧ result = some (.error .endOfStream))) ∧
    (∀ own, s.ClaimsAt own → (s.start .stopIo).effects = [] ∧
      ∀ q h', stopped.bindPort own = some (.ok q, h') →
        ComesTo stopped (s.start (.receiveFrom size)) h' (s.withEndpoint (.datagram q)) none) ∧
    ∀ h' s' result, ComesTo closed ((s.start .close).state.start (.receiveFrom size)) h' s' result ↔
      h' = closed ∧ s' = s.withEndpoint .closed ∧
        result = some (.error (.invalidState "socket is closed")) := by
  intro before stopped closed
  have hmarked : before.Marked := InProcessHost.marked_start.acts earlier
  refine ⟨rfl, ?_, ?_, ?_⟩
  · intro x hx there therestill
    have hshut : stopped.Shut x := shut_after_stop hmarked hx there l
    refine ⟨?_, ?_⟩
    · intro c peer hc h' s' result
      rw [hc] at hx
      rw [start_receive_connected hc]
      exact (comesTo_of_shut (p := .readingFrom c size peer) hshut therestill hx).iff
    · intro q hq h' s' result
      rw [hq] at hx
      rw [start_receive_datagram hudp hq]
      exact (comesTo_of_shut (p := .receiving q size) hshut therestill hx).iff
  · -- nothing to close, so the stop leaves no trace and the port is claimed as ever
    intro own hown
    refine ⟨?_, fun q h' hb => comesTo_of_claim hudp hown hb⟩
    change s.endpoint.closing = []
    cases hown with
    | anywhere hx | bound hx => rw [hx]; rfl
  · intro h' s' result
    have hstart : (s.start .close).state.start (.receiveFrom size) =
        (s.withEndpoint .closed).invalid "socket is closed" :=
      start_receive_closed (s := s.withEndpoint .closed) hudp rfl
    rw [hstart]
    exact (ComesTo.ends rfl).iff

/-- A connected socket that has a datagram in its queue when it is stopped, and is sent another one
after that. -/
theorem receive_after_stop_of_connected :
    let peer := SockAddr.inet4 .loopback 7001
    let c : ConnectionHandle := ⟨.udp, 1, ⟨.v4 .loopback, 49152⟩, peer.toNet⟩
    let s : Socket := ⟨.udp, .inet4, .connected c peer⟩
    let sends : HostAct := .request (.sendTo ⟨0, peer.toNet⟩ [1, 2] c.own)
    let earlier : List HostAct :=
      [.request (.bindPort peer.toNet), .request (.dial .udp none peer.toNet), sends]
    let stopped := s.hostAfter .stopIo (InProcessHost.acts {} earlier) [sends]
    ComesTo stopped (s.start (.receiveFrom 8)) stopped s
      (some (.ok (.plain (.datagram [] peer)))) := by
  intro peer c s sends earlier stopped
  have hstop := (receive_after_stop (s := s) earlier [sends] rfl 8).2.1
  exact ((hstop (.port 1) rfl (by decide) (by decide)).1 c peer rfl stopped s _).2 ⟨rfl, rfl, rfl⟩

/-- A socket without a port that is closed: receiving from it fails, and not with the end of the
stream. If it is stopped instead, receiving claims a port and waits. -/
theorem receive_fails_on_closed_socket :
    let s : Socket := ⟨.udp, .inet4, .unbound⟩
    let q : PortHandle := ⟨0, ⟨.v4 .unspecified, 49152⟩⟩
    let closed := (s.start .close).state.start (.receiveFrom 8)
    (∀ h s', ¬ ComesTo {} closed h s' (some (.error .endOfStream))) ∧
      ComesTo {} closed {} (s.withEndpoint .closed)
        (some (.error (.invalidState "socket is closed"))) ∧
      ∃ h, ComesTo {} ((s.start .stopIo).state.start (.receiveFrom 8)) h
        (s.withEndpoint (.datagram q)) none := by
  intro s q closed
  have hfails : ComesTo {} closed {} (s.withEndpoint .closed)
      (some (.error (.invalidState "socket is closed"))) := .ends rfl
  refine ⟨?_, hfails, ?_⟩
  · intro h s' hend
    have hresult := (hend.unique hfails).2.2
    cases hresult
  · have hclaims : s.ClaimsAt ⟨.v4 .unspecified, 0⟩ := .anywhere rfl
    exact ⟨_, comesTo_of_claim (q := q) rfl hclaims rfl⟩

end Socket

end SyscallBridge
