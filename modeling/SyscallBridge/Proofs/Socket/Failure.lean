import SyscallBridge.Proofs.Host.Run
import SyscallBridge.Proofs.Socket.Calls

/-!
# Calls that the host fails

A socket call makes one request to the host, or two if it has to claim a port before it uses it.
Whichever of them fails, the call ends there. How it says so depends on the call alone, and what it
has done to the socket by then is what its first turn did and the port it has claimed.
-/

namespace SyscallBridge

open InProcessHost (acts)

/-- How a call on a socket says that the stream is at its end. -/
def SocketCall.endOfStream (c : SocketCall) (s : Socket) : Except CallError SocketReply :=
  match c, s.endpoint with
  | .read _, _ => .ok (.plain (.data []))
  | .receiveFrom _, .connected _ peer => .ok (.plain (.datagram [] peer))
  | _, _ => .error .endOfStream

/-- The calls that claim a port if they find none. -/
def SocketCall.claims : SocketCall → Bool
  | .sendTo .. | .receiveFrom _ => true
  | _ => false

def SocketPending.isClaim : SocketPending → Bool
  | .claiming .. => true
  | _ => false

namespace Socket

variable {s s₀ : Socket} {c : SocketCall} {p : SocketPending}

/-- A request says that the stream is at its end as the call says it that makes the request, and
one for a port is made by a call that may claim one. -/
theorem Starts.asked {t : Step} (h : Starts s c t) (hp : t.progress = .pending p) :
    p.endOfStream = c.endOfStream s ∧ (p.isClaim = true → s.endpoint.Free ∧ c.claims = true) := by
  cases h with
  | ends hdone =>
    rw [hdone] at hp
    cases hp
  | listens | accepts | dials | dialsFrom | givesBack | reads | writes | sends =>
    cases hp
    exact ⟨rfl, by simp [SocketPending.isClaim]⟩
  | receives hx =>
    cases hp
    simp only [SocketCall.endOfStream, hx]
    exact ⟨rfl, by simp [SocketPending.isClaim]⟩
  | uses use hx =>
    cases hp
    cases use with
    | send data a => exact ⟨rfl, by simp [DatagramUse.pending, SocketPending.isClaim]⟩
    | receive size =>
      simp only [DatagramUse.call, SocketCall.endOfStream, hx]
      exact ⟨rfl, by simp [DatagramUse.pending, SocketPending.isClaim]⟩
  | claims use hx =>
    cases hp
    cases use with
    | send data a => exact ⟨rfl, fun _ => ⟨hx ▸ .unbound, rfl⟩⟩
    | receive size =>
      simp only [DatagramUse.call, SocketCall.endOfStream, hx]
      exact ⟨rfl, fun _ => ⟨.unbound, rfl⟩⟩
  | @claimsFrom address own use hx =>
    cases hp
    cases use with
    | send data a => exact ⟨rfl, fun _ => ⟨hx ▸ .bound address, rfl⟩⟩
    | receive size =>
      simp only [DatagramUse.call, SocketCall.endOfStream, hx]
      exact ⟨rfl, fun _ => ⟨.bound address, rfl⟩⟩

/-! ### Up to the failure -/

/-- A call on socket `s₀` that waits for the host, with the socket, the effects and the resources
that its turns so far have come to. -/
inductive Waits (c : SocketCall) (s₀ : Socket) :
    SocketPending → Socket → List Effect → List Resource → Prop where
  | begins {p : SocketPending} (h : (s₀.start c).progress = .pending p) :
    Waits c s₀ p (s₀.start c).state (s₀.start c).effects []
  | goesOn {p p' : SocketPending} {s : Socket} {effects : List Effect} {given : List Resource}
    (hw : Waits c s₀ p s effects given) (x : p.request.Answer)
    (h : (s.resume p (.ok x)).progress = .pending p') :
    Waits c s₀ p' (s.resume p (.ok x)).state (effects ++ (s.resume p (.ok x)).effects)
      (given ++ (p.obtained? x).toList)

/-- Where a call that waits has got to. -/
inductive Stands (c : SocketCall) (s₀ : Socket) :
    SocketPending → Socket → List Effect → List Resource → Prop where
  | asked {p : SocketPending} (claim : p.isClaim = true → s₀.endpoint.Free ∧ c.claims = true) :
    Stands c s₀ p s₀ [] []
  | claimed {p : SocketPending} (q : PortHandle) (uses : p.isClaim = false)
    (free : s₀.endpoint.Free) (claims : c.claims = true) :
    Stands c s₀ p (s₀.withEndpoint (.datagram q)) [] [q.resource]
  | gaveBack {p : SocketPending} (a : SockAddr) (q : PortHandle) (call : c = .connect a)
    (port : s₀.endpoint = .datagram q) (dials : p.isClaim = false) :
    Stands c s₀ p (s₀.withEndpoint (.bound q.own.text)) [.close q.resource] []

theorem Starts.stands {t : Step} (h : Starts s₀ c t) (hp : t.progress = .pending p) :
    Stands c s₀ p t.state t.effects [] := by
  have hclaim := (h.asked hp).2
  cases h with
  | ends hdone =>
    rw [hdone] at hp
    cases hp
  | @givesBack a q hx =>
    cases hp
    exact .gaveBack a q rfl hx rfl
  | listens | accepts | dials | dialsFrom | reads | writes | sends | receives | uses | claims
  | claimsFrom => exact .asked hclaim

theorem Waits.stands {effects : List Effect} {given : List Resource}
    (h : Waits c s₀ p s effects given) :
    Stands c s₀ p s effects given ∧ p.endOfStream = c.endOfStream s₀ := by
  induction h with
  | begins h =>
    have hstarts := starts_start s₀ c
    exact ⟨hstarts.stands h, (hstarts.asked h).1⟩
  | goesOn hw x h ih =>
    obtain ⟨hstands, hend⟩ := ih
    obtain ⟨own, use, q, rfl, rfl, -⟩ := resume_waits h
    cases hstands with
    | asked claim =>
      obtain ⟨hfree, hc⟩ := claim rfl
      have hturn : s₀.resume (.claiming own use) (.ok x) = .ask _ (use.pending x) :=
        resumeClaim_free x hfree
      have huse : (use.pending q).isClaim = false ∧
          (use.pending q).endOfStream = .error .endOfStream := by
        cases use <;> exact ⟨rfl, rfl⟩
      rw [hturn]
      exact ⟨.claimed x huse.1 hfree hc, huse.2.trans hend⟩
    | claimed q uses => cases uses
    | gaveBack a q call port dials => cases dials

/-- A call that the host fails reports the end of the stream for an exchange that was ended, and
the failure otherwise; the socket that it finds then is left as it is. What it has done before is
nothing, except that sending or receiving may have claimed a port, and that `connect` has closed
the port of a datagram socket and left the address. -/
theorem host_failure_reported_and_socket_kept {effects : List Effect} {given : List Resource}
    (h : Waits c s₀ p s effects given) (f : HostFailure) :
    (∀ found : Socket, found.resume p (.error f) = ⟨found, [], .done
      (if f = .aborted ∨ f = .connectionClosed then c.endOfStream s₀ else .error (.host f))⟩) ∧
    (s = s₀ ∧ effects = [] ∧ given = [] ∨
      (∃ q : PortHandle, c.claims = true ∧ s₀.endpoint.Free ∧
        s = s₀.withEndpoint (.datagram q) ∧ effects = [] ∧ given = [q.resource]) ∨
      ∃ a q, c = .connect a ∧ s₀.endpoint = .datagram q ∧
        s = s₀.withEndpoint (.bound q.own.text) ∧ effects = [.close q.resource] ∧ given = []) := by
  obtain ⟨hstands, hend⟩ := h.stands
  refine ⟨?_, ?_⟩
  · intro found
    rw [resume_error, hend]
  · cases hstands with
    | asked => exact Or.inl ⟨rfl, rfl, rfl⟩
    | claimed q uses free claims => exact Or.inr (Or.inl ⟨q, claims, free, rfl, rfl, rfl⟩)
    | gaveBack a q call port => exact Or.inr (Or.inr ⟨a, q, call, port, rfl, rfl, rfl⟩)

/-- A first send that claims a port and is then aborted. -/
theorem host_failure_reported_and_socket_kept_after_claim :
    let a := SockAddr.inet4 .loopback 6000
    let q : PortHandle := ⟨0, ⟨.v4 .unspecified, 49152⟩⟩
    let s₀ : Socket := ⟨.udp, .inet4, .unbound⟩
    let s := s₀.withEndpoint (.datagram q)
    Waits (.sendTo [1] a) s₀ (.sending q [1] a) s [] [q.resource] ∧
      s.resume (.sending q [1] a) (.error .aborted) = ⟨s, [], .done (.error .endOfStream)⟩ := by
  intro a q s₀ s
  have hclaims : Waits (.sendTo [1] a) s₀
      (.claiming (SockAddr.unspecified .inet4).toNet (.send [1] a)) s₀ [] [] := .begins rfl
  have hsends : Waits (.sendTo [1] a) s₀ (.sending q [1] a) s [] [q.resource] :=
    hclaims.goesOn q rfl
  exact ⟨hsends, (host_failure_reported_and_socket_kept hsends .aborted).1 s⟩

/-- A datagram socket that has a port, and a datagram waiting there, is connected and the host
refuses: the socket has no port any more, the port is closed, and a port that is claimed anew at
its address has nothing to receive. -/
theorem refused_connect_loses_port :
    let own : NetAddress := ⟨.v4 .loopback, 6000⟩
    let a := SockAddr.inet4 .loopback 7001
    let q : PortHandle := ⟨0, own⟩
    let s : Socket := ⟨.udp, .inet4, .datagram q⟩
    let h := acts {} [.request (.bindPort own), .request (.sendTo q [1, 2] own)]
    let h' := h.close q.resource
    s.start (.connect a) = ⟨s.withEndpoint (.bound own.text), [.close q.resource],
      .pending (.connecting .udp (some own) a)⟩ ∧
    ((s.start (.connect a)).state.resume (.connecting .udp (some own) a)
      (.error .connectionRefused)).state ≠ s ∧
    (h.poll? (.receiveFrom q 8)).map Prod.fst = some (.ok ([1, 2], own)) ∧
    h'.refuses (.receiveFrom q 8) = true ∧
    (h'.act (.request (.bindPort own))).poll? (.receiveFrom ⟨1, own⟩ 8) = none := by
  intro own a q s h h'
  have hstart : s.start (.connect a) = ⟨s.withEndpoint (.bound own.text), [.close q.resource],
      .pending (.connecting .udp (some own) a)⟩ :=
    startConnect_datagram (s := s) (a := a) (q := q) rfl rfl rfl
  refine ⟨hstart, ?_, ?_, ?_, ?_⟩
  · rw [hstart, resume_error]
    intro hs
    cases congrArg Socket.endpoint hs
  · decide
  · decide
  · decide

end Socket

end SyscallBridge
