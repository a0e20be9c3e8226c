import SyscallBridge.Proofs.Host.Run
import SyscallBridge.Proofs.Socket.Calls

/-!
# The own name of a bound socket

An address that a socket is bound to goes from its endpoint into every request that is made for the
socket from then on, and from what the host gives for it back into the endpoint. A request that was
made before knows nothing of the address, and what it brings replaces it.
-/

namespace SyscallBridge

/-- The socket is at an address, as long as it is not closed. -/
def Endpoint.SitsAt (a : SockAddr) : Endpoint → Prop
  | .unbound => False
  | .bound address => address = a.text
  | .listening l => l.address = a.toNet
  | .connected c _ => c.own = a.toNet
  | .datagram p => p.own = a.toNet
  | .closed => True

namespace SocketPending

/-- A request for a resource with an own address is one for address `a`. -/
def AsksFor (a : SockAddr) : SocketPending → Prop
  | listening _ own => own = a.toNet
  | connecting _ own _ => own = some a.toNet
  | claiming own _ => own = a.toNet
  | _ => True

/-- What a socket without an address asks for. -/
inductive Placeless (family : Family) : SocketPending → Prop where
  | connecting (protocol : Protocol) (peer : SockAddr) :
    Placeless family (connecting protocol none peer)
  | claiming (use : DatagramUse) :
    Placeless family (claiming (SockAddr.unspecified family).toNet use)

end SocketPending

variable {a : SockAddr}

namespace Socket

variable {s : Socket} {c : SocketCall} {p : SocketPending} {t : Step}

theorem boundAddress_of_text {own : NetAddress} (h : boundAddress a.text = .ok own) :
    own = a.toNet := by
  have hread : boundAddress a.text = .ok a.toNet := boundAddress_text a.toNet
  rw [hread] at h
  exact (Except.ok.inj h).symm

/-- The own name of a socket at an address is that address. -/
theorem ownName_of_sitsAt (h : s.endpoint.SitsAt a) (hc : s.endpoint ≠ .closed) :
    s.start .ownName = s.reply (.address a) := by
  change s.startOwnName = _
  rw [startOwnName]
  cases hx : s.endpoint with
  | unbound =>
    rw [hx] at h
    cases h
  | bound address =>
    rw [hx] at h
    cases h
    have hread : SockAddr.parse a.text = .ok a := by
      rw [SockAddr.text, SockAddr.parse_netText, SockAddr.ofNet_toNet]
    simp only [guarded, hread]
  | listening l =>
    rw [hx] at h
    have hl : l.address = a.toNet := h
    simp only [hl, SockAddr.ofNet_toNet]
  | connected conn peer =>
    rw [hx] at h
    have hconn : conn.own = a.toNet := h
    simp only [hconn, SockAddr.ofNet_toNet]
  | datagram q =>
    rw [hx] at h
    have hq : q.own = a.toNet := h
    simp only [hq, SockAddr.ofNet_toNet]
  | closed => exact absurd hx hc

/-! ### What is asked for -/

theorem Starts.asksFor (h : Starts s c t) (hs : s.endpoint.SitsAt a)
    (hp : t.progress = .pending p) : p.AsksFor a := by
  cases h with
  | ends hdone =>
    rw [hdone] at hp
    cases hp
  | listens hx ho | claimsFrom _ hx ho =>
    rw [hx] at hs
    cases hs
    cases hp
    exact boundAddress_of_text ho
  | dialsFrom hx ho =>
    rw [hx] at hs
    cases hs
    cases hp
    exact congrArg some (boundAddress_of_text ho)
  | dials hx | claims use hx =>
    rw [hx] at hs
    cases hs
  | givesBack hx =>
    rw [hx] at hs
    cases hp
    exact congrArg some hs
  | uses use hx =>
    cases hp
    cases use <;> trivial
  | accepts | reads | writes | sends | receives =>
    cases hp
    trivial

theorem Starts.placeless (h : Starts s c t) (hs : s.endpoint = .unbound)
    (hp : t.progress = .pending p) : p.Placeless s.family := by
  cases h with
  | ends hdone =>
    rw [hdone] at hp
    cases hp
  | dials =>
    cases hp
    exact .connecting _ _
  | claims use =>
    cases hp
    exact .claiming use
  | listens hx | dialsFrom hx | claimsFrom _ hx | givesBack hx | uses _ hx | accepts hx | reads hx
  | writes hx | sends hx | receives hx =>
    rw [hs] at hx
    cases hx

theorem start_bind_done {r : SocketReply}
    (h : (s.start (.bind a)).progress = .done (.ok r)) :
    s.endpoint = .unbound ∧ (s.start (.bind a)).state = s.withEndpoint (.bound a.text) := by
  change (s.startBind a).progress = _ at h
  change _ ∧ (s.startBind a).state = _
  unfold startBind guarded at h ⊢
  cases hf : s.checkFamily a with
  | error e =>
    rw [hf] at h
    cases h
  | ok x =>
    cases hx : s.endpoint with
    | unbound => exact ⟨rfl, rfl⟩
    | bound | listening | connected | datagram | closed =>
      rw [hf, hx] at h
      cases h

end Socket

/-! ### What the host gives -/

namespace InProcessHost

variable {h h' : InProcessHost} {own peer : NetAddress}

theorem listen_address {protocol : Protocol} {l : ListenerHandle}
    (hp : h.poll? (.listen protocol own) = some (.ok l, h')) (hport : own.port ≠ 0) :
    l.address = own := by
  rcases listen_eq_some hp with ⟨f, next, hok, -⟩ | ⟨b, next, hok, hb, -⟩
  · cases hok
  · cases hok
    exact hb.port hport

theorem dial_own {protocol : Protocol} {c : ConnectionHandle}
    (hp : h.poll? (.dial protocol (some own) peer) = some (.ok c, h')) (hport : own.port ≠ 0) :
    c.own = own := by
  cases protocol with
  | tcp =>
    rcases dialStream_eq_some hp with ⟨f, hok, -⟩ | ⟨b, next, l, hok, hb, -⟩ |
      ⟨next, slots, streams, hok, -⟩
    · cases hok
    · cases hok
      exact hb.port hport
    · cases hok
  | udp =>
    rcases dialDatagram_eq_some hp with ⟨f, next, hok, -⟩ | ⟨b, next, hok, hb, -⟩
    · cases hok
    · cases hok
      exact hb.port hport

theorem bindPort_own {q : PortHandle} (hp : h.poll? (.bindPort own) = some (.ok q, h'))
    (hport : own.port ≠ 0) : q.own = own := by
  rcases bindPort_eq_some hp with ⟨f, next, hok, -⟩ | ⟨b, next, hok, hb, -⟩
  · cases hok
  · cases hok
    exact hb.port hport

end InProcessHost

namespace SocketEvent

/-- A success is one that the host inside the process can give. -/
def FromHost : SocketEvent → Prop
  | .answer p (.ok x) => ∃ h h' : InProcessHost, h.poll? p.request = some (.ok x, h')
  | _ => True

/-- The event is a success of one of these calls at the host. -/
def Serves (calls : List SocketPending) : SocketEvent → Prop
  | .answer p (.ok _) => p ∈ calls
  | _ => False

end SocketEvent

theorem SockAddr.port_toNet (a : SockAddr) : a.toNet.port = a.port := by
  cases a <;> rfl

/-- An endpoint at an address stays there, if what the host gives was asked for there. -/
theorem Moves.sitsAt {protocol : Protocol} {e : SocketEvent} {x y : Endpoint}
    (h : Moves protocol e x y) (hx : x.SitsAt a) (hport : a.port ≠ 0) (hhost : e.FromHost)
    (hasks : ∀ p answer, e = .answer p (.ok answer) → p.AsksFor a) : y.SitsAt a := by
  have hnet : a.toNet.port ≠ 0 := by rwa [SockAddr.port_toNet]
  cases h with
  | stays => exact hx
  | binds => cases hx
  | closes => trivial
  | givesBack b q =>
    have hq : q.own = a.toNet := hx
    change q.own.text = a.text
    rw [hq, SockAddr.text]
  | listens asked own l address =>
    obtain ⟨h, h', hp⟩ := hhost
    have hown : own = a.toNet := hasks _ _ rfl
    subst hown
    exact InProcessHost.listen_address hp hnet
  | connects asked own b c free =>
    obtain ⟨h, h', hp⟩ := hhost
    have hown : own = some a.toNet := hasks _ _ rfl
    subst hown
    exact InProcessHost.dial_own hp hnet
  | claims own use q free =>
    obtain ⟨h, h', hp⟩ := hhost
    have hown : own = a.toNet := hasks _ _ rfl
    subst hown
    exact InProcessHost.bindPort_own hp hnet

theorem Moves.to_unbound {protocol : Protocol} {e : SocketEvent} {x : Endpoint}
    (h : Moves protocol e x .unbound) : x = .unbound := by
  cases h
  rfl

namespace SocketRun

variable {r r' : SocketRun} {e : SocketEvent} {stale : List SocketPending}

/-- A run over the host inside the process in which none of the calls that are stale succeeds at
the host. -/
inductive Without (stale : List SocketPending) : SocketRun → SocketRun → Prop where
  | refl (r : SocketRun) : Without stale r r
  | step {r r' : SocketRun} (h : Without stale r r') (e : SocketEvent)
    (he : e.Enabled r'.waiting) (hhost : e.FromHost) (hstale : ¬ e.Serves stale) :
    Without stale r (r'.next e)

/-- The socket is at its address, and what is not stale asks for that address. -/
structure AtAddress (a : SockAddr) (stale : List SocketPending) (r : SocketRun) : Prop where
  sits : r.endpoint.SitsAt a
  asks : ∀ p ∈ r.waiting, p ∈ stale ∨ p.AsksFor a

theorem AtAddress.next (h : r.AtAddress a stale) (htcp : r.ListensTcp) (hport : a.port ≠ 0)
    (he : e.Enabled r.waiting) (hhost : e.FromHost) (hstale : ¬ e.Serves stale) :
    (r.next e).AtAddress a stale := by
  refine ⟨?_, ?_⟩
  · refine (htcp.moves he).sitsAt h.sits hport hhost ?_
    rintro p answer rfl
    exact (h.asks p he).resolve_left hstale
  · intro p hp
    rcases List.mem_append.1 hp with hp | hp
    · exact h.asks p (e.others_subset r.waiting hp)
    · have hasked := Socket.Step.mem_asked hp
      rcases Socket.turn_asks hasked with ⟨c, rfl, hstart⟩ | ⟨use, q, rfl, -⟩
      · exact Or.inr ((Socket.starts_start r.socket c).asksFor h.sits hstart)
      · refine Or.inr ?_
        cases use <;> trivial

theorem AtAddress.without (h : r.AtAddress a stale) (htcp : r.ListensTcp) (hport : a.port ≠ 0)
    (hl : Without stale r r') : r'.AtAddress a stale ∧ r'.ListensTcp := by
  induction hl with
  | refl => exact ⟨h, htcp⟩
  | step hl e he hhost hstale ih =>
    obtain ⟨hat, htcp⟩ := ih
    exact ⟨hat.next htcp hport he hhost hstale, htcp.next he⟩

/-- As long as a socket is unbound, its calls ask for any address. -/
def Unplaced (r : SocketRun) : Prop :=
  r.endpoint = .unbound → ∀ p ∈ r.waiting, p.Placeless r.socket.family

theorem Unplaced.next (h : r.Unplaced) (htcp : r.ListensTcp) (he : e.Enabled r.waiting) :
    (r.next e).Unplaced := by
  intro hafter p hp
  have hturn := htcp.turn he
  have hbefore : r.endpoint = .unbound := (hafter ▸ htcp.moves he).to_unbound
  have hfamily : (r.next e).socket.family = r.socket.family := hturn.same_family
  rw [hfamily]
  rcases List.mem_append.1 hp with hp | hp
  · exact h hbefore p (e.others_subset r.waiting hp)
  · have hasked := Socket.Step.mem_asked hp
    rcases Socket.turn_asks hasked with ⟨c, rfl, hstart⟩ | ⟨use, q, -, hport⟩
    · exact (Socket.starts_start r.socket c).placeless hbefore hstart
    · have hunbound : (e.turn r.socket).state.endpoint = .unbound := hafter
      rw [hunbound] at hport
      cases hport

theorem Unplaced.later (h : r.Unplaced) (htcp : r.ListensTcp) (hl : Later r r') : r'.Unplaced := by
  induction hl with
  | refl => exact h
  | step hl e he ih => exact ih.next (htcp.later hl).1 he

/-- After `bind` with a port, the own name of a socket is the address that it was bound to, until
the socket is closed, whatever goes on, if none of the calls that have waited since before the
`bind` succeeds at the host after it. Those calls are the ones that ask for any address. -/
theorem own_name_stays_bound {s : Socket} (hr : Later (start s) r)
    (hbind : (r.socket.start (.bind a)).progress = .done (.ok (.plain .done)))
    (hport : a.port ≠ 0) (hl : Without r.waiting (r.next (.call (.bind a))) r') :
    (∀ p ∈ r.waiting, p.Placeless r.socket.family) ∧
      (r'.endpoint ≠ .closed → r'.socket.start .ownName = r'.socket.reply (.address a)) := by
  have htcp := ((listensTcp_start s).later hr).1
  obtain ⟨hunbound, hbound⟩ := Socket.start_bind_done hbind
  have hstart : (start s).Unplaced := fun _ p hp => absurd hp (List.not_mem_nil)
  refine ⟨(hstart.later (listensTcp_start s) hr) hunbound, ?_⟩
  intro hopen
  have hat : (r.next (.call (.bind a))).AtAddress a r.waiting := by
    refine ⟨?_, ?_⟩
    · change (r.socket.start (.bind a)).state.endpoint.SitsAt a
      rw [hbound]
      exact rfl
    · intro p hp
      rcases List.mem_append.1 hp with hp | hp
      · exact Or.inl hp
      · have hasked := Socket.Step.mem_asked hp
        change (r.socket.start (.bind a)).progress = _ at hasked
        rw [hbind] at hasked
        cases hasked
  have hafter := (hat.without (htcp.next trivial) hport hl).1
  exact Socket.ownName_of_sitsAt hafter.sits hopen

/-- A socket that is bound and then connects goes out from its address. -/
theorem own_name_stays_bound_connected :
    let a := SockAddr.inet4 .loopback 6000
    let peer := SockAddr.inet4 .loopback 7001
    let c : ConnectionHandle := ⟨.tcp, 1, a.toNet, peer.toNet⟩
    let r := start ⟨.tcp, .inet4, .unbound⟩
    let bound := r.next (.call (.bind a))
    let dialing := bound.next (.call (.connect peer))
    let r' := dialing.next (.answer (.connecting .tcp (some a.toNet) peer) (.ok c))
    r'.endpoint = .connected c peer ∧ Without r.waiting bound r' ∧
      r'.socket.start .ownName = r'.socket.reply (.address a) := by
  intro a peer c r bound dialing r'
  have hask : bound.socket.start (.connect peer) =
      .ask bound.socket (.connecting .tcp (some a.toNet) peer) :=
    Socket.startConnect_bound (s := bound.socket) (a := peer) rfl rfl rfl
      (Socket.boundAddress_text a.toNet)
  have hwaiting : dialing.waiting = [.connecting .tcp (some a.toNet) peer] := by
    change bound.waiting ++ (bound.socket.start (.connect peer)).asked = _
    rw [hask]
    rfl
  have hsocket : dialing.socket = bound.socket := by
    change (bound.socket.start (.connect peer)).state = _
    rw [hask]
    rfl
  have hconnected : r'.endpoint = .connected c peer := by
    change (dialing.socket.resumeConnect peer c).state.endpoint = _
    rw [hsocket]
    rfl
  have hhost : SocketEvent.FromHost (.answer (.connecting .tcp (some a.toNet) peer) (.ok c)) :=
    ⟨InProcessHost.acts {} [.request (.listen .tcp peer.toNet)], _, rfl⟩
  have hdialing : Without r.waiting bound dialing := (Without.refl bound).step _ trivial trivial id
  have hl : Without r.waiting bound r' :=
    hdialing.step _ (hwaiting ▸ List.mem_singleton.2 rfl) hhost (List.not_mem_nil)
  refine ⟨hconnected, hl, ?_⟩
  refine (own_name_stays_bound (Later.refl r) rfl (by decide) hl).2 ?_
  rw [hconnected]
  simp

/-- A socket that is bound while it connects from any address: the connection comes with another
address, and that one is the name of the socket from then on. -/
theorem connect_replaces_bound_address :
    let a := SockAddr.inet4 .loopback 6000
    let peer := SockAddr.inet4 .loopback 7001
    let c : ConnectionHandle := ⟨.tcp, 1, ⟨.v4 .loopback, 49152⟩, peer.toNet⟩
    let dialing := (start ⟨.tcp, .inet4, .unbound⟩).next (.call (.connect peer))
    let r' := (dialing.next (.call (.bind a))).next (.answer (.connecting .tcp none peer) (.ok c))
    (dialing.socket.start (.bind a)).progress = .done (.ok (.plain .done)) ∧
      Without [] (dialing.next (.call (.bind a))) r' ∧ r'.endpoint ≠ .closed ∧
      r'.socket.start .ownName = r'.socket.reply (.address (.inet4 .loopback 49152)) ∧
      SockAddr.inet4 .loopback 49152 ≠ a := by
  intro a peer c dialing r'
  have hhost : SocketEvent.FromHost (.answer (.connecting .tcp none peer) (.ok c)) :=
    ⟨InProcessHost.acts {} [.request (.listen .tcp peer.toNet)], _, rfl⟩
  have hwaits : SocketEvent.Enabled (dialing.next (.call (.bind a))).waiting
      (.answer (.connecting .tcp none peer) (.ok c)) := List.mem_singleton.2 rfl
  have hl : Without [] (dialing.next (.call (.bind a))) r' :=
    (Without.refl _).step _ hwaits hhost (List.not_mem_nil)
  exact ⟨rfl, hl, by decide, rfl, by decide⟩

end SocketRun

end SyscallBridge
