import SyscallBridge.Proofs.Socket.OwnName

/-!
# Stopping a socket under a call

A `listen` or a `connect` that waits for the host when its socket is closed has failed by the time
it has its answer: it finds the socket closed, and closes what the host gave. A stop reaches only
what is in the endpoint, so it is the same for a socket that has a listener or a connection already
and does nothing to one that has no resource yet.
-/

namespace SyscallBridge

/-- A call that has asked the host for what makes its socket listen or be connected. -/
inductive SocketPending.Opens : SocketPending → Prop where
  | listening (protocol : Protocol) (own : NetAddress) : Opens (.listening protocol own)
  | connecting (protocol : Protocol) (own : Option NetAddress) (a : SockAddr) :
    Opens (.connecting protocol own a)

/-- The endpoint has a listener or a connection. -/
inductive Endpoint.Live : Endpoint → Prop where
  | listening (l : ListenerHandle) : Live (.listening l)
  | connected (c : ConnectionHandle) (peer : SockAddr) : Live (.connected c peer)

/-- A call fails in the turn, the socket stays as it is, and what the host gave is closed. -/
structure Fails (s : Socket) (e : SocketEvent) (t : Socket.Step) : Prop where
  error : ∃ err, t.progress = .done (.error err)
  state : t.state = s
  closes : closings t.effects = e.obtained?.toList

/-- A call succeeds in the turn, with what the host gave in the endpoint and nothing closed. -/
structure Succeeds (e : SocketEvent) (t : Socket.Step) : Prop where
  done : t.progress = .done (.ok (.plain .done))
  live : t.state.endpoint.Live
  installs : e.obtained? = t.state.endpoint.resource?
  closes : closings t.effects = []

namespace Socket

variable {s : Socket} {p : SocketPending}

theorem fails_of_error (f : HostFailure) (hp : p.Opens) :
    Fails s (.answer p (.error f)) (s.resume p (.error f)) := by
  have hend : p.endOfStream = .error .endOfStream := by cases hp <;> rfl
  rw [resume_error, hend]
  refine ⟨?_, rfl, rfl⟩
  split
  · exact ⟨_, rfl⟩
  · exact ⟨_, rfl⟩

theorem fails_overtaken {e : SocketEvent} {r : Resource} (he : e.obtained? = some r)
    (reason : String) : Fails s e (s.overtaken r reason) := by
  refine ⟨⟨_, rfl⟩, rfl, ?_⟩
  rw [he]
  rfl

theorem fails_listening {protocol : Protocol} {own : NetAddress} (hx : ¬ s.endpoint.Free)
    (l : ListenerHandle) :
    Fails s (.answer (.listening protocol own) (.ok l)) (s.resumeListen l) := by
  rw [resumeListen]
  split
  · rename_i address heq
    exact absurd (heq ▸ .bound address) hx
  · exact fails_overtaken rfl _

theorem fails_connecting {protocol : Protocol} {own : Option NetAddress} {a : SockAddr}
    (hx : ¬ s.endpoint.Free) (c : ConnectionHandle) :
    Fails s (.answer (.connecting protocol own a) (.ok c)) (s.resumeConnect a c) := by
  rw [resumeConnect]
  split
  · rename_i heq
    exact absurd (heq ▸ .unbound) hx
  · rename_i address heq
    exact absurd (heq ▸ .bound address) hx
  · exact fails_overtaken rfl _

/-- An endpoint that is taken already makes a call fail that comes back from the host. -/
theorem fails_of_taken (hp : p.Opens) (hx : ¬ s.endpoint.Free)
    (answer : Except HostFailure p.request.Answer) :
    Fails s (.answer p answer) (s.resume p answer) := by
  cases answer with
  | error f => exact fails_of_error f hp
  | ok x =>
    cases hp with
    | listening protocol own => exact fails_listening hx x
    | connecting protocol own a => exact fails_connecting hx x

theorem startListen_bound {address : String} {own : NetAddress} (htcp : s.protocol = .tcp)
    (hx : s.endpoint = .bound address) (ho : boundAddress address = .ok own) :
    s.startListen = .ask s (.listening .tcp own) := by
  simp [startListen, htcp, hx, guarded, ho]

theorem succeeds_listening {protocol : Protocol} {own : NetAddress} {address : String}
    (hx : s.endpoint = .bound address) (l : ListenerHandle) :
    Succeeds (.answer (.listening protocol own) (.ok l)) (s.resumeListen l) := by
  rw [resumeListen, hx]
  exact ⟨rfl, .listening l, rfl, rfl⟩

theorem succeeds_connecting {protocol : Protocol} {own : Option NetAddress} {a : SockAddr}
    (hx : s.endpoint.Free) (c : ConnectionHandle) :
    Succeeds (.answer (.connecting protocol own a) (.ok c)) (s.resumeConnect a c) := by
  cases heq : s.endpoint with
  | unbound | bound =>
    rw [resumeConnect, heq]
    exact ⟨rfl, .connected c a, rfl, rfl⟩
  | listening | connected | datagram | closed =>
    rw [heq] at hx
    cases hx

end Socket

theorem Endpoint.Live.not_free {x : Endpoint} (h : x.Live) : ¬ x.Free := by
  intro hfree
  cases h <;> cases hfree

namespace SocketRun

variable {r r' : SocketRun} {p : SocketPending}

theorem unplaced_start (s : Socket) : (start s).Unplaced := fun _ _ hp => absurd hp List.not_mem_nil

/-- Who waits for a listener has a socket that is bound, unless it is taken by now. -/
theorem Unplaced.succeeds (h : r.Unplaced) (hp : p.Opens) (hw : p ∈ r.waiting)
    (hx : r.endpoint.Free) (x : p.request.Answer) :
    Succeeds (.answer p (.ok x)) (r.socket.resume p (.ok x)) := by
  cases hp with
  | connecting protocol own a => exact Socket.succeeds_connecting hx x
  | listening protocol own =>
    cases heq : r.socket.endpoint with
    | bound address => exact Socket.succeeds_listening heq x
    | unbound => cases h heq _ hw
    | listening | connected | datagram | closed =>
      have hfree : r.socket.endpoint.Free := hx
      rw [heq] at hfree
      cases hfree

theorem next_of_ask {c : SocketCall} (h : r.socket.start c = .ask r.socket p) :
    r.next (.call c) = { r with waiting := r.waiting ++ [p] } := by
  have hturn : SocketEvent.turn r.socket (.call c) = .ask r.socket p := h
  rw [next, hturn]
  simp [SocketEvent.others, SocketEvent.obtained?, Socket.Step.asked, Turn.ask, closings]

/-- A stop closes what is in the endpoint and leaves all else as it is. -/
theorem next_stopIo (r : SocketRun) :
    r.next (.call .stopIo) = { r with closed := r.closed ++ r.installed } := by
  have hclosings : closings (r.socket.startStopIo).effects = r.installed :=
    closings_closing r.socket.endpoint
  have hturn : SocketEvent.turn r.socket (.call .stopIo) = r.socket.startStopIo := rfl
  rw [next, hturn, hclosings]
  simp [SocketEvent.others, SocketEvent.obtained?, Socket.Step.asked, Socket.startStopIo]

theorem next_stopIo_of_free (hx : r.endpoint.Free) : r.next (.call .stopIo) = r := by
  rw [next_stopIo, installed, hx.resource?]
  simp

/-- A socket that is listening or connected has no free endpoint any more. -/
theorem ListensTcp.live_later (h : r.ListensTcp) (hlive : r.endpoint.Live) (hl : Later r r') :
    ¬ r'.endpoint.Free ∧ (r'.endpoint = r.endpoint ∨ r'.endpoint = .closed) := by
  obtain ⟨-, hlistening, hconnected⟩ := h.endpoint_later hl
  have hends : r'.endpoint = r.endpoint ∨ r'.endpoint = .closed := by
    cases hx : r.endpoint with
    | listening l => exact hlistening l hx
    | connected c peer => exact hconnected c peer hx
    | unbound | bound | datagram | closed =>
      rw [hx] at hlive
      cases hlive
  refine ⟨?_, hends⟩
  rcases hends with hsame | hclosed
  · exact hsame ▸ hlive.not_free
  · intro hfree
    rw [hclosed] at hfree
    cases hfree

/-- A `listen` or a `connect` waits for the host, at any point of any run. Whether it can succeed
is decided by the endpoint when the answer comes: if it has no resource, what the host gives goes
into it, and otherwise the call fails, and what the host gives is closed. If the socket is closed
meanwhile, the call fails whatever else goes on, and the socket stays closed. A stop closes what is
in the endpoint and changes nothing else. If that was a listener or a connection, the call fails in
the same way; if there was no resource, the stop is as if it had not been. -/
theorem stopped_under_way {s : Socket} (hr : Later (start s) r) (hw : p ∈ r.waiting)
    (hp : p.Opens) :
    ((∀ f, Fails r.socket (.answer p (.error f)) (r.socket.resume p (.error f))) ∧
      (r.endpoint.Free → ∀ x, Succeeds (.answer p (.ok x)) (r.socket.resume p (.ok x))) ∧
      (¬ r.endpoint.Free → ∀ x, Fails r.socket (.answer p (.ok x)) (r.socket.resume p (.ok x)))) ∧
    (∀ r', Later (r.next (.call .close)) r' → p ∈ r'.waiting →
      ∀ answer, Fails r'.socket (.answer p answer) (r'.socket.resume p answer) ∧
        (r'.next (.answer p answer)).endpoint = .closed) ∧
    r.next (.call .stopIo) = { r with closed := r.closed ++ r.installed } ∧
    (r.endpoint.Live → ∀ r', Later (r.next (.call .stopIo)) r' → p ∈ r'.waiting →
      ∀ answer, Fails r'.socket (.answer p answer) (r'.socket.resume p answer) ∧
        ((r'.next (.answer p answer)).endpoint = r.endpoint ∨
          (r'.next (.answer p answer)).endpoint = .closed)) ∧
    (r.endpoint.Free → r.next (.call .stopIo) = r) := by
  have htcp := ((listensTcp_start s).later hr).1
  have hunplaced := (unplaced_start s).later (listensTcp_start s) hr
  refine ⟨⟨fun f => Socket.fails_of_error f hp, hunplaced.succeeds hp hw,
    fun hx x => Socket.fails_of_taken hp hx (.ok x)⟩, ?_, next_stopIo r, ?_, next_stopIo_of_free⟩
  · -- a closed endpoint stays closed, and an answer finds it taken
    intro r' hl hw' answer
    have hclosed : r'.endpoint = .closed :=
      ((htcp.next (e := .call .close) trivial).endpoint_later hl).1 rfl
    have hnot : ¬ r'.endpoint.Free := by
      intro hfree
      rw [hclosed] at hfree
      cases hfree
    have hfails := Socket.fails_of_taken hp hnot answer
    exact ⟨hfails, (congrArg Socket.endpoint hfails.state).trans hclosed⟩
  · -- the stop leaves the endpoint as it is, so it is taken for the answer too
    intro hlive r' hl hw' answer
    have hlive' : (r.next (.call .stopIo)).endpoint.Live := hlive
    obtain ⟨hnot, hends⟩ := (htcp.next (e := .call .stopIo) trivial).live_later hlive' hl
    have hfails := Socket.fails_of_taken hp hnot answer
    have hstate : (r'.next (.answer p answer)).endpoint = r'.endpoint :=
      congrArg Socket.endpoint hfails.state
    rw [hstate]
    exact ⟨hfails, hends⟩

/-- A socket is stopped and then closed while it connects: the stop is as if it had not been, and
after the closing the connection comes too late. -/
theorem stopped_under_way_connecting :
    let peer := SockAddr.inet4 .loopback 80
    let p := SocketPending.connecting .tcp none peer
    let c : ConnectionHandle := ⟨.tcp, 4, ⟨.v4 .loopback, 50000⟩, peer.toNet⟩
    let r := (start ⟨.tcp, .inet4, .unbound⟩).next (.call (.connect peer))
    let r' := r.next (.call .close)
    p ∈ r.waiting ∧ r.next (.call .stopIo) = r ∧ p ∈ r'.waiting ∧
      Fails r'.socket (.answer p (.ok c)) (r'.socket.resume p (.ok c)) ∧
      (r'.next (.answer p (.ok c))).closed = [.stream 4] := by
  intro peer p c r r'
  have hr : Later (start ⟨.tcp, .inet4, .unbound⟩) r := (Later.refl _).step _ trivial
  have hw : p ∈ r.waiting := List.mem_singleton.2 rfl
  obtain ⟨-, hclose, -, -, hstop⟩ := stopped_under_way hr hw (.connecting .tcp none peer)
  exact ⟨hw, hstop .unbound, hw, (hclose r' (Later.refl _) hw (.ok c)).1, rfl⟩

/-- A bound socket is stopped while it waits for its listener: `listen` succeeds after the stop,
the socket listens, and nothing is closed. -/
theorem listen_outlives_stop :
    let a := SockAddr.inet4 .loopback 7001
    let p := SocketPending.listening .tcp a.toNet
    let l : ListenerHandle := ⟨0, a.toNet⟩
    let bound := (start ⟨.tcp, .inet4, .unbound⟩).next (.call (.bind a))
    let stopped := (bound.next (.call .listen)).next (.call .stopIo)
    let r := stopped.next (.answer p (.ok l))
    (InProcessHost.poll? {} p.request).map Prod.fst = some (.ok l) ∧
      p ∈ stopped.waiting ∧
      (stopped.socket.resume p (.ok l)).progress = .done (.ok (.plain .done)) ∧
      r.endpoint = .listening l ∧ r.closed = [] := by
  intro a p l bound stopped r
  have hask : bound.socket.start .listen = .ask bound.socket p :=
    Socket.startListen_bound (s := bound.socket) rfl rfl (Socket.boundAddress_text a.toNet)
  have hstopped : stopped = { bound with waiting := [p] } := by
    have hlisten : bound.next (.call .listen) = { bound with waiting := [p] } := next_of_ask hask
    change (bound.next (.call .listen)).next (.call .stopIo) = _
    rw [hlisten]
    exact next_stopIo_of_free (.bound a.text)
  change _ ∧ _ ∧ _ ∧ (stopped.next (.answer p (.ok l))).endpoint = _ ∧
    (stopped.next (.answer p (.ok l))).closed = _
  rw [hstopped]
  exact ⟨rfl, List.mem_singleton.2 rfl, rfl, rfl, rfl⟩

end SocketRun

end SyscallBridge
