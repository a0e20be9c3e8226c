import SyscallBridge.Proofs.Host.Arrivals
import SyscallBridge.Proofs.Hosted.Run

/-!
# Names and order of accepted connections

What a listener hands out to those who accept is the far side of what was dialed to it, in the order
in which the host answered the dials. The names that a connected socket tells are those that the
host has given its side, and the sides of a connection have them exchanged.
-/

namespace SyscallBridge

open InProcessHost

/-- The names that a socket tells of itself and of its peer. -/
def Socket.Tells (s : Socket) (own peer : SockAddr) : Prop :=
  s.start .ownName = s.reply (.address own) ∧ s.start .peerName = s.reply (.address peer)

theorem Socket.tells_connected {s : Socket} {c : ConnectionHandle}
    (hs : s.endpoint = .connected c (.ofNet c.peer)) : s.Tells (.ofNet c.own) (.ofNet c.peer) := by
  constructor
  · change s.startOwnName = _
    rw [Socket.startOwnName, hs]
  · change s.startPeerName = _
    rw [Socket.startPeerName, hs]

/-- A dial is answered with a connection to where it was dialed. -/
theorem InProcessHost.peer_of_dial {h h' : InProcessHost} {protocol : Protocol}
    {own : Option NetAddress} {peer : NetAddress} {c : ConnectionHandle}
    (hp : h.poll? (.dial protocol own peer) = some (.ok c, h')) : c.peer = peer := by
  cases protocol with
  | tcp =>
    rcases dialStream_eq_some hp with ⟨f, hf, -⟩ | ⟨b, next, l, hok, -, -⟩ |
      ⟨next, slots, streams, hf, -⟩
    · cases hf
    · cases hok
      rfl
    · cases hf
  | udp =>
    rcases dialDatagram_eq_some hp with ⟨f, next, hf, -⟩ | ⟨b, next, hok, -, -⟩
    · cases hf
    · cases hok
      rfl

namespace Process

variable {p : Process} {file : Nat} {next : Afterwards}

/-- What was accepted is in a socket of its own, at a new descriptor. -/
theorem resumed_accept (hr : Registered p) {l : ListenerHandle}
    (hfits : p.Fits (.onSocket file (.accepting l) next)) (c : ConnectionHandle) :
    let t := p.resume (.onSocket file (.accepting l) next) (.ok c)
    ∃ fd f s, t.progress = .done (.ok (.accepted fd (.ofNet c.peer))) ∧
      t.state.table.lookup fd = .ok f ∧ t.state.store.file f = .socket s ∧
      s.endpoint = .connected c (.ofNet c.peer) := by
  obtain ⟨-, haccepts, s, socket, -⟩ := hfits
  obtain rfl := haccepts.1 rfl
  have hset : Registered (p.ofStore (p.store.set file (.socket s))) := hr.ofStore (.set _)
  have hopened := hset.opened (.socket (.accepted s.protocol c (.ofNet c.peer)))
  rw [resume_onSocket socket]
  refine ⟨_, _, _, rfl, ?_, hopened.own, rfl⟩
  exact (hopened.lookup _).trans (if_pos rfl)

/-- A connect that has its connection puts it in the socket, or closes it as the socket has
changed. -/
theorem resumed_connect {protocol : Protocol} {own : Option NetAddress} {a : SockAddr}
    (hfits : p.Fits (.onSocket file (.connecting protocol own a) next)) (c : ConnectionHandle) :
    let t := p.resume (.onSocket file (.connecting protocol own a) next) (.ok c)
    (∃ r s, t.progress = .done (.ok r) ∧ t.state.store.file file = .socket s ∧
      s.endpoint = .connected c a) ∨
    t.progress = .done (.error (.invalidState "socket changed during connect")) ∧
      .close c.resource ∈ t.effects := by
  obtain ⟨-, -, s, socket, -⟩ := hfits
  have hresume : s.resume (.connecting protocol own a) (.ok c) = s.resumeConnect a c := rfl
  have hinstalls :
      let t := p.socketTurn file next
        (p.store.socketTurn file ((s.withEndpoint (.connected c a)).reply .done));
      ∃ r s', t.progress = .done (.ok r) ∧ t.state.store.file file = .socket s' ∧
        s'.endpoint = .connected c a := by
    have hfile := (p.store.file_set file (.socket (s.withEndpoint (.connected c a))) file).trans
      (if_pos rfl)
    cases next <;> exact ⟨_, s.withEndpoint (.connected c a), rfl, hfile, rfl⟩
  rw [resume_onSocket socket, hresume, Socket.resumeConnect]
  split
  · exact Or.inl hinstalls
  · exact Or.inl hinstalls
  · refine Or.inr ?_
    cases next with
    | nothing | allocate => exact ⟨rfl, List.mem_cons_self⟩
    | dialed fd =>
      have ht : p.socketTurn file (.dialed fd) (p.store.socketTurn file
          (s.overtaken c.resource "socket changed during connect")) = _ :=
        socketTurn_error (.invalidState "socket changed during connect") rfl
      rw [ht]
      exact ⟨rfl, List.mem_cons_self⟩

end Process

namespace Hosted

/-! ### Names -/

/-- Connected sockets, and connects that have their connection, know the peer that it has. -/
structure Named (s : Hosted) : Prop where
  sockets : ∀ c peer, s.process.Installed (.connected c peer) → peer = .ofNet c.peer
  answers : ∀ file protocol own a next c,
    ⟨.onSocket file (.connecting protocol own a) next, some (.ok c)⟩ ∈ s.calls →
      a = .ofNet c.peer

theorem named_create (settings : Settings) : (create settings).Named where
  sockets := fun _ _ hy => absurd hy (Process.not_installed_create settings rfl)
  answers := fun _ _ _ _ _ _ hc => nomatch hc

variable {s : Hosted}

theorem Named.next (hn : s.Named) (hs : s.Sound) (event : HostedEvent) :
    (s.next event).Named := by
  have hgoes := goes_next s event
  generalize s.next event = s' at hgoes
  cases hgoes with
  | rests => exact hn
  | @turns _ e others resumed =>
    obtain ⟨⟨⟨given, hmoves, -⟩, -⟩, hothers⟩ := hs.turn resumed
    refine ⟨fun c peer hy => ?_, fun file protocol own a next c hc => ?_⟩
    · rcases hy.moves hmoves rfl with hthere | hgives
      · exact hn.sockets c peer hthere
      · rcases resumed with ⟨call, rfl, -⟩ | ⟨q, answer, rfl, hperm⟩
        · cases hgives
        · cases hgives with
          | connected file protocol own a next c =>
            exact hn.answers file protocol own _ next c (hperm.mem_iff.2 List.mem_cons_self)
          | accepted => rfl
    · rcases List.mem_append.1 hc with hold | hnew
      · exact hn.answers file protocol own a next c (hothers _ hold)
      · obtain ⟨q, -, hq⟩ := Process.Step.mem_asked hnew
        cases hq
  | @served _ q answer host others calls waited answered served =>
    refine ⟨hn.sockets, fun file protocol own a next c hc => ?_⟩
    rcases mem_before waited answered hc with heq | hold
    · cases heq
      rw [peer_of_dial served, SockAddr.ofNet_toNet]
    · exact hn.answers file protocol own a next c hold
  | @failed _ q f others calls waited answered =>
    refine ⟨hn.sockets, fun file protocol own a next c hc => ?_⟩
    rcases mem_before waited answered hc with heq | hold
    · cases heq
    · exact hn.answers file protocol own a next c hold
  | collects => exact ⟨hn.sockets, hn.answers⟩
  | elsewhere a => exact ⟨hn.sockets, hn.answers⟩

theorem Named.run (hn : s.Named) (hs : s.Sound) (events : List HostedEvent) :
    (s.run events).Named := by
  induction events generalizing s with
  | nil => exact hn
  | cons event events ih => exact ih (hn.next hs event) (hs.next event)

/-! ### Accepts and connects -/

section Resumed

variable {i : Nat} {q : ProcessPending} {a : Except HostFailure q.request.Answer}

theorem result?_resume (hi : s.calls[i]? = some ⟨q, some a⟩) :
    s.result? (.resume i) = Process.Step.result? (s.process.resume q a) := by
  simp only [result?, hi, Process.turn]

theorem process_resume (hi : s.calls[i]? = some ⟨q, some a⟩) :
    (s.next (.resume i)).process = (s.process.resume q a).state := by
  simp only [next, hi]
  rfl

theorem hostActs_resume (hi : s.calls[i]? = some ⟨q, some a⟩) :
    s.hostActs (.resume i) = (s.process.resume q a).effects.filterMap Effect.act? := by
  simp only [hostActs, hi, Process.turn]

end Resumed

theorem hostActs_serve {i : Nat} {q : ProcessPending} (hi : s.calls[i]? = some ⟨q, none⟩) :
    s.hostActs (.serve i) = [.request q.request] := by
  simp only [hostActs, hi]

/-- After any events, with any others on the host: a connect that the host answers is the next one
dialed to the listener that it is routed to, and an accept that it answers gets the far side of the
first one dialed that none before it got. The accept then gives a new socket with that side, and the
address of its peer; the connect puts its side in its socket, or closes it and fails when the socket
has changed meanwhile, in which case it has its place at the listener all the same. And sockets with
the two sides of a connection tell the same two names, each as its own what the other tells as that
of its peer. -/
theorem accepted_in_dialed_order (settings : Settings) (events : List HostedEvent) :
    let s := (create settings).run events
    let trace := (create settings).trace events
    (∀ i file own a next c host,
      s.calls[i]? = some ⟨.onSocket file (.connecting .tcp own a) next, none⟩ →
      s.host.poll? (.dial .tcp own a.toNet) = some (.ok c, host) →
      ∃ n, s.host.listenerFor? a.toNet = some n ∧
        dialsTo {} n ((create settings).trace (events ++ [.serve i])) = dialsTo {} n trace ++ [c]) ∧
    (∀ i file l next c host,
      s.calls[i]? = some ⟨.onSocket file (.accepting l) next, none⟩ →
      s.host.poll? (.accept l) = some (.ok c, host) →
      acceptsFrom {} l.id ((create settings).trace (events ++ [.serve i])) =
          acceptsFrom {} l.id trace ++ [c] ∧
        ∃ d, (dialsTo {} l.id trace)[(acceptsFrom {} l.id trace).length]? = some d ∧
          c = d.farSide ∧ Side d.id c.id s.host ∧ Side c.id d.id s.host) ∧
    (∀ i file l next c,
      s.calls[i]? = some ⟨.onSocket file (.accepting l) next, some (.ok c)⟩ →
      ∃ fd f t, s.result? (.resume i) = some (.ok (.accepted fd (.ofNet c.peer))) ∧
        (s.next (.resume i)).process.table.lookup fd = .ok f ∧
        (s.next (.resume i)).process.store.file f = .socket t ∧
        t.endpoint = .connected c (.ofNet c.peer)) ∧
    (∀ i file protocol own a next c,
      s.calls[i]? = some ⟨.onSocket file (.connecting protocol own a) next, some (.ok c)⟩ →
      (∃ r t, s.result? (.resume i) = some (.ok r) ∧
        (s.next (.resume i)).process.store.file file = .socket t ∧
        t.endpoint = .connected c (.ofNet c.peer)) ∨
      s.result? (.resume i) = some (.error (.invalidState "socket changed during connect")) ∧
        .close c.resource ∈ s.hostActs (.resume i)) ∧
    (∀ f f' t t' d peer peer', s.process.store.file f = .socket t →
      t.endpoint = .connected d peer → s.process.store.file f' = .socket t' →
      t'.endpoint = .connected d.farSide peer' →
      t.Tells (.ofNet d.own) (.ofNet d.peer) ∧ t'.Tells (.ofNet d.peer) (.ofNet d.own)) := by
  intro s trace
  have hs : s.Sound := (sound_create settings).run events
  have hn : s.Named := (named_create settings).run (sound_create settings) events
  have hhost : s.host = acts {} trace := host_run (create settings) events
  have htrace := trace_concat (create settings) events
  refine ⟨fun i file own a next c host hi hp => ?_, fun i file l next c host hi hp => ?_,
    fun i file l next c hi => ?_, fun i file protocol own a next c hi => ?_,
    fun f f' t t' d peer peer' hf hd hf' hd' => ?_⟩
  · rw [htrace, hostActs_serve hi, hhost]
    exact dial_in_turn (hhost ▸ hp)
  · rw [htrace, hostActs_serve hi, hhost]
    obtain ⟨haccepts, d, hd, rfl⟩ := accept_in_turn (hhost ▸ hp)
    obtain ⟨-, hnear, hfar⟩ := sides_dialsTo (List.mem_of_getElem? hd)
    exact ⟨haccepts, d, hd, rfl, hnear, hfar⟩
  · have hfits := hs.fits _ (List.mem_of_getElem? hi)
    obtain ⟨fd, f, t, hdone, hfd, hf, ht⟩ := Process.resumed_accept hs.registered hfits c
    rw [result?_resume hi, process_resume hi]
    exact ⟨fd, f, t, by rw [Process.Step.result?, hdone], hfd, hf, ht⟩
  · have hcall := List.mem_of_getElem? hi
    rw [result?_resume hi, process_resume hi, hostActs_resume hi]
    rcases Process.resumed_connect (hs.fits _ hcall) c with ⟨r, t, hdone, hf, ht⟩ | ⟨hdone, hclose⟩
    · have ha := hn.answers file protocol own a next c hcall
      exact Or.inl ⟨r, t, by rw [Process.Step.result?, hdone], hf, ha ▸ ht⟩
    · exact Or.inr ⟨by rw [Process.Step.result?, hdone], List.mem_filterMap.2 ⟨_, hclose, rfl⟩⟩
  · obtain rfl := hn.sockets d peer ⟨f, t, hf, hd⟩
    obtain rfl := hn.sockets d.farSide peer' ⟨f', t', hf', hd'⟩
    exact ⟨Socket.tells_connected hd, Socket.tells_connected hd'⟩

theorem waits_of_pending {i : Nat} {q : ProcessPending}
    (hi : (s.calls[i]?).map (fun c => (c.pending, c.answer.isNone)) = some (q, true)) :
    s.calls[i]? = some ⟨q, none⟩ := by
  obtain ⟨⟨q', answer⟩, hc, heq⟩ := Option.map_eq_some_iff.1 hi
  cases answer with
  | none =>
    cases heq
    exact hc
  | some a => cases heq

/-- The connect of a socket that is closed meanwhile fails, and the one after it does not. The first
to accept gets the connection of the former all the same, and the second to accept gets that of the
latter, with the names exchanged. -/
theorem overtaken_connect_accepted_first :
    let address (port : UInt16) : NetAddress := ⟨.v4 .loopback, port⟩
    let a : SockAddr := .ofNet (address 7001)
    let events : List HostedEvent := [.call (.socket 2 1 0), .call (.onSocket 3 (.bind a)),
      .call (.onSocket 3 .listen), .serve 0, .resume 0, .call (.socket 2 1 0),
      .call (.onSocket 4 (.connect a)), .call (.close 4), .serve 0, .resume 0,
      .call (.socket 2 1 0), .call (.onSocket 4 (.connect a)), .serve 0, .resume 0,
      .call (.onSocket 3 .accept)]
    let later := events ++ [.serve 0, .resume 0, .call (.onSocket 3 .accept), .serve 0, .resume 0]
    dialsTo {} 0 ((create {}).trace events) =
        [⟨.tcp, 1, address 49152, address 7001⟩, ⟨.tcp, 3, address 49153, address 7001⟩] ∧
      acceptsFrom {} 0 ((create {}).trace (events ++ [.serve 0])) =
        [⟨.tcp, 2, address 7001, address 49152⟩] ∧
      ∃ t t', ((create {}).run later).process.store.file 5 = .socket t ∧
        ((create {}).run later).process.store.file 7 = .socket t' ∧
        t.Tells (.ofNet (address 49153)) a ∧ t'.Tells a (.ofNet (address 49153)) := by
  intro address a events later
  have hdials : dialsTo {} 0 ((create {}).trace events) =
      [⟨.tcp, 1, address 49152, address 7001⟩, ⟨.tcp, 3, address 49153, address 7001⟩] := by
    decide +kernel
  have hwaits : ((create {}).run events).calls[0]? =
      some ⟨.onSocket 3 (.accepting ⟨0, address 7001⟩) .allocate, none⟩ :=
    waits_of_pending (by decide +kernel)
  have hpoll : (((create {}).run events).host.poll? (.accept ⟨0, address 7001⟩)).map Prod.fst =
      some (.ok ⟨.tcp, 2, address 7001, address 49152⟩) := by
    decide +kernel
  obtain ⟨⟨_, host⟩, hpoll, rfl⟩ := Option.map_eq_some_iff.1 hpoll
  obtain ⟨-, haccepts, -⟩ := accepted_in_dialed_order {} events
  obtain ⟨hnext, -⟩ := haccepts 0 3 ⟨0, address 7001⟩ .allocate _ host hwaits hpoll
  have hnone : acceptsFrom {} 0 ((create {}).trace events) = [] := by decide +kernel
  let d : ConnectionHandle := ⟨.tcp, 3, address 49153, address 7001⟩
  have hnear : (((create {}).run later).process.store.file 5).socket? =
      some ⟨.tcp, .inet4, .connected d (.ofNet d.peer)⟩ := by
    decide +kernel
  have hfar : (((create {}).run later).process.store.file 7).socket? =
      some ⟨.tcp, .inet4, .connected d.farSide (.ofNet d.own)⟩ := by
    decide +kernel
  obtain ⟨-, -, -, -, hnames⟩ := accepted_in_dialed_order {} later
  have htells := hnames 5 7 _ _ d _ _ (OpenFile.eq_socket hnear) rfl (OpenFile.eq_socket hfar) rfl
  refine ⟨hdials, ?_, _, _, OpenFile.eq_socket hnear, OpenFile.eq_socket hfar, htells⟩
  rw [hnext, hnone]
  rfl

/-- A connect that fails is accepted before one that does not: the first to accept is told of the
peer at the one port, and the socket that was connected is at the other. -/
theorem accepted_peer_is_not_connected :
    let port (n : UInt16) : SockAddr := .ofNet ⟨.v4 .loopback, n⟩
    (create {}).results [.call (.socket 2 1 0), .call (.onSocket 3 (.bind (port 7001))),
      .call (.onSocket 3 .listen), .serve 0, .resume 0, .call (.socket 2 1 0),
      .call (.onSocket 4 (.connect (port 7001))), .call (.close 4), .serve 0, .resume 0,
      .call (.socket 2 1 0), .call (.onSocket 4 (.connect (port 7001))), .serve 0, .resume 0,
      .call (.onSocket 4 .ownName), .call (.onSocket 3 .accept), .serve 0, .resume 0] =
      [.ok (.number 3), .ok .done, .ok .done, .ok (.number 4), .ok .done,
        .error (.invalidState "socket changed during connect"), .ok (.number 4), .ok .done,
        .ok (.address (port 49153)), .ok (.accepted 5 (port 49152))] ∧
    port 49152 ≠ port 49153 := by
  decide +kernel

end Hosted

end SyscallBridge
