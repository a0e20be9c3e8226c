import Mathlib.Data.List.Perm.Subperm
import SyscallBridge.Proofs.Address.RoundTrip
import SyscallBridge.Socket.Call

/-!
# Endpoints and their resources

A socket under any calls, each of which may wait for the host while others go on. What a turn can
do to the endpoint is one relation, `Moves`; what becomes of the resource in the endpoint and of
one that the host has just given is one inclusion of lists, in which a resource that is there
twice counts twice. Both are shown of a single turn and then carried along a run.
-/

namespace SyscallBridge

/-! ### Turns -/

/-- The resource that a call asked the host for. -/
def SocketPending.obtained? : (p : SocketPending) → p.request.Answer → Option Resource
  | .listening .., (l : ListenerHandle) => some l.resource
  | .connecting .., (c : ConnectionHandle) => some c.resource
  | .claiming .., (p : PortHandle) => some p.resource
  | _, _ => none

/-- A call begins, or one that waits goes on with its answer. -/
inductive SocketEvent where
  | call (c : SocketCall)
  | answer (p : SocketPending) (a : Except HostFailure p.request.Answer)

namespace SocketEvent

def turn (s : Socket) : SocketEvent → Socket.Step
  | call c => s.start c
  | answer p a => s.resume p a

def obtained? : SocketEvent → Option Resource
  | answer p (.ok a) => p.obtained? a
  | _ => none

end SocketEvent

/-- The resources that are closed, in order. -/
def closings : List Effect → List Resource
  | [] => []
  | .close r :: effects => r :: closings effects
  | _ :: effects => closings effects

theorem closings_closing (x : Endpoint) : closings x.closing = x.resource?.toList := by
  cases x <;> rfl

/-- The endpoints of a socket that has no resource yet. -/
inductive Endpoint.Free : Endpoint → Prop where
  | unbound : Free .unbound
  | bound (address : String) : Free (.bound address)

/-- The ways an endpoint goes, each with the turn that makes it go so. -/
inductive Moves (protocol : Protocol) : SocketEvent → Endpoint → Endpoint → Prop where
  | stays (e : SocketEvent) (x : Endpoint) : Moves protocol e x x
  | binds (a : SockAddr) : Moves protocol (.call (.bind a)) .unbound (.bound a.text)
  | givesBack (a : SockAddr) (p : PortHandle) :
    Moves protocol (.call (.connect a)) (.datagram p) (.bound p.own.text)
  | closes (x : Endpoint) : Moves protocol (.call .close) x .closed
  | listens (asked : Protocol) (own : NetAddress) (l : ListenerHandle) (address : String)
    (tcp : protocol = .tcp) :
    Moves protocol (.answer (.listening asked own) (.ok l)) (.bound address) (.listening l)
  | connects (asked : Protocol) (own : Option NetAddress) (a : SockAddr) (c : ConnectionHandle)
    {x : Endpoint} (free : x.Free) :
    Moves protocol (.answer (.connecting asked own a) (.ok c)) x (.connected c a)
  | claims (own : NetAddress) (use : DatagramUse) (p : PortHandle) {x : Endpoint} (free : x.Free) :
    Moves protocol (.answer (.claiming own use) (.ok p)) x (.datagram p)

theorem Endpoint.Free.resource? {x : Endpoint} (h : x.Free) : x.resource? = none := by
  cases h <;> rfl

namespace Moves

variable {protocol : Protocol} {e : SocketEvent} {x y : Endpoint}

theorem of_closed (h : Moves protocol e .closed y) : y = .closed := by
  cases h with
  | stays => rfl
  | closes => rfl
  | connects _ _ _ _ free => cases free
  | claims _ _ _ free => cases free

theorem of_listening {l : ListenerHandle} (h : Moves protocol e (.listening l) y) :
    y = .listening l ∨ y = .closed := by
  cases h with
  | stays => exact Or.inl rfl
  | closes => exact Or.inr rfl
  | connects _ _ _ _ free => cases free
  | claims _ _ _ free => cases free

theorem of_connected {c : ConnectionHandle} {peer : SockAddr}
    (h : Moves protocol e (.connected c peer) y) : y = .connected c peer ∨ y = .closed := by
  cases h with
  | stays => exact Or.inl rfl
  | closes => exact Or.inr rfl
  | connects _ _ _ _ free => cases free
  | claims _ _ _ free => cases free

end Moves

/-- A turn moves the endpoint one of its ways, asks for a listener over TCP only, and loses no
resource: what was in the endpoint and what the host gave is closed or in the endpoint. -/
structure TurnSound (s : Socket) (e : SocketEvent) (t : Socket.Step) : Prop where
  moves : Moves s.protocol e s.endpoint t.state.endpoint
  same_protocol : t.state.protocol = s.protocol
  same_family : t.state.family = s.family
  asks_tcp : ∀ q a, t.progress = .pending (.listening q a) → s.protocol = .tcp
  kept : (e.obtained?.toList ++ s.endpoint.resource?.toList).Subperm
    (closings t.effects ++ t.state.endpoint.resource?.toList)

/-! ### Turns that change nothing -/

/-- The socket stays as it is, nothing is closed, and no listener is asked for. -/
structure Idle (s : Socket) (t : Socket.Step) : Prop where
  state : t.state = s
  effects : t.effects = []
  asks : ∀ q a, t.progress ≠ .pending (.listening q a)

namespace Idle

variable {s : Socket}

theorem ok (r : SocketReply) : Idle s (.ok s r) := by
  refine ⟨rfl, rfl, ?_⟩
  intro q a h
  cases h

theorem reply (r : Reply) : Idle s (s.reply r) := ok (.plain r)

theorem failed (e : CallError) : Idle s (s.failed e) := by
  refine ⟨rfl, rfl, ?_⟩
  intro q a h
  cases h

theorem invalid (reason : String) : Idle s (s.invalid reason) := failed (.invalidState reason)

theorem ask {p : SocketPending} (hp : ∀ q a, p ≠ .listening q a) : Idle s (.ask s p) := by
  refine ⟨rfl, rfl, ?_⟩
  intro q a h
  exact hp q a (Progress.pending.inj h)

theorem guarded {α : Type} {check : Except CallError α} {next : α → Socket.Step}
    (h : ∀ a, Idle s (next a)) : Idle s (s.guarded check next) := by
  cases check with
  | ok a => exact h a
  | error e => exact failed e

theorem answered {α : Type} {answer : Except HostFailure α} {next : α → Socket.Step}
    (h : ∀ a, Idle s (next a)) : Idle s (s.answered answer next) := by
  cases answer with
  | ok a => exact h a
  | error f => exact failed (.ofHost f)

theorem sound {e : SocketEvent} {t : Socket.Step} (h : Idle s t) (he : e.obtained? = none) :
    TurnSound s e t := by
  obtain ⟨hs, hf, hp⟩ := h
  refine ⟨?_, by rw [hs], by rw [hs], ?_, ?_⟩
  · rw [hs]
    exact Moves.stays e s.endpoint
  · intro q a hq
    exact absurd hq (hp q a)
  · rw [hs, hf, he]
    exact List.Subperm.refl _

end Idle

theorem TurnSound.guarded {s : Socket} {e : SocketEvent} {α : Type} {check : Except CallError α}
    {next : α → Socket.Step} (he : e.obtained? = none) (h : ∀ a, TurnSound s e (next a)) :
    TurnSound s e (s.guarded check next) := by
  cases check with
  | ok a => exact h a
  | error err => exact (Idle.failed err).sound he

namespace Socket

variable (s : Socket)

theorem idle_accept : Idle s s.startAccept := by
  rw [startAccept]
  split
  · exact Idle.ask (by simp)
  · exact Idle.failed _
  · exact Idle.invalid _

theorem idle_ownName : Idle s s.startOwnName := by
  rw [startOwnName]
  split
  · exact Idle.reply _
  · exact Idle.guarded fun a => Idle.reply _
  · exact Idle.reply _
  · exact Idle.reply _
  · exact Idle.reply _
  · exact Idle.invalid _

theorem idle_peerName : Idle s s.startPeerName := by
  rw [startPeerName]
  split
  · exact Idle.reply _
  · exact Idle.invalid _

theorem idle_read (size : Nat) : Idle s (s.startRead size) := by
  rw [startRead]
  split
  · exact Idle.ask (by simp)
  · exact Idle.reply _
  · exact Idle.invalid _

theorem idle_write (data : Bytes) : Idle s (s.startWrite data) := by
  rw [startWrite]
  split
  · exact Idle.ask (by simp)
  · exact Idle.failed _
  · exact Idle.invalid _

theorem idle_useDatagram (use : DatagramUse) : Idle s (s.useDatagram use) := by
  rw [useDatagram]
  split
  · cases use <;> exact Idle.ask (by simp)
  · exact Idle.ask (by simp)
  · exact Idle.guarded fun a => Idle.ask (by simp)
  · exact Idle.invalid _
  · exact Idle.invalid _

theorem idle_sendTo (data : Bytes) (a : SockAddr) : Idle s (s.startSendTo data a) := by
  refine Idle.guarded fun _ => ?_
  split
  · split
    · exact Idle.invalid _
    · exact Idle.ask (by simp)
  · split
    · exact Idle.invalid _
    · exact Idle.guarded fun _ => idle_useDatagram s _

theorem idle_receiveFrom (size : Nat) : Idle s (s.startReceiveFrom size) := by
  rw [startReceiveFrom]
  split
  · exact Idle.ask (by simp)
  · split
    · exact Idle.invalid _
    · exact idle_useDatagram s _

/-! ### Turns that begin a call -/

theorem sound_bind (a : SockAddr) : TurnSound s (.call (.bind a)) (s.startBind a) := by
  refine TurnSound.guarded rfl fun _ => ?_
  cases hx : s.endpoint with
  | unbound =>
    refine ⟨?_, rfl, rfl, ?_, ?_⟩
    · rw [hx]
      exact Moves.binds a
    · intro q b h
      cases h
    · rw [hx]
      exact List.nil_subperm
  | closed => exact (Idle.invalid _).sound rfl
  | bound _ | listening _ | connected _ _ | datagram _ => exact (Idle.invalid _).sound rfl

theorem sound_listen : TurnSound s (.call .listen) s.startListen := by
  rw [startListen]
  split
  · exact (Idle.failed _).sound rfl
  · rename_i hudp
    have htcp : s.protocol = .tcp := by
      cases hp : s.protocol with
      | tcp => rfl
      | udp => exact absurd hp hudp
    cases hx : s.endpoint with
    | bound address =>
      refine TurnSound.guarded rfl fun own => ?_
      refine ⟨Moves.stays _ _, rfl, rfl, ?_, List.Subperm.refl _⟩
      intro q a _
      exact htcp
    | unbound | listening _ | connected _ _ | datagram _ | closed =>
      exact (Idle.invalid _).sound rfl

theorem boundAddress_text (a : NetAddress) : boundAddress a.text = .ok a := by
  simp only [boundAddress, SockAddr.parse_netText, Except.map, SockAddr.toNet_ofNet]

/-- The port that is given back is closed, because its address can always be read back. -/
theorem sound_connect (a : SockAddr) : TurnSound s (.call (.connect a)) (s.startConnect a) := by
  refine TurnSound.guarded rfl fun _ => TurnSound.guarded rfl fun _ => ?_
  cases hx : s.endpoint with
  | unbound => exact (Idle.ask (by simp)).sound rfl
  | bound address =>
    refine TurnSound.guarded rfl fun own => ?_
    exact (Idle.ask (by simp)).sound rfl
  | datagram p =>
    simp only [boundAddress_text]
    refine ⟨?_, rfl, rfl, ?_, ?_⟩
    · rw [hx]
      exact Moves.givesBack a p
    · intro q b h
      cases h
    · rw [hx, closings_closing]
      exact List.Subperm.refl _
  | listening _ | connected _ _ | closed => exact (Idle.invalid _).sound rfl

theorem sound_stopIo : TurnSound s (.call .stopIo) s.startStopIo := by
  refine ⟨Moves.stays _ _, rfl, rfl, ?_, ?_⟩
  · intro q a h
    cases h
  · change s.endpoint.resource?.toList.Subperm (closings s.endpoint.closing ++ _)
    rw [closings_closing]
    exact (List.sublist_append_left _ _).subperm

theorem sound_close : TurnSound s (.call .close) s.startClose := by
  refine ⟨Moves.closes _, rfl, rfl, ?_, ?_⟩
  · intro q a h
    cases h
  · change s.endpoint.resource?.toList.Subperm (closings s.endpoint.closing ++ [])
    rw [closings_closing, List.append_nil]

theorem sound_start (c : SocketCall) : TurnSound s (.call c) (s.start c) := by
  cases c with
  | bind a => exact sound_bind s a
  | listen => exact sound_listen s
  | accept => exact (idle_accept s).sound rfl
  | connect a => exact sound_connect s a
  | ownName => exact (idle_ownName s).sound rfl
  | peerName => exact (idle_peerName s).sound rfl
  | read size => exact (idle_read s size).sound rfl
  | write data => exact (idle_write s data).sound rfl
  | sendTo data a => exact (idle_sendTo s data a).sound rfl
  | receiveFrom size => exact (idle_receiveFrom s size).sound rfl
  | stopIo => exact sound_stopIo s
  | close => exact sound_close s
  | setDeadline | setReadDeadline | setWriteDeadline => exact (Idle.failed _).sound rfl

/-! ### Turns that go on from an answer -/

variable {s}

/-- The socket takes what the host gave; it had no resource before. -/
theorem sound_install {e : SocketEvent} {x : Endpoint} {t : Socket.Step} (hfree : s.endpoint.Free)
    (hmove : Moves s.protocol e s.endpoint x) (he : e.obtained? = x.resource?)
    (ht : Idle (s.withEndpoint x) t) : TurnSound s e t := by
  obtain ⟨hs, hf, hp⟩ := ht
  refine ⟨?_, by rw [hs]; rfl, by rw [hs]; rfl, ?_, ?_⟩
  · rw [hs]
    exact hmove
  · intro q a hq
    exact absurd hq (hp q a)
  · rw [hs, hf, he, hfree.resource?, Option.toList_none, List.append_nil]
    exact List.Subperm.refl _

/-- The socket has changed meanwhile, and what the host gave is closed at once. -/
theorem sound_refuse {e : SocketEvent} {r : Resource} {t : Socket.Step}
    (he : e.obtained? = some r) (hs : t.state = s) (hf : t.effects = [.close r])
    (hp : ∀ q a, t.progress ≠ .pending (.listening q a)) : TurnSound s e t := by
  refine ⟨?_, by rw [hs], by rw [hs], ?_, ?_⟩
  · rw [hs]
    exact Moves.stays e s.endpoint
  · intro q a hq
    exact absurd hq (hp q a)
  · rw [he, hs, hf]
    exact List.Subperm.refl _

theorem sound_overtaken {e : SocketEvent} {r : Resource} (he : e.obtained? = some r)
    (reason : String) : TurnSound s e (s.overtaken r reason) := by
  refine sound_refuse he rfl rfl ?_
  intro q a h
  cases h

theorem sound_resumeListen {asked : Protocol} {own : NetAddress} (htcp : s.protocol = .tcp)
    (l : ListenerHandle) :
    TurnSound s (.answer (.listening asked own) (.ok l)) (s.resumeListen l) := by
  rw [resumeListen]
  split
  · rename_i address hx
    have hmove : Moves s.protocol (.answer (.listening asked own) (.ok l)) s.endpoint
        (.listening l) := by
      rw [hx]
      exact Moves.listens asked own l address htcp
    exact sound_install (hx ▸ .bound address) hmove rfl (Idle.reply _)
  · exact sound_overtaken rfl _

theorem sound_resumeConnect {asked : Protocol} {own : Option NetAddress} {a : SockAddr}
    (c : ConnectionHandle) :
    TurnSound s (.answer (.connecting asked own a) (.ok c)) (s.resumeConnect a c) := by
  have hinstall : s.endpoint.Free → TurnSound s (.answer (.connecting asked own a) (.ok c))
      ((s.withEndpoint (.connected c a)).reply .done) := fun hfree =>
    sound_install hfree (Moves.connects asked own a c hfree) rfl (Idle.reply _)
  rw [resumeConnect]
  split
  · rename_i hx
    exact hinstall (hx ▸ .unbound)
  · rename_i address hx
    exact hinstall (hx ▸ .bound address)
  · exact sound_overtaken rfl _

theorem sound_resumeClaim {own : NetAddress} {use : DatagramUse} (p : PortHandle) :
    TurnSound s (.answer (.claiming own use) (.ok p)) (s.resumeClaim use p) := by
  have hinstall : s.endpoint.Free → TurnSound s (.answer (.claiming own use) (.ok p))
      ((s.withEndpoint (.datagram p)).useDatagram use) := fun hfree =>
    sound_install hfree (Moves.claims own use p hfree) rfl (idle_useDatagram _ use)
  rw [resumeClaim]
  split
  · rename_i hx
    exact hinstall (hx ▸ .unbound)
  · rename_i address hx
    exact hinstall (hx ▸ .bound address)
  · -- the port of another call is used, and the one that came now is closed
    obtain ⟨hs, hf, hp⟩ := idle_useDatagram s use
    refine sound_refuse rfl hs ?_ hp
    change Effect.close p.resource :: (s.useDatagram use).effects = _
    rw [hf]
  · exact sound_overtaken rfl _

/-- A listener was asked for over TCP only, so the socket that waits for one is a TCP socket. -/
theorem sound_resume (p : SocketPending) (a : Except HostFailure p.request.Answer)
    (htcp : ∀ q own, p = .listening q own → s.protocol = .tcp) :
    TurnSound s (.answer p a) (s.resume p a) := by
  have hfailed : ∀ f, a = .error f → ∀ err, TurnSound s (.answer p a) (s.failed err) := by
    intro f hf err
    rw [hf]
    exact (Idle.failed err).sound rfl
  cases p with
  | listening q own =>
    cases a with
    | ok l => exact sound_resumeListen (htcp q own rfl) l
    | error f => exact hfailed f rfl _
  | connecting q own peer =>
    cases a with
    | ok c => exact sound_resumeConnect c
    | error f => exact hfailed f rfl _
  | claiming own use =>
    cases a with
    | ok port => exact sound_resumeClaim port
    | error f => exact hfailed f rfl _
  | accepting l =>
    refine (Idle.answered fun c => Idle.ok _).sound ?_
    cases a <;> rfl
  | reading c size =>
    refine (Idle.guarded fun bytes => Idle.reply _).sound ?_
    cases a <;> rfl
  | readingFrom c size peer =>
    refine (Idle.guarded fun bytes => Idle.reply _).sound ?_
    cases a <;> rfl
  | writing c data =>
    refine (Idle.answered fun n => Idle.reply _).sound ?_
    cases a <;> rfl
  | sending port data target =>
    refine (Idle.answered fun n => Idle.reply _).sound ?_
    cases a <;> rfl
  | receiving port size =>
    refine (Idle.answered fun got => Idle.reply _).sound ?_
    cases a <;> rfl

end Socket

/-! ### Runs -/

/-- A socket with the calls that wait, and what the host has given it and it has closed so far. -/
structure SocketRun where
  socket : Socket
  waiting : List SocketPending := []
  obtained : List Resource := []
  closed : List Resource := []

/-- Calls may begin at any time, and a call goes on only if it waits. -/
def SocketEvent.Enabled (waiting : List SocketPending) : SocketEvent → Prop
  | .call _ => True
  | .answer p _ => p ∈ waiting

/-- The calls that still wait when a turn begins. -/
def SocketEvent.others (waiting : List SocketPending) : SocketEvent → List SocketPending
  | .call _ => waiting
  | .answer p _ => waiting.erase p

theorem SocketEvent.others_subset (waiting : List SocketPending) (e : SocketEvent) :
    e.others waiting ⊆ waiting := by
  cases e with
  | call c => exact List.Subset.refl _
  | answer p a => exact List.erase_subset

/-- What a turn leaves waiting. -/
def Socket.Step.asked (t : Socket.Step) : List SocketPending :=
  match t.progress with
  | .pending p => [p]
  | .done _ => []

theorem Socket.Step.mem_asked {t : Socket.Step} {p : SocketPending} (h : p ∈ t.asked) :
    t.progress = .pending p := by
  unfold asked at h
  cases ht : t.progress with
  | pending p' =>
    rw [ht] at h
    rw [List.mem_singleton.1 h]
  | done result =>
    rw [ht] at h
    cases h

namespace SocketRun

def start (s : Socket) : SocketRun := { socket := s }

def endpoint (r : SocketRun) : Endpoint := r.socket.endpoint

def installed (r : SocketRun) : List Resource := r.endpoint.resource?.toList

def next (r : SocketRun) (e : SocketEvent) : SocketRun where
  socket := (e.turn r.socket).state
  waiting := e.others r.waiting ++ (e.turn r.socket).asked
  obtained := r.obtained ++ e.obtained?.toList
  closed := r.closed ++ closings (e.turn r.socket).effects

/-- A run from one point to a later one, with any calls and any answers in any order. -/
inductive Later : SocketRun → SocketRun → Prop where
  | refl (r : SocketRun) : Later r r
  | step {r r' : SocketRun} (h : Later r r') (e : SocketEvent) (he : e.Enabled r'.waiting) :
    Later r (r'.next e)

/-- Only a TCP socket waits for a listener. -/
def ListensTcp (r : SocketRun) : Prop :=
  ∀ q own, .listening q own ∈ r.waiting → r.socket.protocol = .tcp

theorem listensTcp_start (s : Socket) : (start s).ListensTcp := by
  intro q own h
  cases h

variable {r r' : SocketRun} {e : SocketEvent}

theorem ListensTcp.turn (h : r.ListensTcp) (he : e.Enabled r.waiting) :
    TurnSound r.socket e (e.turn r.socket) := by
  cases e with
  | call c => exact Socket.sound_start r.socket c
  | answer p a =>
    apply Socket.sound_resume p a
    intro q own hp
    exact h q own (hp ▸ he)

theorem ListensTcp.next (h : r.ListensTcp) (he : e.Enabled r.waiting) : (r.next e).ListensTcp := by
  have hturn := h.turn he
  intro q own hw
  have htcp : r.socket.protocol = .tcp := by
    rcases List.mem_append.1 hw with hw | hw
    · exact h q own (e.others_subset r.waiting hw)
    · exact hturn.asks_tcp q own (Socket.Step.mem_asked hw)
  exact hturn.same_protocol.trans htcp

theorem ListensTcp.moves (h : r.ListensTcp) (he : e.Enabled r.waiting) :
    Moves r.socket.protocol e r.endpoint (r.next e).endpoint := (h.turn he).moves

theorem ListensTcp.kept (h : r.ListensTcp) (he : e.Enabled r.waiting) :
    (e.obtained?.toList ++ r.installed).Subperm
      (closings (e.turn r.socket).effects ++ (r.next e).installed) := (h.turn he).kept

theorem ListensTcp.later (h : r.ListensTcp) (hl : Later r r') :
    r'.ListensTcp ∧ r'.socket.protocol = r.socket.protocol := by
  induction hl with
  | refl => exact ⟨h, rfl⟩
  | step _ e he ih =>
    obtain ⟨htcp, hsame⟩ := ih
    exact ⟨htcp.next he, (htcp.turn he).same_protocol.trans hsame⟩

theorem ListensTcp.endpoint_later (h : r.ListensTcp) (hl : Later r r') :
    (r.endpoint = .closed → r'.endpoint = .closed) ∧
    (∀ l, r.endpoint = .listening l → r'.endpoint = .listening l ∨ r'.endpoint = .closed) ∧
    (∀ c peer, r.endpoint = .connected c peer →
      r'.endpoint = .connected c peer ∨ r'.endpoint = .closed) := by
  induction hl with
  | refl => exact ⟨id, fun _ => Or.inl, fun _ _ => Or.inl⟩
  | step hl e he ih =>
    have hmove := (h.later hl).1.moves he
    obtain ⟨hc, hlis, hcon⟩ := ih
    -- an endpoint that is still there makes one more move, and a closed one makes none
    refine ⟨?_, ?_, ?_⟩
    · intro hx
      exact Moves.of_closed (hc hx ▸ hmove)
    · intro l hx
      rcases hlis l hx with hy | hy
      · exact Moves.of_listening (hy ▸ hmove)
      · exact Or.inr (Moves.of_closed (hy ▸ hmove))
    · intro c peer hx
      rcases hcon c peer hx with hy | hy
      · exact Moves.of_connected (hy ▸ hmove)
      · exact Or.inr (Moves.of_closed (hy ▸ hmove))

/-- What the host gives on the way, and what was in the endpoint before, is closed on the way or in
the endpoint after. -/
theorem ListensTcp.kept_later (h : r.ListensTcp) (hl : Later r r') :
    ∃ obtained closed, r'.obtained = r.obtained ++ obtained ∧ r'.closed = r.closed ++ closed ∧
      (obtained ++ r.installed).Subperm (closed ++ r'.installed) := by
  induction hl with
  | refl => exact ⟨[], [], (List.append_nil _).symm, (List.append_nil _).symm, List.Subperm.refl _⟩
  | step hl e he ih =>
    rename_i r'
    obtain ⟨obtained, closed, ho, hc, hkept⟩ := ih
    have hturn := (h.later hl).1.kept he
    refine ⟨obtained ++ e.obtained?.toList, closed ++ closings (e.turn r'.socket).effects,
      ?_, ?_, ?_⟩
    · rw [← List.append_assoc, ← ho]
      rfl
    · rw [← List.append_assoc, ← hc]
      rfl
    · -- a resource is counted, since the host may give one and the same again
      rw [List.subperm_iff_count] at hkept hturn ⊢
      intro x
      have h1 := hkept x
      have h2 := hturn x
      simp only [List.count_append] at h1 h2 ⊢
      omega

theorem mem_of_subperm {before closed after : List Resource}
    (h : before.Subperm (closed ++ after)) {x : Resource} (hx : x ∈ before) :
    x ∈ closed ∨ x ∈ after := List.mem_append.1 (h.subset hx)

/-- A socket under any calls and answers. Every turn moves the endpoint along `Moves`, and what the
host gives in it is in the endpoint at its end or closed. A listening or connected endpoint is left
for the closed one only, which is never left. At any point of the run, what the host has given so
far is in the endpoint or closed; and what is in the endpoint at one point is still in it at any
later point or has been closed between the two. -/
theorem endpoint_moves_and_resources_kept {s : Socket} (h : Later (start s) r) (hl : Later r r') :
    (∀ e, e.Enabled r.waiting → Moves s.protocol e r.endpoint (r.next e).endpoint ∧
      (e.obtained?.toList ++ r.installed).Subperm
        (closings (e.turn r.socket).effects ++ (r.next e).installed)) ∧
    ((r.endpoint = .closed → r'.endpoint = .closed) ∧
      (∀ l, r.endpoint = .listening l → r'.endpoint = .listening l ∨ r'.endpoint = .closed) ∧
      (∀ c peer, r.endpoint = .connected c peer →
        r'.endpoint = .connected c peer ∨ r'.endpoint = .closed)) ∧
    (∀ x ∈ r.obtained, x ∈ r.closed ∨ x ∈ r.installed) ∧
    (∃ obtained closed, r'.obtained = r.obtained ++ obtained ∧ r'.closed = r.closed ++ closed ∧
      (obtained ++ r.installed).Subperm (closed ++ r'.installed)) := by
  obtain ⟨htcp, hprotocol⟩ := (listensTcp_start s).later h
  refine ⟨?_, htcp.endpoint_later hl, ?_, htcp.kept_later hl⟩
  · intro e he
    have hp : r.socket.protocol = s.protocol := hprotocol
    refine ⟨?_, htcp.kept he⟩
    rw [← hp]
    exact htcp.moves he
  · intro x hx
    obtain ⟨obtained, closed, ho, hc, hkept⟩ := (listensTcp_start s).kept_later h
    have hobtained : x ∈ obtained := by
      rw [ho] at hx
      exact hx
    have hclosed : r.closed = closed := hc
    rw [hclosed]
    exact mem_of_subperm hkept (List.mem_append_left _ hobtained)

/-- A socket that is closed while it connects: the connection comes too late and is closed. -/
theorem endpoint_moves_and_resources_kept_overtaken :
    let peer := SockAddr.inet4 .loopback 80
    let c : ConnectionHandle := ⟨.tcp, 4, ⟨.v4 .loopback, 50000⟩, peer.toNet⟩
    let r := ((start ⟨.tcp, .inet4, .unbound⟩).next (.call (.connect peer))).next (.call .close)
    let r' := r.next (.answer (.connecting .tcp none peer) (.ok c))
    r'.endpoint = .closed ∧ r'.obtained = [.stream 4] ∧ r'.closed = [.stream 4] ∧
      (r.endpoint = .closed → r'.endpoint = .closed) := by
  intro peer c r r'
  have h1 : SocketEvent.Enabled [] (.call (.connect peer)) := trivial
  have h2 : SocketEvent.Enabled [.connecting .tcp none peer] (.call .close) := trivial
  have h3 : SocketEvent.Enabled [.connecting .tcp none peer]
      (.answer (.connecting .tcp none peer) (.ok c)) := List.mem_singleton.2 rfl
  have h : Later (start ⟨.tcp, .inet4, .unbound⟩) r := ((Later.refl _).step _ h1).step _ h2
  have hl : Later r r' := (Later.refl r).step _ h3
  refine ⟨rfl, rfl, rfl, (endpoint_moves_and_resources_kept h hl).2.1.1⟩

end SocketRun

end SyscallBridge
