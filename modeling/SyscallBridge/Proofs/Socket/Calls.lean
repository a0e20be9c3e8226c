import SyscallBridge.Proofs.Socket.Endpoint

/-!
# What socket calls ask the host

Each way in which the first turn of a call asks the host, with the endpoint that it takes and the
request that it makes. A failed request ends the call, and a call makes a second request only when
the first one was for a port.
-/

namespace SyscallBridge

namespace DatagramUse

/-- The call that uses the port so. -/
def call : DatagramUse → SocketCall
  | send data a => .sendTo data a
  | receive size => .receiveFrom size

def pending (q : PortHandle) : DatagramUse → SocketPending
  | send data a => .sending q data a
  | receive size => .receiving q size

end DatagramUse

/-- How a call that waits says that the stream is at its end. -/
def SocketPending.endOfStream : SocketPending → Except CallError SocketReply
  | .reading .. => .ok (.plain (.data []))
  | .readingFrom _ _ peer => .ok (.plain (.datagram [] peer))
  | _ => .error .endOfStream

theorem HostFailure.isEndOfStream_iff (f : HostFailure) :
    f.isEndOfStream = true ↔ f = .aborted ∨ f = .connectionClosed := by
  cases f <;> simp [isEndOfStream]

namespace Socket

variable {s : Socket} {c : SocketCall} {p : SocketPending}

/-- The first turn of a call is its last, or it asks in one of these ways. Only `connect` on a
claimed port changes the socket in the turn that asks. -/
inductive Starts (s : Socket) : SocketCall → Step → Prop where
  | ends {c : SocketCall} {t : Step} {result : Except CallError SocketReply}
    (h : t.progress = .done result) : Starts s c t
  | listens {address : String} {own : NetAddress} (hx : s.endpoint = .bound address)
    (ho : boundAddress address = .ok own) : Starts s .listen (.ask s (.listening s.protocol own))
  | accepts {l : ListenerHandle} (hx : s.endpoint = .listening l) :
    Starts s .accept (.ask s (.accepting l))
  | dials {a : SockAddr} (hx : s.endpoint = .unbound) :
    Starts s (.connect a) (.ask s (.connecting s.protocol none a))
  | dialsFrom {a : SockAddr} {address : String} {own : NetAddress}
    (hx : s.endpoint = .bound address) (ho : boundAddress address = .ok own) :
    Starts s (.connect a) (.ask s (.connecting s.protocol (some own) a))
  | givesBack {a : SockAddr} {q : PortHandle} (hx : s.endpoint = .datagram q) :
    Starts s (.connect a) ⟨s.withEndpoint (.bound q.own.text), [.close q.resource],
      .pending (.connecting s.protocol (some q.own) a)⟩
  | reads {conn : ConnectionHandle} {peer : SockAddr} {size : Nat}
    (hx : s.endpoint = .connected conn peer) : Starts s (.read size) (.ask s (.reading conn size))
  | writes {conn : ConnectionHandle} {peer : SockAddr} {data : Bytes}
    (hx : s.endpoint = .connected conn peer) :
    Starts s (.write data) (.ask s (.writing conn data))
  | sends {conn : ConnectionHandle} {peer a : SockAddr} {data : Bytes}
    (hx : s.endpoint = .connected conn peer) :
    Starts s (.sendTo data a) (.ask s (.writing conn data))
  | receives {conn : ConnectionHandle} {peer : SockAddr} {size : Nat}
    (hx : s.endpoint = .connected conn peer) :
    Starts s (.receiveFrom size) (.ask s (.readingFrom conn size peer))
  | uses {q : PortHandle} (use : DatagramUse) (hx : s.endpoint = .datagram q) :
    Starts s use.call (.ask s (use.pending q))
  | claims (use : DatagramUse) (hx : s.endpoint = .unbound) :
    Starts s use.call (.ask s (.claiming (SockAddr.unspecified s.family).toNet use))
  | claimsFrom {address : String} {own : NetAddress} (use : DatagramUse)
    (hx : s.endpoint = .bound address) (ho : boundAddress address = .ok own) :
    Starts s use.call (.ask s (.claiming own use))

namespace Starts

theorem guarded {α : Type} {check : Except CallError α} {next : α → Step}
    (h : ∀ x, check = .ok x → Starts s c (next x)) : Starts s c (s.guarded check next) := by
  cases check with
  | ok x => exact h x rfl
  | error e => exact ends rfl

theorem invalid (reason : String) : Starts s c (s.invalid reason) := ends rfl

end Starts

theorem starts_listen (s : Socket) : Starts s .listen s.startListen := by
  rw [startListen]
  split
  · exact .ends rfl
  · split
    · rename_i address hx
      exact .guarded fun own ho => .listens hx ho
    all_goals exact .invalid _

theorem starts_accept (s : Socket) : Starts s .accept s.startAccept := by
  rw [startAccept]
  split
  · rename_i l hx
    exact .accepts hx
  · exact .ends rfl
  · exact .invalid _

theorem starts_connect (s : Socket) (a : SockAddr) : Starts s (.connect a) (s.startConnect a) := by
  refine .guarded fun _ _ => .guarded fun _ _ => ?_
  split
  · rename_i hx
    exact .dials hx
  · rename_i address hx
    exact .guarded fun own ho => .dialsFrom hx ho
  · rename_i q hx
    simp only [boundAddress_text, hx]
    exact .givesBack hx
  all_goals exact .invalid _

/-- A bound socket connects from its address. -/
theorem startConnect_bound {a : SockAddr} {address : String} {own : NetAddress}
    (hf : s.checkFamily a = .ok ()) (hp : checkPort a = .ok ()) (hx : s.endpoint = .bound address)
    (ho : boundAddress address = .ok own) :
    s.startConnect a = .ask s (.connecting s.protocol (some own) a) := by
  simp only [startConnect, guarded, hf, hp, hx, ho]

/-- A socket with a port closes it and connects from the same address. -/
theorem startConnect_datagram {a : SockAddr} {q : PortHandle} (hf : s.checkFamily a = .ok ())
    (hp : checkPort a = .ok ()) (hx : s.endpoint = .datagram q) :
    s.startConnect a = ⟨s.withEndpoint (.bound q.own.text), [.close q.resource],
      .pending (.connecting s.protocol (some q.own) a)⟩ := by
  simp only [startConnect, guarded, hf, hp, hx, boundAddress_text]
  rfl

theorem starts_useDatagram (s : Socket) (use : DatagramUse) :
    Starts s use.call (s.useDatagram use) := by
  rw [useDatagram]
  split
  · rename_i q hx
    cases use with
    | send data a => exact .uses (.send data a) hx
    | receive size => exact .uses (.receive size) hx
  · rename_i hx
    exact .claims use hx
  · rename_i address hx
    exact .guarded fun own ho => .claimsFrom use hx ho
  · exact .invalid _
  · exact .invalid _

theorem starts_sendTo (s : Socket) (data : Bytes) (a : SockAddr) :
    Starts s (.sendTo data a) (s.startSendTo data a) := by
  refine .guarded fun _ _ => ?_
  split
  · rename_i conn peer hx
    split
    · exact .invalid _
    · exact .sends hx
  · split
    · exact .invalid _
    · exact .guarded fun _ _ => starts_useDatagram s (.send data a)

theorem starts_receiveFrom (s : Socket) (size : Nat) :
    Starts s (.receiveFrom size) (s.startReceiveFrom size) := by
  rw [startReceiveFrom]
  split
  · rename_i conn peer hx
    exact .receives hx
  · split
    · exact .invalid _
    · exact starts_useDatagram s (.receive size)

theorem starts_start (s : Socket) (c : SocketCall) : Starts s c (s.start c) := by
  cases c with
  | bind a =>
    refine .guarded fun _ _ => ?_
    split <;> exact .ends rfl
  | ownName =>
    rw [start, startOwnName]
    split
    · exact .ends rfl
    · exact .guarded fun _ _ => .ends rfl
    all_goals exact .ends rfl
  | peerName =>
    rw [start, startPeerName]
    split <;> exact .ends rfl
  | read size =>
    rw [start, startRead]
    split
    · rename_i conn peer hx
      exact .reads hx
    · exact .ends rfl
    · exact .invalid _
  | write data =>
    rw [start, startWrite]
    split
    · rename_i conn peer hx
      exact .writes hx
    · exact .ends rfl
    · exact .invalid _
  | listen => exact starts_listen s
  | accept => exact starts_accept s
  | connect a => exact starts_connect s a
  | sendTo data a => exact starts_sendTo s data a
  | receiveFrom size => exact starts_receiveFrom s size
  | stopIo | close | setDeadline | setReadDeadline | setWriteDeadline => exact .ends rfl

/-! ### On from an answer -/

/-- A failure ends the call in the turn that learns of it, and that turn does nothing else. -/
theorem resume_error (s : Socket) (p : SocketPending) (f : HostFailure) :
    s.resume p (.error f) = ⟨s, [], .done
      (if f = .aborted ∨ f = .connectionClosed then p.endOfStream else .error (.host f))⟩ := by
  by_cases hf : f = .aborted ∨ f = .connectionClosed
  · have hend : f.isEndOfStream = true := f.isEndOfStream_iff.2 hf
    rw [if_pos hf]
    cases p <;> simp only [resume, answered, failed, bytesRead, guarded, CallError.ofHost, hend,
      if_true] <;> rfl
  · have hend : ¬ f.isEndOfStream = true := mt f.isEndOfStream_iff.1 hf
    rw [if_neg hf]
    cases p <;> simp only [resume, answered, failed, bytesRead, guarded, CallError.ofHost, hend] <;>
      rfl

theorem useDatagram_port {q : PortHandle} {use : DatagramUse} (hx : s.endpoint = .datagram q) :
    s.useDatagram use = .ask s (use.pending q) := by
  rw [useDatagram, hx]
  cases use <;> rfl

theorem resumeClaim_free {use : DatagramUse} (q : PortHandle) (hfree : s.endpoint.Free) :
    s.resumeClaim use q = .ask (s.withEndpoint (.datagram q)) (use.pending q) := by
  have hport : (s.withEndpoint (.datagram q)).useDatagram use = .ask _ (use.pending q) :=
    useDatagram_port rfl
  rw [← hport]
  cases hx : s.endpoint with
  | unbound | bound address => rw [resumeClaim, hx]
  | listening | connected | datagram | closed =>
    rw [hx] at hfree
    cases hfree

/-- Only a call that has claimed a port asks again, to use that port or one that it has found. -/
theorem resume_waits {x : p.request.Answer} {p' : SocketPending}
    (h : (s.resume p (.ok x)).progress = .pending p') :
    ∃ own use q, p = .claiming own use ∧ p' = use.pending q ∧
      (s.resume p (.ok x)).state.endpoint = .datagram q := by
  cases p with
  | claiming own use =>
    refine ⟨own, use, ?_⟩
    have hturn : s.resume (.claiming own use) (.ok x) = s.resumeClaim use x := rfl
    rw [hturn] at h ⊢
    cases hx : s.endpoint with
    | unbound =>
      rw [resumeClaim_free x (hx ▸ .unbound)] at h ⊢
      exact ⟨x, rfl, (Progress.pending.inj h).symm, rfl⟩
    | bound address =>
      rw [resumeClaim_free x (hx ▸ .bound address)] at h ⊢
      exact ⟨x, rfl, (Progress.pending.inj h).symm, rfl⟩
    | datagram q =>
      have hturn : s.resumeClaim use x = ⟨s, [.close x.resource], .pending (use.pending q)⟩ := by
        simp only [resumeClaim, hx, useDatagram_port hx]
        rfl
      rw [hturn] at h ⊢
      exact ⟨q, rfl, (Progress.pending.inj h).symm, hx⟩
    | listening | connected | closed =>
      simp only [resumeClaim, hx] at h
      cases h
  | listening q own =>
    change (s.resumeListen x).progress = _ at h
    unfold resumeListen at h
    split at h <;> cases h
  | connecting q own a =>
    change (s.resumeConnect a x).progress = _ at h
    unfold resumeConnect at h
    split at h <;> cases h
  | accepting | reading | readingFrom | writing | sending | receiving => cases h

/-- A turn that asks is the first one of a call, or it asks to use the port that it leaves in the
socket. -/
theorem turn_asks {e : SocketEvent} (h : (e.turn s).progress = .pending p) :
    (∃ c, e = .call c ∧ (s.start c).progress = .pending p) ∨
      ∃ use q, p = DatagramUse.pending q use ∧ (e.turn s).state.endpoint = .datagram q := by
  cases e with
  | call c => exact Or.inl ⟨c, rfl, h⟩
  | answer asked answer =>
    cases answer with
    | error f =>
      rw [SocketEvent.turn, resume_error] at h
      cases h
    | ok x =>
      obtain ⟨own, use, q, -, hp, hport⟩ := resume_waits h
      exact Or.inr ⟨use, q, hp, hport⟩

end Socket

end SyscallBridge
