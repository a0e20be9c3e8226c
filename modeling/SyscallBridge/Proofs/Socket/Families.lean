import SyscallBridge.Proofs.Host.Families
import SyscallBridge.Proofs.Socket.OwnName

/-!
# The family of a socket

Every address that a socket has, asks the host with or tells is of the family of the socket. Only
`bind`, `connect` and `sendTo` look at the family of an address; all others come from the host,
which has been asked with one of the same family.
-/

namespace SyscallBridge

/-- The address that a reply tells. -/
def Reply.told? : Reply → Option SockAddr
  | address a => some a
  | datagram _ sender => some sender
  | accepted _ peer => some peer
  | _ => none

variable {F : Family} {h h' : InProcessHost}

/-! ### What is within a family -/

namespace Endpoint

def Within (F : Family) (h : InProcessHost) : Endpoint → Prop
  | bound address => ∃ a : SockAddr, a.family = F ∧ address = a.text
  | listening l => l.Within F h
  | connected c peer => c.Within F h ∧ peer.family = F
  | datagram p => p.Within F h
  | unbound | closed => True

theorem Within.act {x : Endpoint} (hx : x.Within F h) (a : HostAct) : x.Within F (h.act a) := by
  cases x with
  | bound | unbound | closed => exact hx
  | listening l => exact ListenerHandle.Within.act hx a
  | connected c peer => exact ⟨hx.1.act a, hx.2⟩
  | datagram p => exact PortHandle.Within.act hx a

end Endpoint

def DatagramUse.Within (F : Family) : DatagramUse → Prop
  | send _ a => a.family = F
  | receive _ => True

namespace SocketPending

/-- A waiting call asks the host within the family. -/
def Within (F : Family) (h : InProcessHost) : SocketPending → Prop
  | listening _ a => a.family = F
  | accepting l => l.Within F h
  | connecting _ own a => a.family = F ∧ ∀ b, own = some b → b.family = F
  | reading .. => True
  | readingFrom _ _ peer => peer.family = F
  | writing c _ => c.Within F h
  | claiming a use => a.family = F ∧ use.Within F
  | sending p _ a => p.Within F h ∧ a.family = F
  | receiving p _ => p.Within F h

/-- What the host gives to a waiting call is within the family. -/
def Brings (F : Family) (h : InProcessHost) : (q : SocketPending) → q.request.Answer → Prop
  | listening .., (l : ListenerHandle) => l.Within F h
  | accepting _, (c : ConnectionHandle) => c.Within F h
  | connecting .., (c : ConnectionHandle) => c.Within F h
  | claiming .., (p : PortHandle) => p.Within F h
  | receiving .., (got : Bytes × NetAddress) => got.2.family = F
  | _, _ => True

theorem Within.act {q : SocketPending} (hq : q.Within F h) (a : HostAct) :
    q.Within F (h.act a) := by
  cases q with
  | listening | connecting | reading | readingFrom | claiming => exact hq
  | accepting l => exact ListenerHandle.Within.act hq a
  | writing c data => exact ConnectionHandle.Within.act hq a
  | sending p data b => exact ⟨hq.1.act a, hq.2⟩
  | receiving p size => exact PortHandle.Within.act hq a

theorem Brings.act {q : SocketPending} {x : q.request.Answer} (hx : q.Brings F h x)
    (a : HostAct) : q.Brings F (h.act a) x := by
  cases q with
  | listening => exact ListenerHandle.Within.act hx a
  | accepting | connecting => exact ConnectionHandle.Within.act hx a
  | claiming => exact PortHandle.Within.act hx a
  | reading | readingFrom | writing | sending | receiving => exact hx

/-! ### At the host -/

/-- The host answers within the family that it is asked in. -/
theorem Within.brings (hf : h.InFamilies) {q : SocketPending} (hq : q.Within F h)
    {x : q.request.Answer} (hp : h.poll? q.request = some (.ok x, h')) : q.Brings F h' x := by
  cases q with
  | listening protocol a =>
    have ha : a.family = F := hq
    exact ha ▸ InProcessHost.listen_within hp
  | accepting l => exact hf.accept_within hq hp
  | connecting protocol own a =>
    obtain ⟨ha, hown⟩ := hq
    have hnet : a.toNet.family = F := a.family_toNet.trans ha
    exact hnet ▸ InProcessHost.dial_within hp fun b hb => (hown b hb).trans hnet.symm
  | claiming a use => exact hq.1 ▸ InProcessHost.bindPort_within hp
  | receiving p size => exact hf.receive_within hq hp
  | reading | readingFrom | writing | sending => trivial

/-- What a call dials or sends stays within its family. -/
theorem Within.keeps {q : SocketPending} (hq : q.Within F h) : h.Keeps (.request q.request) := by
  constructor
  · intro protocol own peer hdial
    cases q with
    | connecting protocol near a =>
      cases hdial
      exact (hq.2 own rfl).trans (a.family_toNet.trans hq.1).symm
    | listening | accepting | reading | readingFrom | writing | claiming | sending | receiving =>
      cases hdial
  · intro d hd
    cases q with
    | sending p data a =>
      obtain ⟨hsender, htarget⟩ := InProcessHost.sender_family hq.1.sited hd
      rw [hsender, htarget, hq.1.family, a.family_toNet, hq.2]
    | writing c data =>
      obtain ⟨protocol, id, own, peer⟩ := c
      cases protocol with
      | tcp => cases hd
      | udp =>
        obtain ⟨hsender, htarget⟩ := InProcessHost.sender_family (hq.sited rfl) hd
        rw [hsender, htarget]
        exact hq.own.trans hq.peer.symm
    | listening | accepting | connecting | reading | readingFrom | claiming | receiving =>
      cases hd

end SocketPending

/-- A reply tells of the family alone, and what has been accepted comes as a socket. -/
def SocketReply.Within (F : Family) : SocketReply → Prop
  | plain r => (∀ a, r.told? = some a → a.family = F) ∧ ∀ fd a, r ≠ .accepted fd a
  | accepted s peer => peer.family = F ∧ s.family = F

namespace SocketReply.Within

theorem silent {r : Reply} (hr : r.told? = none) : (SocketReply.plain r).Within F := by
  refine ⟨fun a ha => ?_, ?_⟩
  · cases hr.symm.trans ha
  · rintro fd a rfl
    cases hr

theorem address {a : SockAddr} (ha : a.family = F) :
    (SocketReply.plain (.address a)).Within F := by
  refine ⟨?_, fun _ _ hr => nomatch hr⟩
  rintro b ⟨⟩
  exact ha

theorem datagram {payload : Bytes} {sender : SockAddr} (hs : sender.family = F) :
    (SocketReply.plain (.datagram payload sender)).Within F := by
  refine ⟨?_, fun _ _ hr => nomatch hr⟩
  rintro b ⟨⟩
  exact hs

end SocketReply.Within

def SocketEvent.Within (F : Family) (h : InProcessHost) : SocketEvent → Prop
  | call _ => True
  | answer q a => q.Within F h ∧ ∀ x, a = .ok x → q.Brings F h x

/-! ### Turns -/

namespace Socket

/-- What a turn leaves in the socket, asks and tells is within the family. -/
structure Step.Within (F : Family) (h : InProcessHost) (t : Step) : Prop where
  endpoint : t.state.endpoint.Within F h
  asks : ∀ q, t.progress = .pending q → q.Within F h
  tells : ∀ r, t.progress = .done (.ok r) → r.Within F

variable {s : Socket}

namespace Step.Within

theorem fails (hs : s.endpoint.Within F h) (effects : List Effect) (e : CallError) :
    Step.Within F h ⟨s, effects, .done (.error e)⟩ where
  endpoint := hs
  asks _ hq := nomatch hq
  tells _ hr := by cases hr

theorem failed (hs : s.endpoint.Within F h) (e : CallError) : (s.failed e).Within F h :=
  fails hs [] e

theorem invalid (hs : s.endpoint.Within F h) (reason : String) : (s.invalid reason).Within F h :=
  fails hs [] _

theorem tells_of (hs : s.endpoint.Within F h) {effects : List Effect} {r : SocketReply}
    (hr : r.Within F) : Step.Within F h ⟨s, effects, .done (.ok r)⟩ where
  endpoint := hs
  asks _ hq := nomatch hq
  tells _ hdone := by
    cases hdone
    exact hr

theorem silent (hs : s.endpoint.Within F h) {r : Reply} (hr : r.told? = none) :
    (s.reply r).Within F h := tells_of hs (.silent hr)

theorem address (hs : s.endpoint.Within F h) {a : SockAddr} (ha : a.family = F) :
    (s.reply (.address a)).Within F h := tells_of hs (.address ha)

theorem asks_of (hs : s.endpoint.Within F h) {effects : List Effect} {q : SocketPending}
    (hq : q.Within F h) : Step.Within F h ⟨s, effects, .pending q⟩ where
  endpoint := hs
  asks _ hpending := by
    cases hpending
    exact hq
  tells _ hr := nomatch hr

theorem ask (hs : s.endpoint.Within F h) {q : SocketPending} (hq : q.Within F h) :
    Step.Within F h (.ask s q) := asks_of hs hq

theorem guarded (hs : s.endpoint.Within F h) {α : Type} {check : Except CallError α}
    {next : α → Step} (hn : ∀ x, check = .ok x → (next x).Within F h) :
    (s.guarded check next).Within F h := by
  cases check with
  | ok x => exact hn x rfl
  | error e => exact failed hs e

end Step.Within

theorem family_of_check {a : SockAddr} {u : Unit} (hc : s.checkFamily a = .ok u) :
    a.family = s.family := by
  unfold checkFamily at hc
  split at hc
  · assumption
  · cases hc

theorem boundAddress_within {address : String} {own : NetAddress}
    (hx : (Endpoint.bound address).Within F h) (ho : boundAddress address = .ok own) :
    own.family = F := by
  obtain ⟨a, ha, rfl⟩ := hx
  rw [boundAddress_of_text ho, a.family_toNet, ha]

theorem parse_within {address : String} {a : SockAddr}
    (hx : (Endpoint.bound address).Within F h) (ha : SockAddr.parse address = .ok a) :
    a.family = F := by
  obtain ⟨b, hb, rfl⟩ := hx
  rw [SockAddr.text, SockAddr.parse_netText, SockAddr.ofNet_toNet] at ha
  cases ha
  exact hb

/-! ### Up to the host -/

section Start

variable (hs : s.endpoint.Within s.family h)
include hs

theorem within_bind (a : SockAddr) : (s.startBind a).Within s.family h := by
  refine .guarded hs fun _ hcheck => ?_
  split
  · have hbound : (s.withEndpoint (.bound a.text)).endpoint.Within s.family h :=
      ⟨a, family_of_check hcheck, rfl⟩
    exact .silent hbound rfl
  · exact .invalid hs _
  · exact .invalid hs _

theorem within_listen : s.startListen.Within s.family h := by
  unfold startListen
  split
  · exact .failed hs _
  · split
    · rename_i address hx
      exact .guarded hs fun own ho => .ask hs (boundAddress_within (hx ▸ hs) ho)
    all_goals exact .invalid hs _

theorem within_accept : s.startAccept.Within s.family h := by
  unfold startAccept
  split
  · rename_i l hx
    have hl : (Endpoint.listening l).Within s.family h := hx ▸ hs
    exact .ask hs hl
  · exact .failed hs _
  · exact .invalid hs _

theorem within_connect (a : SockAddr) : (s.startConnect a).Within s.family h := by
  refine .guarded hs fun _ hcheck => .guarded hs fun _ _ => ?_
  have ha := family_of_check hcheck
  split
  · exact .ask hs ⟨ha, fun b hb => nomatch hb⟩
  · rename_i address hx
    refine .guarded hs fun own ho => .ask hs ⟨ha, ?_⟩
    rintro b ⟨⟩
    exact boundAddress_within (hx ▸ hs) ho
  · rename_i p hx
    have hp : (Endpoint.datagram p).Within s.family h := hx ▸ hs
    have hbound : (s.withEndpoint (.bound p.own.text)).endpoint.Within s.family h :=
      ⟨.ofNet p.own, PortHandle.Within.family hp, by rw [SockAddr.text, SockAddr.toNet_ofNet]⟩
    simp only [boundAddress_text]
    refine .asks_of hbound ⟨ha, ?_⟩
    rintro b ⟨⟩
    exact PortHandle.Within.family hp
  all_goals exact .invalid hs _

theorem within_ownName : s.startOwnName.Within s.family h := by
  unfold startOwnName
  split
  · exact .address hs (by cases s.family <;> rfl)
  · rename_i address hx
    exact .guarded hs fun a ha => .address hs (parse_within (hx ▸ hs) ha)
  · rename_i l hx
    have hl : (Endpoint.listening l).Within s.family h := hx ▸ hs
    exact .address hs (ListenerHandle.Within.family hl)
  · rename_i c peer hx
    have hc : (Endpoint.connected c peer).Within s.family h := hx ▸ hs
    exact .address hs hc.1.own
  · rename_i p hx
    have hp : (Endpoint.datagram p).Within s.family h := hx ▸ hs
    exact .address hs (PortHandle.Within.family hp)
  · exact .invalid hs _

theorem within_peerName : s.startPeerName.Within s.family h := by
  unfold startPeerName
  split
  · rename_i c peer hx
    have hc : (Endpoint.connected c peer).Within s.family h := hx ▸ hs
    exact .address hs hc.2
  · exact .invalid hs _

theorem within_read (size : Nat) : (s.startRead size).Within s.family h := by
  unfold startRead
  split
  · exact .ask hs trivial
  · exact .silent hs rfl
  · exact .invalid hs _

theorem within_write (data : Bytes) : (s.startWrite data).Within s.family h := by
  unfold startWrite
  split
  · rename_i c peer hx
    have hc : (Endpoint.connected c peer).Within s.family h := hx ▸ hs
    exact .ask hs hc.1
  · exact .failed hs _
  · exact .invalid hs _

theorem within_useDatagram {use : DatagramUse} (hu : use.Within s.family) :
    (s.useDatagram use).Within s.family h := by
  unfold useDatagram
  split
  · rename_i p hx
    have hp : (Endpoint.datagram p).Within s.family h := hx ▸ hs
    cases use with
    | send data a => exact .ask hs ⟨hp, hu⟩
    | receive size => exact .ask hs hp
  · exact .ask hs ⟨by cases s.family <;> rfl, hu⟩
  · rename_i address hx
    exact .guarded hs fun own ho => .ask hs ⟨boundAddress_within (hx ▸ hs) ho, hu⟩
  · exact .invalid hs _
  · exact .invalid hs _

theorem within_sendTo (data : Bytes) (a : SockAddr) :
    (s.startSendTo data a).Within s.family h := by
  refine .guarded hs fun _ hcheck => ?_
  split
  · rename_i c peer hx
    have hc : (Endpoint.connected c peer).Within s.family h := hx ▸ hs
    split
    · exact .invalid hs _
    · exact .ask hs hc.1
  · split
    · exact .invalid hs _
    · have hsend : (DatagramUse.send data a).Within s.family := family_of_check hcheck
      exact .guarded hs fun _ _ => within_useDatagram hs hsend

theorem within_receiveFrom (size : Nat) : (s.startReceiveFrom size).Within s.family h := by
  unfold startReceiveFrom
  split
  · rename_i c peer hx
    have hc : (Endpoint.connected c peer).Within s.family h := hx ▸ hs
    exact .ask hs hc.2
  · split
    · exact .invalid hs _
    · have hreceive : (DatagramUse.receive size).Within s.family := trivial
      exact within_useDatagram hs hreceive

theorem within_start (c : SocketCall) : (s.start c).Within s.family h := by
  cases c with
  | bind a => exact within_bind hs a
  | listen => exact within_listen hs
  | accept => exact within_accept hs
  | connect a => exact within_connect hs a
  | ownName => exact within_ownName hs
  | peerName => exact within_peerName hs
  | read size => exact within_read hs size
  | write data => exact within_write hs data
  | sendTo data a => exact within_sendTo hs data a
  | receiveFrom size => exact within_receiveFrom hs size
  | stopIo => exact .tells_of hs (.silent rfl)
  | close =>
    have hclosed : (s.withEndpoint .closed).endpoint.Within s.family h := trivial
    exact .tells_of hclosed (.silent rfl)
  | setDeadline | setReadDeadline | setWriteDeadline => exact .failed hs _

/-! ### On from an answer -/

theorem within_resumeListen {l : ListenerHandle} (hl : l.Within s.family h) :
    (s.resumeListen l).Within s.family h := by
  unfold resumeListen
  split
  · have hafter : (s.withEndpoint (.listening l)).endpoint.Within s.family h := hl
    exact .silent hafter rfl
  · exact .fails hs _ _

theorem within_resumeConnect {c : ConnectionHandle} {a : SockAddr} (hc : c.Within s.family h)
    (ha : a.family = s.family) : (s.resumeConnect a c).Within s.family h := by
  have hafter : (s.withEndpoint (.connected c a)).endpoint.Within s.family h := ⟨hc, ha⟩
  unfold resumeConnect
  split
  · exact .silent hafter rfl
  · exact .silent hafter rfl
  · exact .fails hs _ _

theorem within_resumeClaim {use : DatagramUse} (hu : use.Within s.family) {p : PortHandle}
    (hp : p.Within s.family h) : (s.resumeClaim use p).Within s.family h := by
  have hafter : ((s.withEndpoint (.datagram p)).useDatagram use).Within s.family h :=
    within_useDatagram (s := s.withEndpoint (.datagram p)) hp hu
  unfold resumeClaim
  split
  · exact hafter
  · exact hafter
  · obtain ⟨hkept, hasks, htells⟩ := within_useDatagram hs hu
    exact ⟨hkept, hasks, htells⟩
  · exact .fails hs _ _

theorem within_resume {q : SocketPending} {a : Except HostFailure q.request.Answer}
    (hq : q.Within s.family h) (ha : ∀ x, a = .ok x → q.Brings s.family h x) :
    (s.resume q a).Within s.family h := by
  cases a with
  | error f =>
    rw [resume_error]
    refine ⟨hs, (fun _ hq => nomatch hq), fun r hr => ?_⟩
    have hend : q.endOfStream = .ok r := by
      have hr := Progress.done.inj hr
      split at hr
      · exact hr
      · cases hr
    cases q with
    | readingFrom c size peer =>
      cases hend
      exact .datagram hq
    | reading =>
      cases hend
      exact .silent rfl
    | listening | accepting | connecting | writing | claiming | sending | receiving => cases hend
  | ok x =>
    have hx := ha x rfl
    cases q with
    | listening => exact within_resumeListen hs hx
    | accepting l =>
      have hc : ConnectionHandle.Within x s.family h := hx
      exact .tells_of hs ⟨hc.peer, hc.peer⟩
    | connecting protocol own b => exact within_resumeConnect hs hx hq.1
    | reading | writing | sending => exact .silent hs rfl
    | readingFrom c size peer => exact .tells_of hs (.datagram hq)
    | claiming own use => exact within_resumeClaim hs hq.2 hx
    | receiving p size => exact .tells_of hs (.datagram hx)

theorem within_turn {e : SocketEvent} (he : e.Within s.family h) :
    (e.turn s).Within s.family h := by
  cases e with
  | call c => exact within_start hs c
  | answer q a => exact within_resume hs he.1 he.2

end Start

end Socket

end SyscallBridge
