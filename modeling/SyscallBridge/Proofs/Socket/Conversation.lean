import SyscallBridge.Proofs.Host.Messages
import SyscallBridge.Proofs.Host.Queues
import SyscallBridge.Proofs.Socket.AfterStop
import SyscallBridge.WebSocket

/-!
# Conversations over a web socket

A web socket on one side of a channel, and on the other side whoever took the channel from its
server. Both send, receive and close as they like, and anything may happen to the host beside them.
-/

namespace SyscallBridge

open InProcess

/-- A web socket and the host that it is on. -/
structure Chat where
  host : InProcessHost
  socket : WebSocket

/-- A call of a web socket, or an act on the host beside it. -/
inductive ChatEvent where
  | send (m : Message)
  | receive
  /-- A receive that waits has its turn. -/
  | resume
  | close
  | drop
  | beside (a : HostAct)
  deriving DecidableEq

/-- The side of a channel that an act is on. -/
def HostAct.channel? : HostAct → Option Nat
  | .request (.sendMessage c _) | .request (.receiveMessage c) => some c.id
  | .close (.channel id) | .drop (.channel id) => some id
  | _ => none

/-- The side of a channel that an event is on without a call of the web socket. -/
def ChatEvent.channel? : ChatEvent → Option Nat
  | .beside a => a.channel?
  | _ => none

namespace Chat

/-- What a web socket makes of the answer to its request: a failure, or the message that it
received, if it asked for one. -/
def told : (q : Request) → Except HostFailure q.Answer → Except CallError (Option Message)
  | .receiveMessage _, .ok (m : Message) => .ok (some m)
  | _, .ok _ => .ok none
  | _, .error f => .error (.ofHost f)

def answered (x : Chat) (q : Request) : Option (Except HostFailure q.Answer × InProcessHost) →
    Option (Except CallError (Option Message)) × Chat
  | none => (none, x)
  | some (answer, host) => (some (told q answer), { x with host })

/-- A call on the web socket, with its result unless it has to wait. -/
def call (x : Chat) : Except CallError Request → Option (Except CallError (Option Message)) × Chat
  | .error e => (some (.error e), x)
  | .ok q => x.answered q (x.host.answer? q)

def close (x : Chat) : Chat where
  host := x.host.closeAll x.socket.close.2
  socket := x.socket.close.1

/-- A web socket that is dropped is closed, and its side of the channel is dropped with it. -/
def drop (x : Chat) : Chat :=
  { x.close with host := x.close.host.drop x.socket.channel.resource }

def turn (x : Chat) : ChatEvent → Option (Except CallError (Option Message)) × Chat
  | .send m => x.call (x.socket.send m)
  | .receive => x.call x.socket.receive
  | .resume =>
    x.answered (.receiveMessage x.socket.channel)
      (x.host.poll? (.receiveMessage x.socket.channel))
  | .close => (none, x.close)
  | .drop => (none, x.drop)
  | .beside a => (none, { x with host := x.host.act a })

def next (x : Chat) (e : ChatEvent) : Chat := (x.turn e).2

def run (x : Chat) (l : List ChatEvent) : Chat := l.foldl next x

/-! ### What is sent and received -/

def sent (x : Chat) (e : ChatEvent) : List Message :=
  match e, (x.turn e).1 with
  | .send m, some (.ok _) => [m]
  | _, _ => []

def got (x : Chat) (e : ChatEvent) : List Message :=
  match (x.turn e).1 with
  | some (.ok (some m)) => [m]
  | _ => []

/-- The other side is told by its number. -/
def sentFrom (far : Nat) (x : Chat) : ChatEvent → List Message
  | .beside a => x.host.sentBy far a
  | _ => []

def gotAt (far : Nat) (x : Chat) : ChatEvent → List Message
  | .beside a => x.host.gotBy far a
  | _ => []

def collect (part : Chat → ChatEvent → List Message) (x : Chat) : List ChatEvent → List Message
  | [] => []
  | e :: l => part x e ++ collect part (x.next e) l

/-! ### Steps -/

variable {x : Chat} {c : ChannelHandle} {far : Nat} {out inn outFar innFar : List Message}

/-- Each side has been given what the other one has sent, and the web socket knows whether its own
side is open. That side waits at no server, which it would go with. -/
structure Sound (x : Chat) (c : ChannelHandle) (far : Nat) (out inn outFar innFar : List Message) :
    Prop where
  channel : x.socket.channel = c
  apart : c.id ≠ far
  orderly : x.host.Orderly
  marked : x.host.Marked
  unqueued : InProcessHost.Unqueued (.channel c.id) x.host
  toFar : x.host.Conveys c.id far out innFar
  toNear : x.host.Conveys far c.id outFar inn
  isOpen : x.host.isOpenChannel c.id = !x.socket.closed

theorem Sound.act (hs : x.Sound c far out inn outFar innFar) (a : HostAct) {socket : WebSocket}
    (channel : socket.channel = c) (isOpen : (x.host.act a).isOpenChannel c.id = !socket.closed) :
    Sound ⟨x.host.act a, socket⟩ c far (out ++ x.host.sentBy c.id a) (inn ++ x.host.gotBy c.id a)
      (outFar ++ x.host.sentBy far a) (innFar ++ x.host.gotBy far a) where
  channel := channel
  apart := hs.apart
  orderly := hs.orderly.act a
  marked := hs.marked.act a
  unqueued := hs.unqueued.act a
  toFar := hs.toFar.act hs.orderly a
  toNear := hs.toNear.act hs.orderly a
  isOpen := isOpen

theorem answered_poll?_snd (x : Chat) (q : Request) :
    (x.answered q (x.host.poll? q)).2 = { x with host := x.host.act (.request q) } := by
  cases hp : x.host.poll? q with
  | none =>
    rw [InProcessHost.act_request_of_none hp]
    rfl
  | some result =>
    rw [InProcessHost.act_request hp]
    rfl

/-- What an event adds to the messages of either side, if it leaves the conversation sound. -/
def Adds (x : Chat) (e : ChatEvent) (c : ChannelHandle) (far : Nat)
    (out inn outFar innFar : List Message) : Prop :=
  (x.next e).Sound c far (out ++ x.sent e) (inn ++ x.got e) (outFar ++ sentFrom far x e)
    (innFar ++ gotAt far x e)

theorem Sound.quiet {e : ChatEvent} (hs : (x.next e).Sound c far out inn outFar innFar)
    (hsent : x.sent e = []) (hgot : x.got e = []) (hfar : ∀ a, e ≠ .beside a) :
    x.Adds e c far out inn outFar innFar := by
  rw [Adds, hsent, hgot]
  cases e with
  | beside a => exact absurd rfl (hfar a)
  | _ => simpa only [sentFrom, gotAt, List.append_nil] using hs

theorem Sound.refused (hs : x.Sound c far out inn outFar innFar) {e : ChatEvent} {f : CallError}
    (he : x.turn e = (some (.error f), x)) (hfar : ∀ a, e ≠ .beside a) :
    x.Adds e c far out inn outFar innFar := by
  have hnext : x.next e = x := congrArg Prod.snd he
  have hsent : x.sent e = [] := by cases e <;> simp [sent, he]
  have hgot : x.got e = [] := by simp [got, he]
  rw [← hnext] at hs
  exact Sound.quiet (x := x) hs hsent hgot hfar

theorem turn_send_of_closed (hclosed : x.socket.closed = true) (m : Message) :
    x.turn (.send m) = (some (.error (.invalidState "websocket is closed")), x) := by
  simp only [turn, WebSocket.send, WebSocket.checkOpen, hclosed]
  rfl

theorem turn_send_of_open (hopen : x.socket.closed = false) (m : Message) :
    x.turn (.send m) = x.answered (.sendMessage x.socket.channel m)
      (x.host.poll? (.sendMessage x.socket.channel m)) := by
  simp only [turn, WebSocket.send, WebSocket.checkOpen, hopen]
  rfl

theorem Sound.send (hs : x.Sound c far out inn outFar innFar) (m : Message) :
    x.Adds (.send m) c far out inn outFar innFar := by
  obtain rfl := hs.channel
  cases hclosed : x.socket.closed with
  | true => exact hs.refused (turn_send_of_closed hclosed m) nofun
  | false =>
    have hturn := turn_send_of_open hclosed m
    have hopen := InProcessHost.isOpenChannel_request hs.toFar.writerOld
      (.sendMessage x.socket.channel m)
    have hstep := hs.act (.request (.sendMessage x.socket.channel m)) rfl
      (hopen.trans hs.isOpen)
    have hpoll : (x.turn (.send m)).1 =
        some (told (.sendMessage x.socket.channel m) (x.host.sendMessage x.socket.channel.id m).1) :=
      congrArg Prod.fst hturn
    have hsent : x.host.sentBy x.socket.channel.id (.request (.sendMessage x.socket.channel m)) =
        x.sent (.send m) := by
      simp only [sent, InProcessHost.sentBy, if_true, hpoll]
      cases (x.host.sendMessage x.socket.channel.id m).1 <;> rfl
    have hgot : x.got (.send m) = [] := by
      simp only [got, hpoll]
      cases (x.host.sendMessage x.socket.channel.id m).1 <;> rfl
    -- The near side is not the far one, whose messages stay what they were.
    have hfar : x.host.sentBy far (.request (.sendMessage x.socket.channel m)) = [] :=
      if_neg hs.apart
    rw [hsent, hfar] at hstep
    rw [Adds, next, hturn, answered_poll?_snd, hgot]
    exact hstep

theorem Sound.receives (hs : x.Sound c far out inn outFar innFar) {e : ChatEvent}
    (he : e = .receive ∨ e = .resume)
    (hturn : x.turn e = x.answered (.receiveMessage x.socket.channel)
      (x.host.poll? (.receiveMessage x.socket.channel))) :
    x.Adds e c far out inn outFar innFar := by
  obtain rfl := hs.channel
  have hopen := InProcessHost.isOpenChannel_request hs.toFar.writerOld
    (.receiveMessage x.socket.channel)
  have hstep := hs.act (.request (.receiveMessage x.socket.channel)) rfl
    (hopen.trans hs.isOpen)
  have hgot : x.host.gotBy x.socket.channel.id (.request (.receiveMessage x.socket.channel)) =
      x.got e := by
    have hpoll : x.host.poll? (.receiveMessage x.socket.channel) =
      x.host.receiveMessage? x.socket.channel.id := rfl
    simp only [got, InProcessHost.gotBy, if_true, hturn, hpoll]
    rcases x.host.receiveMessage? x.socket.channel.id with _ | ⟨_ | m, host⟩ <;> rfl
  have hfar : x.host.gotBy far (.request (.receiveMessage x.socket.channel)) = [] :=
    if_neg hs.apart
  rw [hgot, hfar] at hstep
  rw [Adds, next, hturn, answered_poll?_snd]
  rcases he with rfl | rfl <;> exact hstep

theorem turn_receive_of_closed (hclosed : x.socket.closed = true) :
    x.turn .receive = (some (.error (.invalidState "websocket is closed")), x) := by
  simp only [turn, WebSocket.receive, WebSocket.checkOpen, hclosed]
  rfl

/-- A web socket that is open is on an open side, which refuses nothing. -/
theorem Sound.turn_receive_of_open (hs : x.Sound c far out inn outFar innFar)
    (hopen : x.socket.closed = false) : x.turn .receive = x.turn .resume := by
  have hrefuses : x.host.refuses (.receiveMessage x.socket.channel) = false := by
    refine Bool.eq_false_iff.2 fun hrefused => ?_
    have hside := hs.isOpen
    rw [← hs.channel, InProcessHost.isOpenChannel_of_refuses hrefused, hopen] at hside
    cases hside
  simp only [turn, WebSocket.receive, WebSocket.checkOpen, hopen]
  change x.answered _ (x.host.answer? (.receiveMessage x.socket.channel)) = _
  rw [InProcessHost.answer?, hrefuses]
  rfl

theorem Sound.receive (hs : x.Sound c far out inn outFar innFar) :
    x.Adds .receive c far out inn outFar innFar := by
  cases hclosed : x.socket.closed with
  | true => exact hs.refused (turn_receive_of_closed hclosed) nofun
  | false => exact hs.receives (Or.inl rfl) (hs.turn_receive_of_open hclosed)

theorem Sound.closes (hs : x.Sound c far out inn outFar innFar) :
    x.close.Sound c far out inn outFar innFar ∧ x.close.socket.closed = true := by
  obtain rfl := hs.channel
  cases hclosed : x.socket.closed with
  | true =>
    have hsame : x.close = x := by
      simp only [close, WebSocket.close, hclosed]
      rfl
    rw [hsame]
    exact ⟨hs, hclosed⟩
  | false =>
    have hclose : x.close = ⟨x.host.act (.close x.socket.channel.resource),
        { x.socket with closed := true }⟩ := by
      simp only [close, WebSocket.close, hclosed]
      rfl
    have hshut := InProcessHost.isOpenChannel_closeChannel hs.orderly x.socket.channel.id
      x.socket.channel.id
    rw [if_pos rfl] at hshut
    let shut : WebSocket := { x.socket with closed := true }
    have hstep : Sound ⟨x.host.act (.close x.socket.channel.resource), shut⟩ _ _ _ _ _ _ :=
      hs.act (.close x.socket.channel.resource) rfl hshut
    rw [hclose]
    simp only [InProcessHost.sentBy, InProcessHost.gotBy, List.append_nil] at hstep
    exact ⟨hstep, rfl⟩

theorem Sound.drops (hs : x.Sound c far out inn outFar innFar) :
    x.drop.Sound c far out inn outFar innFar := by
  obtain ⟨hclose, hclosed⟩ := hs.closes
  have hshut : (x.close.host.act (.drop (.channel c.id))).isOpenChannel c.id =
      !x.close.socket.closed := by
    have hforgotten : (x.close.host.discard (.channel c.id)).isOpenChannel c.id = false :=
      (InProcessHost.isOpenChannel_forget _ _).trans (if_pos rfl)
    rw [hclosed]
    exact hforgotten
  have hstep := hclose.act (.drop (.channel c.id)) hclose.channel hshut
  simp only [InProcessHost.sentBy, InProcessHost.gotBy, List.append_nil] at hstep
  rw [drop, hs.channel]
  exact hstep

theorem Sound.beside (hs : x.Sound c far out inn outFar innFar) {a : HostAct}
    (ha : a.channel? ≠ some c.id) : x.Adds (.beside a) c far out inn outFar innFar := by
  -- Only a closing of the near side could part what the web socket knows from what is so.
  have hclose : a ≠ .close (.channel c.id) := by
    rintro rfl
    exact ha rfl
  have hdrop (y : Resource) (hy : a = .drop y) :
      y ≠ .channel c.id ∧ .channel c.id ∉ x.host.queued y := by
    subst hy
    refine ⟨?_, hs.unqueued.nowhere y⟩
    rintro rfl
    exact ha rfl
  have hopen := InProcessHost.isOpenChannel_act hs.orderly hs.toFar.writerOld hclose hdrop
  have hstep := hs.act a hs.channel (hopen.trans hs.isOpen)
  have hsent : x.host.sentBy c.id a = [] := by
    unfold InProcessHost.sentBy
    split
    · rename_i d m
      exact if_neg fun hid => ha (congrArg some hid)
    · rfl
  have hgot : x.host.gotBy c.id a = [] := by
    unfold InProcessHost.gotBy
    split
    · rename_i d
      exact if_neg fun hid => ha (congrArg some hid)
    · rfl
  rw [hsent, hgot] at hstep
  exact hstep

theorem Sound.next (hs : x.Sound c far out inn outFar innFar) {e : ChatEvent}
    (he : e.channel? ≠ some c.id) : x.Adds e c far out inn outFar innFar := by
  cases e with
  | send m => exact hs.send m
  | receive => exact hs.receive
  | resume => exact hs.receives (Or.inr rfl) rfl
  | close => exact Sound.quiet hs.closes.1 rfl rfl nofun
  | drop => exact Sound.quiet hs.drops rfl rfl nofun
  | beside a => exact hs.beside he

theorem Sound.run (hs : x.Sound c far out inn outFar innFar) (l : List ChatEvent)
    (hl : ∀ e ∈ l, e.channel? ≠ some c.id) :
    (x.run l).Sound c far (out ++ x.collect sent l) (inn ++ x.collect got l)
      (outFar ++ x.collect (sentFrom far) l) (innFar ++ x.collect (gotAt far) l) := by
  induction l generalizing x out inn outFar innFar with
  | nil => simpa only [Chat.run, collect, List.foldl_nil, List.append_nil] using hs
  | cons e l ih =>
    obtain ⟨he, hrest⟩ := List.forall_mem_cons.1 hl
    have hnext := ih (hs.next he) hrest
    simpa only [Chat.run, List.foldl_cons, collect, List.append_assoc] using hnext

/-! ### The start -/

theorem sound_dialed (earlier : List HostAct) {url : String} {h : InProcessHost}
    (hdial : (InProcessHost.acts {} earlier).dialChannel url = (.ok c, h))
    (hfar : (h.channels.find? c.id).map Channel.peer = some far) :
    Sound ⟨h, { channel := c }⟩ c far [] [] [] [] := by
  have horderly := (InProcessHost.orderly_start.acts earlier).act (.request (.dialChannel url))
  have hmarked := (InProcessHost.marked_start.acts earlier).act (.request (.dialChannel url))
  have hunqueued := InProcessHost.unqueued_near earlier (q := .dialChannel url) (.channel c.id)
  have hact : (InProcessHost.acts {} earlier).act (.request (.dialChannel url)) = h :=
    congrArg Prod.snd hdial
  rw [hact] at horderly hmarked hunqueued
  generalize InProcessHost.acts {} earlier = g at hdial hunqueued
  rcases InProcessHost.dialChannel_eq_some (congrArg some hdial) with ⟨f, hf, -⟩ |
    ⟨server, hok, hh⟩ | ⟨slots, channels, hf, -⟩
  · cases hf
  · cases hok
    have hchannels : h.channels = g.dialedChannels := by rw [hh]
    have hnext : h.nextId = g.nextId + 2 := by rw [hh]
    have hnear : h.channels.find? g.nextId =
        some { slot := g.slots.insert.1, peer := g.nextId + 1 } := by
      rw [hchannels, InProcessHost.find?_dialedChannels, if_neg (by omega), if_pos rfl]
    rw [hnear] at hfar
    cases hfar
    have hother : h.channels.find? (g.nextId + 1) =
        some { slot := g.slots.insert.2.insert.1, peer := g.nextId } := by
      rw [hchannels, InProcessHost.find?_dialedChannels, if_pos rfl]
    exact {
      channel := rfl
      apart := (Nat.succ_ne_self g.nextId).symm
      orderly := horderly
      marked := hmarked
      unqueued := hunqueued rfl (hnext ▸ Nat.lt_add_of_pos_right Nat.two_pos)
      toFar := .dialed horderly hnear hother
      toNear := .dialed horderly hother hnear
      isOpen := InProcessHost.isOpenChannel_of_find? hnear }
  · cases hf

/-! ### The next receive -/

/-- The errors that tell of the closing of the web socket itself: a new receive is refused, and one
that waits finds the end of the stream. -/
def stopped : List CallError := [.invalidState "websocket is closed", .endOfStream]

theorem receipt_answered {here there : Bool} {q : ChannelHandle}
    {answer : Option (Except HostFailure Message × InProcessHost)}
    (hr : Receipt HostFailure.connectionClosed [.aborted] outFar inn here there
      (answer.map fun told => told.1.map some)) :
    Receipt CallError.endOfStream stopped outFar inn here there
      (x.answered (.receiveMessage q) answer).1 := by
  rcases answer with _ | ⟨f | m, host⟩
  · cases hr with
    | waits all => exact .waits all
  · cases hr with
    | ends all closed => exact .ends all closed
    | stops htold closed =>
      cases List.mem_singleton.1 htold
      exact .stops (by decide) closed
  · cases hr with
    | gives _ next => exact .gives m next

theorem Sound.receipt_poll? (hs : x.Sound c far out inn outFar innFar) :
    Receipt CallError.endOfStream stopped outFar inn (!x.socket.closed) (x.host.isOpenChannel far)
      (x.answered (.receiveMessage x.socket.channel)
        (x.host.poll? (.receiveMessage x.socket.channel))).1 := by
  rw [← hs.isOpen]
  exact receipt_answered (hs.toNear.receipt_poll? hs.orderly hs.marked (congrArg _ hs.channel))

theorem Sound.receipt (hs : x.Sound c far out inn outFar innFar) {e : ChatEvent}
    (he : e ∈ [ChatEvent.receive, .resume]) :
    Receipt CallError.endOfStream stopped outFar inn (!x.socket.closed) (x.host.isOpenChannel far)
      (x.turn e).1 := by
  rcases List.mem_pair.1 he with rfl | rfl
  · cases hclosed : x.socket.closed with
    | true =>
      rw [turn_receive_of_closed hclosed]
      exact .stops (by decide) rfl
    | false =>
      have hpoll := hs.receipt_poll?
      rw [hclosed] at hpoll
      rw [hs.turn_receive_of_open hclosed]
      exact hpoll
  · exact hs.receipt_poll?

/-- A web socket is dialed on a host that anything was done to before. Then messages are sent and
received on both sides in any order, either side may be closed or dropped, and anything else may
happen to the host. What a side has received is at any time the beginning of what the other one has
sent. Unless it is closed, a receive gives the next message, waits while there is none, or reports
the end of the stream, and that only when the other side is closed and all it sent was received. -/
theorem messages_in_order (earlier : List HostAct) {url : String} (far : ChannelHandle)
    {h : InProcessHost} (hdial : (InProcessHost.acts {} earlier).dialChannel url = (.ok c, h))
    (hfar : (h.channels.find? c.id).map Channel.peer = some far.id) (l : List ChatEvent)
    (hl : ∀ e ∈ l, e.channel? ≠ some c.id) :
    let x : Chat := ⟨h, { channel := c }⟩
    let y := x.run l
    let out := x.collect sent l
    let inn := x.collect got l
    let outFar := x.collect (sentFrom far.id) l
    let innFar := x.collect (gotAt far.id) l
    (inn <+: outFar ∧ ∀ e ∈ [ChatEvent.receive, .resume],
      Receipt CallError.endOfStream stopped outFar inn (!y.socket.closed) (y.host.isOpenChannel far.id)
        (y.turn e).1) ∧
    innFar <+: out ∧
      ∀ told ∈ [y.host.answer? (.receiveMessage far), y.host.poll? (.receiveMessage far)],
        Receipt HostFailure.connectionClosed [.aborted] out innFar (y.host.isOpenChannel far.id)
          (!y.socket.closed) (told.map fun told => told.1.map some) := by
  intro x y out inn outFar innFar
  have hs := (sound_dialed earlier hdial hfar).run l hl
  simp only [List.nil_append] at hs
  refine ⟨⟨hs.toNear.received, fun e he => hs.receipt he⟩, hs.toFar.received, fun told htold => ?_⟩
  have hopen := hs.isOpen
  rcases List.mem_pair.1 htold with rfl | rfl
  · rw [← hopen]
    exact hs.toFar.receipt_answer? hs.orderly hs.marked rfl
  · rw [← hopen]
    exact hs.toFar.receipt_poll? hs.orderly hs.marked rfl

/-- The other side answers with two messages and is closed; both come before the end. -/
theorem messages_in_order_to_the_end :
    let c : ChannelHandle := ⟨1, "ws://a/"⟩
    let far : ChannelHandle := ⟨2, c.url⟩
    let h := InProcessHost.acts {} [.serve c.url, .request (.dialChannel c.url)]
    let x : Chat := ⟨h, { channel := c }⟩
    let l : List ChatEvent := [.beside (.request (.acceptChannel 0)), .send (.text "hi"),
      .send (.binary []), .beside (.request (.receiveMessage far)),
      .beside (.request (.sendMessage far (.binary [1, 2]))),
      .beside (.request (.sendMessage far (.text "bye"))), .receive, .beside (.close far.resource),
      .receive]
    x.collect sent l = [.text "hi", .binary []] ∧ x.collect (gotAt 2) l = [.text "hi"] ∧
      x.collect got l = [.binary [1, 2], .text "bye"] ∧ x.collect got l <+: x.collect (sentFrom 2) l ∧
      ((x.run l).turn .receive).1 = some (.error .endOfStream) := by
  intro c far h x l
  have hdial : (InProcessHost.acts {} [.serve c.url]).dialChannel c.url = (.ok c, h) := rfl
  have horder := messages_in_order [.serve c.url] far hdial rfl l (by decide)
  exact ⟨by decide +kernel, by decide +kernel, by decide +kernel, horder.1.1, by decide +kernel⟩

end Chat

end SyscallBridge
