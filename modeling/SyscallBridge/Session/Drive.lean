import SyscallBridge.Session.State

/-!
# Calls and their requests

A call is driven from request to request until it is done or has to wait. A name that is looked up
has the addresses prepared for it, if there are any. Any other request goes through the faults set
up for its kind first; then it is refused if what it asks of is closed, waits if another call is
waiting for the same resource, and is given to the host otherwise.

After every command, waiting calls that can go on do so, the oldest first.
-/

namespace SyscallBridge.Session

variable {α : Type}

/-- A call after a turn: it has come to an end, or waits for another request. -/
inductive After (α : Type) where
  | ended (o : Outcome α)
  | waits (c : Call)

/-! ## One turn -/

/-- The end of a system call. -/
def concluded (s : Session α) (result : Except CallError Reply) : Session α × Outcome α :=
  let (ending, notices) := s.bridge.conclude result
  (s.notify notices, .ofEnding .reply ending)

def systemTurn (s : Session α) (t : Bridge.Step) : Session α × After α :=
  let s := { s with bridge := t.state }.effects t.effects
  match t.progress with
  | .pending p => (s, .waits (.system p))
  | .done result =>
    let (s, outcome) := s.concluded result
    (s, .ended outcome)

/-- The end of a call on a socket of the session. -/
def socketEnd (s : Session α) (keep : Option String) :
    Except CallError SocketReply → Session α × Outcome α
  | .error e => (s, .failed e)
  | .ok (.plain r) => (s, .ok (.reply r))
  | .ok (.accepted socket peer) =>
    let s := match keep with
      | some id => s.keepFile id (.socket socket)
      | none => s
    (s, .ok (.reply (.address peer)))

def fileTurn (s : Session α) (file : Nat) (keep : Option String)
    (t : Turn FileStore SocketReply SocketPending) : Session α × After α :=
  let s := { s with store := t.state }.effects t.effects
  match t.progress with
  | .pending p => (s, .waits (.file file p keep))
  | .done result =>
    let (s, outcome) := s.socketEnd keep result
    (s, .ended outcome)

/-- A message in the form it is wanted in. -/
def formed (form : MessageForm) (m : Message) : Outcome α :=
  match form with
  | .message => .ok (.message m)
  | .bytes => .ok (.bytes m.bytes)
  | .text => .ofReply (m.textOf.map .text)

/-- The end of a request of a web socket. -/
def webSocketEnd (s : Session α) (use : WebSocketUse) :
    (r : Request) → Except HostFailure r.Answer → Session α × Outcome α
  | .dialChannel url, .ok (c : ChannelHandle) =>
    let s := match use with
      | .keep id => s.keep id (.webSocket { channel := c })
      | .report _ => s
    (s, .text url)
  | .receiveMessage _, .ok (m : Message) =>
    (s, match use with
      | .report form => formed form m
      | .keep _ => .done)
  | _, .ok _ => (s, .done)
  | _, .error f => (s, .failed (.ofHost f))

/-- Keeps what the host has opened. -/
def keepFor (s : Session α) (use : DirectUse) (o : Object) : Session α :=
  match use with
  | .keep id => s.keep id o
  | .report => s

/-- The end of a request made directly. -/
def directEnd (s : Session α) (use : DirectUse) :
    (r : Request) → Except HostFailure r.Answer → Session α × Outcome α
  | .resolve .., .ok (l : List NetAddress) => (s, .ok (.addresses l))
  | .listen .., .ok (l : ListenerHandle) => (s.keepFor use (.listener l), .address l.address)
  | .dial .., .ok (c : ConnectionHandle) =>
    (s.keepFor use (.connection c), .ok (.endpoints c.own c.peer))
  | .accept _, .ok (c : ConnectionHandle) =>
    (s.keepFor use (.connection c), .ok (.endpoints c.own c.peer))
  | .bindPort _, .ok (p : PortHandle) => (s.keepFor use (.port p), .address p.own)
  | .dialChannel _, .ok (c : ChannelHandle) => (s.keepFor use (.channel c), .done)
  | .acceptChannel _, .ok (c : ChannelHandle) => (s.keepFor use (.channel c), .text c.url)
  | .read .., .ok (bytes : Bytes) => (s, .ok (.reply (.data bytes)))
  | .write .., .ok (n : Nat) => (s, .number n)
  | .sendTo .., .ok (n : Nat) => (s, .number n)
  | .receiveFrom .., .ok (got : Bytes × NetAddress) =>
    (s, .ok (.reply (.datagram got.1 (.ofNet got.2))))
  | .sendMessage .., .ok _ => (s, .done)
  | .receiveMessage _, .ok (m : Message) => (s, .ok (.message m))
  | _, .error f => (s, .hostFailed f)

/-- Goes on with the answer to the request of a call. -/
def resume (s : Session α) :
    (c : Call) → Except HostFailure c.request.Answer → Session α × After α
  | .system p, answer => s.systemTurn (s.bridge.resume p answer)
  | .file id p keep, answer => s.fileTurn id keep (s.store.resumeSocket id p answer)
  | .webSocket r use, answer =>
    let (s, outcome) := s.webSocketEnd use r answer
    (s, .ended outcome)
  | .direct r use, answer =>
    let (s, outcome) := s.directEnd use r answer
    (s, .ended outcome)

/-! ## Requests -/

/-- Takes the first fault set up for a kind of request. -/
def takeFault (s : Session α) (kind : RequestKind) : Option (Fault α) × Session α :=
  match s.faults.findIdx? fun f => f.1 = kind with
  | some i => ((s.faults[i]?).map Prod.snd, { s with faults := s.faults.eraseIdx i })
  | none => (none, s)

/-- A call that waits for the same resource is ahead. -/
def isBehind (r : Request) (ahead : List Call) : Bool :=
  r.waits?.isSome && ahead.any fun c => c.request.waits? = r.waits?

/-- Gives a request to the host; there is no answer if the request has to wait. -/
def askHost (s : Session α) (r : Request) : Option (Except HostFailure r.Answer) × Session α :=
  if s.host.refuses r then (some (.error .aborted), s)
  else if isBehind r s.waitingCalls then (none, s)
  else match s.host.poll? r with
    | some (answer, host) => (some answer, { s with host })
    | none => (none, s)

/-- Takes the addresses prepared for the next name that is looked up. -/
def takePrepared? (s : Session α) :
    (r : Request) → Option (Except HostFailure r.Answer × Session α)
  | .resolve .. =>
    match s.answers with
    | addresses :: answers => some (.ok addresses, { s with answers })
    | [] => none
  | _ => none

/-- Runs commands; yields their answers. -/
abbrev Runner (α : Type) :=
  List (Option String × Command α) → Session α → List (Answered α) × Session α

/-- Runs commands in the middle of a call. -/
def runDuring (run : Runner α) (s : Session α) (c : Call)
    (commands : List (Option String × Command α)) : List (Answered α) × Session α :=
  let (steps, s) := run commands { s with running := c :: s.running }
  (steps, { s with running := s.running.tail })

/-- Makes the request of a call. Yields the answers to commands run meanwhile, and the answer to
the request unless it has to wait. Prepared addresses leave the faults of a look-up for the next
one. -/
def ask (run : Runner α) (s : Session α) (c : Call) :
    List (Answered α) × Option (Except HostFailure c.request.Answer) × Session α :=
  if c.canFault then
    match s.takePrepared? c.request with
    | some (answer, s) => ([], some answer, s)
    | none =>
      match s.takeFault c.request.kind with
      | (some (.fail f), s) => ([], some (.error f), s)
      | (some (.run commands), s) =>
        let (during, s) := s.runDuring run c commands
        (during, s.askHost c.request)
      | (none, s) => ([], s.askHost c.request)
  else ([], s.askHost c.request)

/-- Drives a call on; `rounds` bounds the number of its requests. A call that has to wait becomes
a waiter under `name`. -/
def drive (run : Runner α) (name : Option String) : Nat → Session α → After α →
    List (Answered α) × Outcome α × Session α
  | _, s, .ended outcome => ([], outcome, s)
  | 0, s, .waits c => ([], .blocked, s.block name (.call c))
  | rounds + 1, s, .waits c =>
    match ask run s c with
    | (during, none, s) => (during, .blocked, s.block name (.call c))
    | (during, some answer, s) =>
      let (s, next) := s.resume c answer
      let (more, outcome, s) := drive run name rounds s next
      (during ++ more, outcome, s)

/-- No call makes more requests than this: a dial looks up a name and connects. -/
def maxRequests : Nat := 3

def driveCall (run : Runner α) (name : Option String) (s : Session α) (next : After α) :
    List (Answered α) × Outcome α × Session α := drive run name maxRequests s next

/-! ## Waiting calls -/

/-- A waiter under `name` comes to an end. -/
def finish (s : Session α) (name : Option String) (outcome : Outcome α) : Session α :=
  match name with
  | some name => { s with finished := s.finished.insert name outcome }
  | none => s

/-- Goes on with a waiter, if it can; `ahead` are the calls that wait longer. -/
def wake? (s : Session α) (ahead : List Call) (w : Waiter) (others : List Waiter) :
    Option (Session α) :=
  match w.state with
  | .ready =>
    match s.bridge.currentNumber with
    | .ok n => some ({ s with waiters := others }.finish w.name (.number n))
    | .error _ => none
  | .call c =>
    if isBehind c.request ahead then none
    else (s.host.poll? c.request).map fun (answer, host) =>
      let (s, next) := { s with host, waiters := others }.resume c answer
      match next with
      | .ended outcome => s.finish w.name outcome
      | .waits c => { s with waiters := s.waiters ++ [⟨w.name, .call c⟩] }

/-- Goes on with the first waiter that can go on; `passed` are those that cannot. -/
def wakeFirst? (s : Session α) (passed : List Waiter) : List Waiter → Option (Session α)
  | [] => none
  | w :: rest =>
    let ahead := passed.filterMap fun w =>
      match w.state with
      | .call c => some c
      | .ready => none
    match s.wake? ahead w (passed ++ rest) with
    | some s => some s
    | none => wakeFirst? s (passed ++ [w]) rest

/-- Lets waiters go on until none can, and drops what nothing refers to after each. -/
def settle : Nat → Session α → Session α
  | 0, s => s
  | rounds + 1, s =>
    match s.wakeFirst? [] s.waiters with
    | some s => settle rounds s.collect
    | none => s

end SyscallBridge.Session
