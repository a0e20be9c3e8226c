import SyscallBridge.Session.Bench

/-!
# Running a session

`run` runs commands one after the other, each a step of its own. When a fault says so, commands run
in the middle of a step; how deep that goes is bounded by the number of all commands, since each
fault is used once. What they are answered with, and every notice meanwhile, is part of that step.
-/

namespace SyscallBridge.Session

variable {α : Type}

/-! ## The bridge -/

/-- The descriptors below this number are shown. -/
def shownDescriptors : Nat := 1100

def descriptorRow (p : Process) (fd : Nat) : Option DescriptorRow :=
  match p.table.lookup fd with
  | .ok id =>
    let f := p.store.file id
    some ⟨fd, f.typeName, p.table.refCount fd, f.socket?.map Socket.state⟩
  | .error _ => none

def descriptors (s : Session α) : Outcome α :=
  match s.observed.bind s.bridge.processes.find? with
  | some p =>
    let shown := p.table.descriptors.filter (· < shownDescriptors)
    .ok (.descriptors (shown.filterMap (descriptorRow p)) p.table.size
      (p.settings = s.bridge.settings))
  | none => missing

/-- Waits until something is installed. -/
def waitReady (s : Session α) (name : Option String) : Session α × Outcome α :=
  match s.bridge.currentNumber with
  | .ok n => (s, .number n)
  | .error _ => (s.block name .ready, .blocked)

def launch (s : Session α) (r : Option Recorder) : Session α × Outcome α × List Extra :=
  let h := recorderHandlers r
  let (bridge, ending, notices) := s.bridge.launch h
  let s' := { s with bridge }.notify notices
  let s' := if s.bridge.initialized then s'
    else s'.journal (some h) s.bridge.lifecycle bridge.lifecycle
  (s', .ofEnding (fun _ => .reply .done) ending,
    [.built (!s.bridge.initialized), .phase bridge.lifecycle.phase])

def deliver (s : Session α) (e : Event) : Session α × Outcome α × List Extra :=
  let (bridge, ending, notices) := s.bridge.deliver e
  let s' := { s with bridge }.notify notices
  let s' := s'.journal s.bridge.lifecycle.handlers s.bridge.lifecycle bridge.lifecycle
  (s', .ofEnding .flag ending, .event e.name :: lifecycleExtras bridge.lifecycle)

/-! ## The host -/

/-- Binds a port and drops it again; yields the address of the last time. -/
def burnPorts (a : NetAddress) : Nat → InProcessHost → Option NetAddress →
    Option (Except HostFailure NetAddress × InProcessHost)
  | 0, h, last => some (.ok (last.getD a), h)
  | times + 1, h, _ =>
    match h.bindPort a with
    | none => none
    | some (.error f, h) => some (.error f, h)
    | some (.ok p, h) => burnPorts a times (h.drop p.resource) (some p.own)

def directCall (s : Session α) (r : Request) (use : DirectUse) : Session α × After α :=
  (s, .waits (.direct r use))

/-- A request made of a named object. -/
def directOf {β : Type} (s : Session α) (o : Option β) (request : β → Request) (use : DirectUse) :
    Session α × After α :=
  match o with
  | some b => s.directCall (request b) use
  | none => (s, .ended missing)

/-- Closes the resource of a name, and keeps the name. -/
def closeNamed (s : Session α) (id : String) : Session α :=
  match (s.objects.find? id).bind Object.resource? with
  | some r => { s with host := s.host.close r }
  | none => s

def serve (s : Session α) (id url : String) : Session α × Outcome α :=
  match s.host.serve url with
  | (.ok server, host) => ({ s with host }.keep id (.server server), .text url)
  | (.error f, host) => ({ s with host }, .hostFailed f)

def startHost (s : Session α) : HostCommand → Session α × After α
  | .addName name ip => ({ s with host := s.host.addName name ip }, .ended .done)
  | .resolve name port hint => s.directCall (.resolve name port hint) .report
  | .log r => ({ s with host := s.host.log r }, .ended .done)
  | .takeLogs =>
    let (logs, host) := s.host.takeLogs
    ({ s with host }, .ended (.ok (.logs logs)))
  | .live => (s, .ended (.number s.host.live.length))
  | .listen id protocol a => s.directCall (.listen protocol a) (.keep id)
  | .accept id new => s.directOf (s.listener? id) .accept (.keep new)
  | .dial id protocol own peer => s.directCall (.dial protocol own peer) (.keep id)
  | .bindPort id a => s.directCall (.bindPort a) (.keep id)
  | .burnPorts times a =>
    match burnPorts a times s.host none with
    | some (.ok last, host) => ({ s with host }, .ended (.address last))
    | some (.error f, host) => ({ s with host }, .ended (.hostFailed f))
    | none => (s, .ended .blocked)
  | .read id size => s.directOf (s.connection? id) (.read · size) .report
  | .write id data => s.directOf (s.connection? id) (.write · data) .report
  | .sendTo id data target => s.directOf (s.port? id) (.sendTo · data target) .report
  | .receiveFrom id size => s.directOf (s.port? id) (.receiveFrom · size) .report
  | .close id => (s.closeNamed id, .ended .done)
  | .serve id url =>
    let (s, o) := s.serve id url
    (s, .ended o)
  | .acceptChannel id new => s.directOf (s.server? id) .acceptChannel (.keep new)
  | .dialChannel id url => s.directCall (.dialChannel url) (.keep id)
  | .sendMessage id m => s.directOf (s.channel? id) (.sendMessage · m) .report
  | .receiveMessage id => s.directOf (s.channel? id) .receiveMessage .report
  | .channelUrl id => (s, .ended (((s.channel? id).map fun c => .text c.url).getD missing))

/-! ## Web sockets -/

/-- A request of a web socket, unless the socket refuses it. -/
def webSocketCall (s : Session α) (r : Except CallError Request) (use : WebSocketUse) :
    Session α × After α :=
  match r with
  | .ok r => (s, .waits (.webSocket r use))
  | .error e => (s, .ended (.failed e))

/-- A command on the web socket of a name. -/
def onWebSocket (s : Session α) (id : String) (next : WebSocket → Session α × After α) :
    Session α × After α :=
  match s.webSocket? id with
  | some w => next w
  | none => (s, .ended missing)

def startWebSocket (s : Session α) : WebSocketCommand → Session α × After α
  | .dial id url => s.webSocketCall (WebSocket.dial url) (.keep id)
  | .send id m => s.onWebSocket id fun w => s.webSocketCall (w.send m) (.report .message)
  | .receive id form => s.onWebSocket id fun w => s.webSocketCall w.receive (.report form)
  | .close id => s.onWebSocket id fun w =>
    let (w, effects) := w.close
    ((s.keep id (.webSocket w)).effects effects, .ended .done)
  | .info id => s.onWebSocket id fun w => (s, .ended (.ok (.webSocket w)))

/-! ## Commands -/

def ended (r : Session α × Outcome α) : Session α × Step α := (r.1, { outcome := r.2 })

/-- A panic leaves nothing of an answer but its text. -/
def extrasFor : Outcome α → List Extra → List Extra
  | .panicked _, _ => []
  | _, extras => extras

def endedWith (r : Session α × Outcome α × List Extra) : Session α × Step α :=
  (r.1, { outcome := r.2.1, extras := extrasFor r.2.1 r.2.2 })

def driven (run : Runner α) (name : Option String) (r : Session α × After α) :
    Session α × Step α :=
  let (during, outcome, s) := driveCall run name r.1 r.2
  (s, { outcome, during })

def performBridge (run : Runner α) (name : Option String) (s : Session α) :
    BridgeCommand → Session α × Step α
  | .installStub number =>
    ended ({ s with bridge := s.bridge.installStub number }, .ok (.flag true))
  | .installProcess =>
    let (id, bridge) := s.bridge.installProcess
    ended ({ s with bridge, observed := some id }, .ok (.flag true))
  | .launch r => endedWith (s.launch r)
  | .isInstalled => ended (s, .ok (.flag s.bridge.installed.isSome))
  | .currentNumber => ended (s, .ofReply (s.bridge.currentNumber.map .number))
  | .waitReady => ended (s.waitReady name)
  | .descriptors => ended (s, s.descriptors)
  | .settings => ended (s, .ok (.settings s.bridge.settings))
  | .call c => driven run name (s.systemTurn (s.bridge.start c))
  | .deliver e => endedWith (s.deliver e)
  | .phase => ended (s, .ok (.phase s.bridge.lifecycle.phase s.bridge.lifecycle.waiting.length))
  | .takeReceived => ended ({ s with received := [] }, .ok (.received s.received))

/-- The end of a call that was blocked, if it has come. -/
def join (s : Session α) (name : String) : Session α × Outcome α :=
  match s.finished.find? name with
  | some outcome => ({ s with finished := s.finished.erase name }, outcome)
  | none => (s, .blocked)

def perform (run : Runner α) (name : Option String) (s : Session α) :
    Command α → Session α × Step α
  | .known a => ended (s, .known a)
  | .bridge c => performBridge run name s c
  | .lifecycle c => endedWith (s.runLifecycle c)
  | .table c => ended (s.runTable c)
  | .file c => driven run name (s.startFileCommand c)
  | .tree c => ended (s.runTree c)
  | .host c => driven run name (s.startHost c)
  | .webSocket c => driven run name (s.startWebSocket c)
  | .drop id =>
    ended ({ s with objects := s.objects.erase id }, .ok (.flag (s.objects.contains id)))
  | .join name => ended (s.join name)
  | .failNext kind f => ended ({ s with faults := s.faults ++ [(kind, .fail f)] }, .done)
  | .runNext kind commands =>
    ended ({ s with faults := s.faults ++ [(kind, .run commands)] }, .done)
  | .answerNext addresses => ended ({ s with answers := s.answers ++ [addresses] }, .done)

/-- Nothing can have lost its last reference: a dial that succeeds takes none away, unless commands
have run in the middle of it. -/
def dropsNothing (c : Command α) (step : Step α) : Bool :=
  match c, step.outcome with
  | .bridge (.call (.dial ..)), .ok _ => step.during.isEmpty
  | _, _ => false

/-- Runs one command, drops what nothing refers to any more, and lets what was waiting go on. The
notices stay with the session. -/
def runOne (run : Runner α) (name : Option String) (c : Command α) (s : Session α) :
    Step α × Session α :=
  let (s, step) := perform run name s c
  let s := if dropsNothing c step then s else s.collect
  (step, s.settle s.waiters.length)

/-- Runs one command as a step of its own, which has all notices since the step before. -/
def runStep (run : Runner α) (name : Option String) (c : Command α) (s : Session α) :
    Step α × Session α :=
  let (step, s) := runOne run name c s
  ({ step with notices := s.notices }, { s with notices := [] })

/-- Runs commands one after the other, each by `one`; yields all their answers. -/
def runEach {β : Type}
    (one : Option String → Command α → Session α → List β × Session α) :
    List (Option String × Command α) → Session α → List β × Session α
  | [], s => ([], s)
  | (name, c) :: rest, s =>
    let (answers, s) := one name c s
    let (more, s) := runEach one rest s
    (answers ++ more, s)

/-- Runs commands in the middle of a step; those inside them nest to the given depth. -/
def runNested : Nat → Runner α
  | 0 => fun _ s => ([], s)
  | depth + 1 => runEach fun name c s =>
    let (step, s) := runOne (runNested depth) name c s
    (step.during ++ [step.toAnswered], s)

def run (commands : List (Option String × Command α)) : Session α → List (Step α) × Session α :=
  let nested := runNested (Command.countAll commands)
  runEach (fun name c s =>
    let (step, s) := runStep nested name c s
    ([step], s)) commands

end SyscallBridge.Session
