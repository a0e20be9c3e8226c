import SyscallBridge.Session.Call

/-!
# The state of a session

A session holds a host, a bridge on it, and a bench of objects beside them: a table, a file
system, an environment, a lifecycle, and whatever commands have made under a name. Host resources
live as long as something refers to them: an object, a descriptor, a call under way, or the queue
of a resource that lives itself.
-/

namespace SyscallBridge

/-- What a name stands for. -/
inductive Object where
  | file (id : Nat)
  | shared (content : Nat)
  | listener (l : ListenerHandle)
  | connection (c : ConnectionHandle)
  | port (p : PortHandle)
  | channel (c : ChannelHandle)
  | server (id : Nat)
  | webSocket (w : WebSocket)
  deriving DecidableEq, Repr

namespace Object

def resource? : Object → Option Resource
  | listener l => some l.resource
  | connection c => some c.resource
  | port p => some p.resource
  | channel c => some c.resource
  | server id => some (.server id)
  | webSocket w => some w.channel.resource
  | file _ | shared _ => none

def file? : Object → Option Nat
  | file id => some id
  | _ => none

end Object

/-- What happens to the next request of a kind. -/
inductive Fault (α : Type) where
  | fail (f : HostFailure)
  | run (commands : List (Option String × Command α))

structure Session (α : Type) where
  host : InProcessHost := {}
  bridge : Bridge
  /-- The process of the last installation that was not a stub. -/
  observed : Option Nat := none
  objects : Assoc String Object := {}
  store : FileStore := {}
  table : DescriptorTable Nat := {}
  tree : FileSystem
  environment : Environment
  devices : Devices
  lifecycle : Lifecycle := {}
  received : List Event := []
  faults : List (RequestKind × Fault α) := []
  answers : List (List NetAddress) := []
  /-- Calls that are in the middle of a request while other commands run. -/
  running : List Call := []
  waiters : List Waiter := []
  finished : Assoc String (Outcome α) := {}
  notices : List Notice := []

namespace Session

variable {α : Type}

/-- The seed of the devices that a session starts with. -/
def deviceSeed : UInt64 := 42

def create (s : Settings) : Session α where
  bridge := { settings := s }
  tree := .create [] deviceSeed
  environment := .create "/tmp" []
  devices := .ofSeed deviceSeed

/-! ## Effects -/

def effect (s : Session α) : Effect → Session α
  | .log r => { s with host := s.host.log r }
  | .close r => { s with host := s.host.close r }
  | .notice n => { s with notices := s.notices ++ [n] }

def effects (s : Session α) (l : List Effect) : Session α := l.foldl effect s

def notify (s : Session α) (l : List Notice) : Session α := { s with notices := s.notices ++ l }

/-! ## Objects -/

/-- Gives a name to an object, in place of what had it before. -/
def keep (s : Session α) (id : String) (o : Object) : Session α :=
  { s with objects := s.objects.insert id o }

/-- Adds a file and gives it a name. -/
def keepFile (s : Session α) (id : String) (f : OpenFile) : Session α :=
  let (file, store) := s.store.add f
  { s with store, objects := s.objects.insert id (.file file) }

def file? (s : Session α) (id : String) : Option Nat := (s.objects.find? id).bind Object.file?

def shared? (s : Session α) (id : String) : Option Nat :=
  match s.objects.find? id with
  | some (.shared content) => some content
  | _ => none

def listener? (s : Session α) (id : String) : Option ListenerHandle :=
  match s.objects.find? id with
  | some (.listener l) => some l
  | _ => none

def connection? (s : Session α) (id : String) : Option ConnectionHandle :=
  match s.objects.find? id with
  | some (.connection c) => some c
  | _ => none

def port? (s : Session α) (id : String) : Option PortHandle :=
  match s.objects.find? id with
  | some (.port p) => some p
  | _ => none

def channel? (s : Session α) (id : String) : Option ChannelHandle :=
  match s.objects.find? id with
  | some (.channel c) => some c
  | _ => none

def server? (s : Session α) (id : String) : Option Nat :=
  match s.objects.find? id with
  | some (.server n) => some n
  | _ => none

def webSocket? (s : Session α) (id : String) : Option WebSocket :=
  match s.objects.find? id with
  | some (.webSocket w) => some w
  | _ => none

/-! ## Waiting -/

/-- Blocks a call. A name is that of the last call blocked under it, so others lose it. -/
def block (s : Session α) (name : Option String) (state : Waiting) : Session α :=
  let unnamed (w : Waiter) : Waiter := if w.name = name then { w with name := none } else w
  { s with
    waiters := s.waiters.map unnamed ++ [⟨name, state⟩]
    finished := match name with
      | some name => s.finished.erase name
      | none => s.finished }

/-! ## Lifetimes -/

def waitingCalls (s : Session α) : List Call :=
  s.waiters.filterMap fun w =>
    match w.state with
    | .call c => some c
    | .ready => none

/-- All calls under way. -/
def calls (s : Session α) : List Call := s.running ++ s.waitingCalls

/-- The processes that something still refers to. -/
def liveProcesses (s : Session α) : List Nat :=
  let installed := match s.bridge.installed with
    | some (.process id) => [id]
    | _ => []
  (installed ++ s.observed.toList ++ s.calls.filterMap fun c => c.process?.map Prod.fst).eraseDups

/-- The files of a process that calls under way work on. -/
def heldFiles (s : Session α) (process : Nat) : List Nat :=
  s.calls.flatMap fun c =>
    match c.process? with
    | some (id, files) => if id = process then files else []
    | none => []

def processResources (s : Session α) (id : Nat) : List Resource :=
  match s.bridge.processes.find? id with
  | some p => p.resources (s.heldFiles id)
  | none => []

/-- The host resources that something outside the host refers to. -/
def roots (s : Session α) : List Resource :=
  s.liveProcesses.flatMap s.processResources ++
    s.store.resources (s.table.files ++ s.objects.values.filterMap Object.file? ++
      s.calls.filterMap Call.file?) ++
    s.objects.values.filterMap Object.resource? ++
    s.calls.filterMap fun c => c.request.resource?

/-- Drops the host resources that nothing refers to any more. -/
def collect (s : Session α) : Session α := { s with host := s.host.retain s.roots }

end Session

end SyscallBridge
