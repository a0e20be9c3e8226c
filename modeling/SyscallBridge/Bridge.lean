import SyscallBridge.Instance.Lifecycle
import SyscallBridge.Process.Call

/-!
# The bridge

A bridge ties an instance to whatever answers system calls at the moment: a process, or a stub
that knows a process number and nothing else. What was installed before stays as long as a call
is still on its way through it, so processes are kept by number.
-/

namespace SyscallBridge

inductive Installation where
  | process (id : Nat)
  /-- Answers `getpid` and no other call. -/
  | stub (number : Nat)
  deriving DecidableEq, Repr

structure Bridge where
  settings : Settings
  processes : Assoc Nat Process := {}
  nextProcess : Nat := 0
  installed : Option Installation := none
  lifecycle : Lifecycle := {}
  initialized : Bool := false

/-- A call that waits for the host, and the process it was made of. -/
structure BridgePending where
  process : Nat
  call : ProcessPending
  deriving DecidableEq, Repr

namespace Bridge

abbrev Step := Turn Bridge Reply BridgePending

/-! ## Installing -/

/-- Installs a new process. -/
def installProcess (b : Bridge) : Nat × Bridge :=
  (b.nextProcess, { b with
    processes := b.processes.insert b.nextProcess (.create b.settings)
    nextProcess := b.nextProcess + 1
    installed := some (.process b.nextProcess) })

def installStub (b : Bridge) (number : Nat) : Bridge := { b with installed := some (.stub number) }

/-- The process number that the installed side gives. -/
def currentNumber (b : Bridge) : Except CallError Nat :=
  match b.installed with
  | none => .error .notInstalled
  | some (.process _) => .ok processNumber
  | some (.stub number) => .ok number

/-! ## System calls -/

/-- A turn of a process as a turn of its bridge. -/
def processTurn (b : Bridge) (id : Nat) (t : Process.Step) : Step :=
  t.map (fun p => { b with processes := b.processes.insert id p }) (·) (⟨id, ·⟩)

def start (b : Bridge) (c : Syscall) : Step :=
  match b.installed with
  | none => .fail b .notInstalled
  | some (.stub number) =>
    if c = .getpid then .ok b (.number number) else .fail b (.unimplemented c.name)
  | some (.process id) =>
    match b.processes.find? id with
    | some p => b.processTurn id (p.start c)
    | none => .fail b .notInstalled

def resume (b : Bridge) (q : BridgePending) (answer : Except HostFailure q.call.request.Answer) :
    Step :=
  match b.processes.find? q.process with
  | some p => b.processTurn q.process (p.resume q.call answer)
  | none => .fail b .notInstalled

/-- The end of a call: a fatal error is worth a notice, and ends the program where the settings
ask for that. -/
def conclude {α : Type} (b : Bridge) (result : Except CallError α) : Ending α × List Notice :=
  match result with
  | .ok a => (.returns a, [])
  | .error e =>
    if e.isFatal then
      if b.settings.abortOnFatal then
        (.panics ("fatal syscall error: " ++ e.message), [.fatalCall e])
      else (.fails e, [.fatalCall e])
    else (.fails e, [])

/-! ## The instance -/

/-- Starts the program: installs a process and registers the handlers. That happens once. -/
def launch (b : Bridge) (h : Handlers) : Bridge × Ending Unit × List Notice :=
  if b.initialized then
    (b, .fails (.invalidState "handlers already registered"), [.initializedTwice])
  else
    let (_, b) := { b with initialized := true }.installProcess
    let d := b.lifecycle.register h
    ({ b with lifecycle := d.state }, d.ending, d.notices)

/-- Delivers an event of the host. -/
def deliver (b : Bridge) (e : Event) : Bridge × Ending Bool × List Notice :=
  let d := b.lifecycle.deliver e
  let b := { b with lifecycle := d.state }
  match d.ending with
  | .fails err =>
    if err.isFatal then
      let notices := d.notices ++ [.fatalEvent err]
      if b.settings.abortOnFatal then (b, .panics ("fatal host event: " ++ err.message), notices)
      else (b, .fails err, notices)
    else (b, .fails err, d.notices)
  | ending => (b, ending, d.notices)

end Bridge

end SyscallBridge
