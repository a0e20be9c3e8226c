import SyscallBridge.Descriptor.Table
import SyscallBridge.Environment
import SyscallBridge.FileSystem.Tree
import SyscallBridge.Process.Syscall
import SyscallBridge.Settings

/-!
# The process

There is one process. It starts with three descriptors: an input on which everything fails, and
two consoles.
-/

namespace SyscallBridge

/-- The number of the process. -/
def processNumber : Nat := 1234

structure Process where
  settings : Settings
  store : FileStore := {}
  table : DescriptorTable Nat := {}
  tree : FileSystem
  environment : Environment

/-- What a call does when the socket part of it is done. -/
inductive Afterwards where
  /-- Reply as the socket does. -/
  | nothing
  /-- Give the accepted socket a descriptor. -/
  | allocate
  /-- Reply with the descriptor, and release it if the socket could not be connected. -/
  | dialed (fd : Nat)
  deriving DecidableEq, Repr

/-- A system call that waits for the host. -/
inductive ProcessPending where
  | onSocket (file : Nat) (p : SocketPending) (next : Afterwards)
  /-- A name is being looked up, for its own sake or to dial it. -/
  | resolving (network : Network) (name : String) (port : UInt16) (dials : Bool)
  deriving DecidableEq, Repr

namespace ProcessPending

abbrev request : ProcessPending → Request
  | onSocket _ p _ => p.request
  | resolving network name port _ => .resolve name port network.hint

/-- The file that a pending call holds on to. -/
def file? : ProcessPending → Option Nat
  | onSocket file _ _ => some file
  | resolving .. => none

end ProcessPending

namespace Process

abbrev Step := Turn Process Reply ProcessPending

/-- Opens a file at the lowest free descriptor. -/
def allocate (p : Process) (f : OpenFile) : Nat × Process :=
  let (id, store) := p.store.add f
  let (fd, table) := p.table.allocate id
  (fd, { p with store, table })

def console (s : Settings) (level : LogLevel) : OpenFile := .console ⟨level, s.logChunkSize⟩

/-- Seeds the random devices when the settings do not. -/
def defaultSeed : UInt64 := 0

def create (s : Settings) : Process :=
  let p : Process := {
    settings := s
    tree := .create s.knownDirs (s.randomSeed.getD defaultSeed)
    environment := .create s.tmpDir s.toleratedKeys }
  let (_, p) := p.allocate .unsupported
  let (_, p) := p.allocate (console s s.stdoutLevel)
  let (_, p) := p.allocate (console s s.stderrLevel)
  p

/-- The temp directory of the moment: `TMPDIR`, or the configured one. -/
def tmpDir (p : Process) : String := p.environment.tmpDir?.getD p.settings.tmpDir

/-- The host resources of the files with a descriptor, and of the files in `also`. -/
def resources (p : Process) (also : List Nat) : List Resource :=
  p.store.resources (p.table.files ++ also)

end Process

end SyscallBridge
