import SyscallBridge.File.Payload
import SyscallBridge.Host.InProcess.Answer
import SyscallBridge.Process.Syscall
import SyscallBridge.Session.Recorder

/-!
# Commands of a session

A session is driven by commands, one after the other. Most of them name objects by a text: files,
shared contents, host resources and web sockets that earlier commands have made. A fault is set
up in advance for the next request of its kind, and may hold commands that run in the middle of
the call that makes the request.
-/

namespace SyscallBridge

/-- The kinds of requests that a fault can be set up for. -/
inductive RequestKind where
  | resolve | listen | dial | bindPort | dialChannel | accept | read | write | sendTo
  | receiveFrom | sendMessage | receiveMessage | acceptChannel
  deriving DecidableEq, Repr

def Request.kind : Request → RequestKind
  | .resolve .. => .resolve
  | .listen .. => .listen
  | .dial .. => .dial
  | .bindPort _ => .bindPort
  | .dialChannel _ => .dialChannel
  | .accept _ => .accept
  | .read .. => .read
  | .write .. => .write
  | .sendTo .. => .sendTo
  | .receiveFrom .. => .receiveFrom
  | .sendMessage .. => .sendMessage
  | .receiveMessage _ => .receiveMessage
  | .acceptChannel _ => .acceptChannel

/-- How to make a file. -/
inductive FileSpec where
  | unsupported
  | fixed (bytes : Bytes)
  | random (seed : UInt64)
  | console (level : LogLevel) (chunkSize : Nat)
  /-- A handle on a shared content. -/
  | handle (shared : String) (flags : OpenFlags)
  | socket (domain type protocol : Int)
  deriving DecidableEq, Repr

/-- What a received message is wanted as. -/
inductive MessageForm where
  | message | bytes | text
  deriving DecidableEq, Repr

/-- Commands on the table of descriptors. -/
inductive TableCommand where
  | allocate (f : FileSpec)
  | lookup (fd : Nat)
  | hold (fd : Nat) (id : String)
  | release (fd : Nat)
  | dup (fd : Nat)
  | dup2 (fd target : Nat)
  | refCount (fd : Nat)
  | size
  deriving DecidableEq, Repr

/-- Commands on files and shared contents. -/
inductive FileCommand where
  | newShared (id path : String)
  | sharedInfo (id : String)
  | truncateShared (id : String)
  | new (id : String) (f : FileSpec)
  | typeName (id : String)
  | call (id : String) (c : FileCall)
  | write (id : String) (p : Payload) (source : String)
  | level (id : String)
  | socketInfo (id : String)
  /-- A call on a socket, or what is wrong with the address it was to have. -/
  | socketCall (id : String) (c : Except CallError SocketCall)
  | socketAccept (id new : String)

/-- Commands on the file system, the devices and the environment. -/
inductive TreeCommand where
  | reset (knownDirs : List String) (seed : UInt64)
  | resolve (path : String)
  | open_ (path : String) (flags : OpenFlags) (tmpDir id : String)
  | symlink (target path : String)
  | unlink (path : String)
  | readlink (path : String)
  | mkdir (path tmpDir : String)
  | rmdir (path tmpDir : String)
  | stat (path tmpDir : String)
  | resetDevices (seed : UInt64)
  | hasDevice (path : String)
  | deviceStat (path : String)
  | openDevice (path id : String)
  | resetEnvironment (tmpDir : String) (tolerated : List String)
  | getVariable (key : String)
  | setVariable (key value : String)
  | unsetVariable (key : String)
  | listVariables
  | tmpDir
  deriving DecidableEq, Repr

/-- Commands to the host itself. -/
inductive HostCommand where
  | addName (name : String) (ip : Ip)
  | resolve (name : String) (port : UInt16) (hint : AddressHint)
  | log (r : LogRecord)
  | takeLogs
  | live
  | listen (id : String) (protocol : Protocol) (a : NetAddress)
  | accept (id new : String)
  | dial (id : String) (protocol : Protocol) (own : Option NetAddress) (peer : NetAddress)
  | bindPort (id : String) (a : NetAddress)
  /-- Binds a port and drops it again, many times. -/
  | burnPorts (times : Nat) (a : NetAddress)
  | read (id : String) (size : Nat)
  | write (id : String) (data : Bytes)
  | sendTo (id : String) (data : Bytes) (target : NetAddress)
  | receiveFrom (id : String) (size : Nat)
  | close (id : String)
  | serve (id url : String)
  | acceptChannel (id new : String)
  | dialChannel (id url : String)
  | sendMessage (id : String) (m : Message)
  | receiveMessage (id : String)
  | channelUrl (id : String)
  deriving DecidableEq, Repr

/-- Commands on web sockets. -/
inductive WebSocketCommand where
  | dial (id url : String)
  | send (id : String) (m : Message)
  | receive (id : String) (form : MessageForm)
  | close (id : String)
  | info (id : String)
  deriving DecidableEq, Repr

/-- Commands on the bridge and its instance. -/
inductive BridgeCommand where
  | installStub (number : Nat)
  | installProcess
  | launch (recorder : Option Recorder)
  | isInstalled
  | currentNumber
  | waitReady
  | descriptors
  | settings
  | call (c : Syscall)
  | deliver (e : Event)
  | phase
  | takeReceived

/-- Commands on a lifecycle without a bridge. -/
inductive LifecycleCommand where
  | deliver (e : Event)
  | register (recorder : Option Recorder)
  | phase

/-- A command; an `α` is an answer that is known already. A command that blocks may be given a
name to be joined by. -/
inductive Command (α : Type) where
  | known (a : α)
  | bridge (c : BridgeCommand)
  | lifecycle (c : LifecycleCommand)
  | table (c : TableCommand)
  | file (c : FileCommand)
  | tree (c : TreeCommand)
  | host (c : HostCommand)
  | webSocket (c : WebSocketCommand)
  | drop (id : String)
  | join (name : String)
  | failNext (kind : RequestKind) (f : HostFailure)
  | runNext (kind : RequestKind) (commands : List (Option String × Command α))
  | answerNext (addresses : List NetAddress)

namespace Command

variable {α : Type}

mutual

/-- The number of commands, those inside faults included. -/
def count : Command α → Nat
  | runNext _ commands => countAll commands + 1
  | _ => 1

def countAll : List (Option String × Command α) → Nat
  | [] => 0
  | (_, c) :: rest => count c + countAll rest

end

end Command

end SyscallBridge
