import SyscallBridge.Bridge
import SyscallBridge.Session.Command
import SyscallBridge.WebSocket

/-!
# Steps of a session

What a command is answered with.
-/

namespace SyscallBridge

/-- One descriptor: its number, the type of its file, how many share the file, and the state of
the socket if it is one. -/
structure DescriptorRow where
  fd : Nat
  typeName : String
  refs : Nat
  state : Option SocketState
  deriving DecidableEq, Repr

inductive Answer where
  | reply (r : Reply)
  | flag (b : Bool)
  /-- A count, with a flag that says whether it is zero. -/
  | size (n : Nat) (path : Option String)
  | maybeStat (s : Option FileStat)
  | endpoints (own peer : NetAddress)
  | addresses (l : List NetAddress)
  | message (m : Message)
  | bytes (b : Bytes)
  | logs (l : List LogRecord)
  | received (l : List Event)
  | descriptors (rows : List DescriptorRow) (size : Nat) (sameSettings : Bool)
  | settings (s : Settings)
  | phase (p : Phase) (waiting : Nat)
  | socket (protocol : Protocol) (family : Family) (state : SocketState)
  | webSocket (w : WebSocket)

inductive Outcome (α : Type) where
  | known (a : α)
  | ok (a : Answer)
  | failed (e : CallError)
  | hostFailed (f : HostFailure)
  | panicked (text : String)
  | blocked

/-- What an answer on an instance adds. -/
inductive Extra where
  | built (b : Bool)
  | event (name : String)
  | phase (p : Phase)
  | waiting (n : Nat)
  deriving DecidableEq, Repr

/-- What one command is answered with. -/
structure Answered (α : Type) where
  outcome : Outcome α
  extras : List Extra := []

/-- The answer to a command of a session, together with what came up before it was there. -/
structure Step (α : Type) extends Answered α where
  /-- The answers to the commands that faults have run in the middle of this one, in the order in
  which they ended. -/
  during : List (Answered α) := []
  /-- The notices of this command and of those in the middle of it. -/
  notices : List Notice := []

namespace Outcome

variable {α : Type}

def done : Outcome α := ok (.reply .done)

def text (s : String) : Outcome α := ok (.reply (.text s))

def number (n : Nat) : Outcome α := ok (.reply (.number n))

def address (a : NetAddress) : Outcome α := ok (.reply (.address (.ofNet a)))

def ofReply : Except CallError Reply → Outcome α
  | .ok r => ok (.reply r)
  | .error e => failed e

def ofEnding {β : Type} (answer : β → Answer) : Ending β → Outcome α
  | .returns b => ok (answer b)
  | .fails e => failed e
  | .panics text => panicked text

end Outcome

end SyscallBridge
