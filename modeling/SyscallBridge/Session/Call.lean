import SyscallBridge.Session.Step

/-!
# Calls of a session

A call under way is a system call, a call on a file of the session, a call on a web socket, or a
request made to the host directly. Whichever it is, what it waits for is one request.
-/

namespace SyscallBridge

/-- What becomes of the answer to a request that was made directly. -/
inductive DirectUse where
  /-- Keep what the host has opened under a name. -/
  | keep (id : String)
  | report
  deriving DecidableEq, Repr

/-- What becomes of the answer to a request of a web socket. -/
inductive WebSocketUse where
  | keep (id : String)
  | report (form : MessageForm)
  deriving DecidableEq, Repr

inductive Call where
  | system (p : BridgePending)
  /-- A call on file `file`; an accepted socket is kept under `keep`. -/
  | file (file : Nat) (p : SocketPending) (keep : Option String)
  | webSocket (r : Request) (use : WebSocketUse)
  | direct (r : Request) (use : DirectUse)
  deriving DecidableEq, Repr

namespace Call

abbrev request : Call → Request
  | system p => p.call.request
  | file _ p _ => p.request
  | webSocket r _ => r
  | direct r _ => r

/-- Faults are for the requests of the bridge and its sockets. -/
def canFault : Call → Bool
  | direct .. => false
  | _ => true

/-- The process a call is made of, and the file of that process it works on. -/
def process? : Call → Option (Nat × List Nat)
  | system p => some (p.process, p.call.file?.toList)
  | _ => none

/-- The file of the session that a call works on. -/
def file? : Call → Option Nat
  | file id _ _ => some id
  | _ => none

end Call

/-- What blocks. -/
inductive Waiting where
  | call (c : Call)
  /-- Until something is installed. -/
  | ready
  deriving DecidableEq, Repr

/-- A blocked command, with the name to join it by. -/
structure Waiter where
  name : Option String
  state : Waiting
  deriving DecidableEq, Repr

end SyscallBridge
