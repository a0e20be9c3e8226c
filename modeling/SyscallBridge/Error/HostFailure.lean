/-!
# Host failures

The host reports an outcome as a signed 32-bit number: zero and above is a count, below zero a
failure. Known failures have a fixed number each; any other negative number is kept as it is.
A host without sockets shares its number with an operation that is not supported.
-/

namespace SyscallBridge

inductive HostFailure where
  | failed | aborted | badArgument | badResource | noInterface | noAccess | noMemory | noSpace
  | noQuota | inProgress | notSupported | blocksMainThread
  | fileNotFound | fileExists | fileTooBig | fileChanged | notAFile
  | timedOut | userCancel | noUserGesture | contextLost | noMessageLoop | wrongThread
  | connectionClosed | connectionReset | connectionRefused | connectionAborted | connectionFailed
  | connectionTimedOut | addressInvalid | addressUnreachable | addressInUse | messageTooBig
  | nameNotResolved
  | unknown (code : Int)
  | socketsUnavailable
  deriving DecidableEq, Repr, Inhabited

namespace HostFailure

def table : List (Int × HostFailure) := [
  (-2, failed), (-3, aborted), (-4, badArgument), (-5, badResource), (-6, noInterface),
  (-7, noAccess), (-8, noMemory), (-9, noSpace), (-10, noQuota), (-11, inProgress),
  (-12, notSupported), (-13, blocksMainThread), (-20, fileNotFound), (-21, fileExists),
  (-22, fileTooBig), (-23, fileChanged), (-24, notAFile), (-30, timedOut), (-40, userCancel),
  (-41, noUserGesture), (-50, contextLost), (-51, noMessageLoop), (-52, wrongThread),
  (-100, connectionClosed), (-101, connectionReset), (-102, connectionRefused),
  (-103, connectionAborted), (-104, connectionFailed), (-105, connectionTimedOut),
  (-106, addressInvalid), (-107, addressUnreachable), (-108, addressInUse),
  (-109, messageTooBig), (-110, nameNotResolved)]

/-- The failure a number stands for; a number that is not negative is no failure. -/
def ofCode? (code : Int) : Option HostFailure :=
  if 0 ≤ code then none
  else some (((table.find? fun e => e.1 = code).map Prod.snd).getD (unknown code))

def code : HostFailure → Int
  | unknown code => code
  | socketsUnavailable => -12
  | f => ((table.find? fun e => e.2 = f).map Prod.fst).getD (-2)

/-- A completion number as a count or a failure. -/
def check (code : Int) : Except HostFailure Nat :=
  match ofCode? code with
  | some f => .error f
  | none => .ok code.toNat

/-- The other side, or this one, ended the exchange in good order. -/
def isEndOfStream : HostFailure → Bool
  | aborted | connectionClosed => true
  | _ => false

def message : HostFailure → String
  | failed => "generic failure"
  | aborted => "aborted"
  | badArgument => "bad argument"
  | badResource => "bad resource"
  | noInterface => "no interface"
  | noAccess => "no access"
  | noMemory => "no memory"
  | noSpace => "no space"
  | noQuota => "no quota"
  | inProgress => "in progress"
  | notSupported => "not supported"
  | blocksMainThread => "blocks main thread"
  | fileNotFound => "file not found"
  | fileExists => "file exists"
  | fileTooBig => "file too big"
  | fileChanged => "file changed"
  | notAFile => "not a file"
  | timedOut => "timed out"
  | userCancel => "user cancel"
  | noUserGesture => "no user gesture"
  | contextLost => "context lost"
  | noMessageLoop => "no message loop"
  | wrongThread => "wrong thread"
  | connectionClosed => "connection closed"
  | connectionReset => "connection reset"
  | connectionRefused => "connection refused"
  | connectionAborted => "connection aborted"
  | connectionFailed => "connection failed"
  | connectionTimedOut => "connection timed out"
  | addressInvalid => "address invalid"
  | addressUnreachable => "address unreachable"
  | addressInUse => "address in use"
  | messageTooBig => "message too big"
  | nameNotResolved => "name not resolved"
  | unknown code => "unknown ppapi error " ++ toString code
  | socketsUnavailable => "host provides no socket access"

end HostFailure

end SyscallBridge
