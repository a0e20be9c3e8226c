import SyscallBridge.Error.HostFailure

/-!
# Failed calls

What can go wrong in a system call, with its wording, its broad kind and its error number. A
fatal error is a misuse nobody is expected to recover from.
-/

namespace SyscallBridge

inductive CallError where
  | badDescriptor (fd : Nat)
  | notFound (path : String)
  | alreadyExists (path : String)
  | invalidState (reason : String)
  | unsupported (call : String)
  | deadlineUnsupported
  | protocolNotSupported
  | socketTypeNotSupported
  | notOpenFor (access : String)
  | notSocket (fd : Nat)
  | notSymlink (path : String)
  | malformedAddress (text : String)
  | invalidArgument (reason : String)
  | settings (reason : String)
  | endOfStream
  | host (failure : HostFailure)
  | notInstalled
  | unimplemented (call : String)
  | symlinkCycle (path : String)
  | duplicateInstance
  deriving DecidableEq, Repr, Inhabited

inductive ErrorKind where
  | notFound | alreadyExists | invalidState | unsupported | malformedInput | host | endOfStream
  | fatal
  deriving DecidableEq, Repr

/-- Error numbers as programs know them. -/
structure Errno where
  number : Int
  deriving DecidableEq, Repr

namespace Errno

def noEntry : Errno := ⟨2⟩
def inputOutput : Errno := ⟨5⟩
def badDescriptor : Errno := ⟨9⟩
def tryAgain : Errno := ⟨11⟩
def noMemory : Errno := ⟨12⟩
def accessDenied : Errno := ⟨13⟩
def exists_ : Errno := ⟨17⟩
def invalid : Errno := ⟨22⟩
def noSystemCall : Errno := ⟨38⟩
def linkLoop : Errno := ⟨40⟩
def notSocket : Errno := ⟨88⟩
def messageSize : Errno := ⟨90⟩
def protocolNotSupported : Errno := ⟨93⟩
def socketTypeNotSupported : Errno := ⟨94⟩
def notSupported : Errno := ⟨95⟩
def addressInUse : Errno := ⟨98⟩
def addressNotAvailable : Errno := ⟨99⟩
def networkDown : Errno := ⟨100⟩
def connectionAborted : Errno := ⟨103⟩
def connectionReset : Errno := ⟨104⟩
def notConnected : Errno := ⟨107⟩
def timedOut : Errno := ⟨110⟩
def connectionRefused : Errno := ⟨111⟩
def hostUnreachable : Errno := ⟨113⟩

end Errno

def HostFailure.errno : HostFailure → Errno
  | badArgument => .invalid
  | noAccess => .accessDenied
  | noMemory => .noMemory
  | notSupported | noInterface => .notSupported
  | fileNotFound => .noEntry
  | fileExists => .exists_
  | timedOut | connectionTimedOut => .timedOut
  | connectionReset => .connectionReset
  | connectionRefused => .connectionRefused
  | connectionAborted => .connectionAborted
  | connectionFailed => .notConnected
  | addressInvalid => .addressNotAvailable
  | addressUnreachable => .hostUnreachable
  | addressInUse => .addressInUse
  | messageTooBig => .messageSize
  | socketsUnavailable => .networkDown
  | _ => .inputOutput

namespace CallError

/-- A host failure as a call reports it: an exchange that ended in good order is end of stream. -/
def ofHost (f : HostFailure) : CallError := if f.isEndOfStream then endOfStream else host f

def message : CallError → String
  | badDescriptor fd => "bad file descriptor " ++ toString fd
  | notFound path => path ++ ": no such file or directory"
  | alreadyExists path => path ++ ": file exists"
  | invalidState reason => "invalid state: " ++ reason
  | unsupported call => call ++ ": operation not supported"
  | deadlineUnsupported => "deadlines not supported"
  | protocolNotSupported => "protocol not supported"
  | socketTypeNotSupported => "socket type not supported"
  | notOpenFor access => "descriptor not open for " ++ access
  | notSocket fd => "descriptor " ++ toString fd ++ " is not a socket"
  | notSymlink path => path ++ " is not a symlink"
  | malformedAddress text => "malformed address: " ++ text
  | invalidArgument reason => "invalid argument: " ++ reason
  | settings reason => "invalid configuration: " ++ reason
  | endOfStream => "end of stream"
  | host f => "host error: " ++ f.message
  | notInstalled => "no syscall implementation installed"
  | unimplemented call => call ++ "() not implemented"
  | symlinkCycle path => "infinite loop in symlink " ++ path
  | duplicateInstance => "only one instance may be created"

def kind : CallError → ErrorKind
  | badDescriptor _ | notFound _ => .notFound
  | alreadyExists _ => .alreadyExists
  | invalidState _ | notOpenFor _ | notSocket _ | notSymlink _ | notInstalled => .invalidState
  | unsupported _ | deadlineUnsupported | protocolNotSupported | socketTypeNotSupported =>
    .unsupported
  | malformedAddress _ | invalidArgument _ | settings _ => .malformedInput
  | endOfStream => .endOfStream
  | host _ => .host
  | unimplemented _ | symlinkCycle _ | duplicateInstance => .fatal

def isFatal (e : CallError) : Bool := e.kind = .fatal

def errno : CallError → Errno
  | badDescriptor _ | notOpenFor _ => .badDescriptor
  | notFound _ => .noEntry
  | alreadyExists _ => .exists_
  | invalidState _ => .invalid
  | unsupported _ | unimplemented _ => .noSystemCall
  | deadlineUnsupported => .notSupported
  | protocolNotSupported => .protocolNotSupported
  | socketTypeNotSupported => .socketTypeNotSupported
  | notSocket _ => .notSocket
  | notSymlink _ | malformedAddress _ | invalidArgument _ | settings _ => .invalid
  | endOfStream => .connectionAborted
  | notInstalled => .tryAgain
  | symlinkCycle _ => .linkLoop
  | duplicateInstance => .invalid
  | host f => f.errno

end CallError

/-- How input and output libraries class an error. -/
inductive StreamErrorKind where
  | notFound | alreadyExists | invalidInput | unsupported | unexpectedEnd | other
  deriving DecidableEq, Repr

def ErrorKind.streamKind : ErrorKind → StreamErrorKind
  | notFound => .notFound
  | alreadyExists => .alreadyExists
  | invalidState | malformedInput => .invalidInput
  | unsupported => .unsupported
  | endOfStream => .unexpectedEnd
  | host | fatal => .other

end SyscallBridge
