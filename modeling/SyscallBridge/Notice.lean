import SyscallBridge.Error.CallError

/-!
# Notices

What a bridge tells whoever watches over it, beside the answers it gives.
-/

namespace SyscallBridge

inductive Severity where
  | warning | error
  deriving DecidableEq, Repr

def Severity.text : Severity → String
  | warning => "WARN"
  | error => "ERROR"

inductive Notice where
  | unknownVariable (key : String)
  | creationFailed
  | initializedTwice
  | fatalCall (e : CallError)
  | fatalEvent (e : CallError)
  deriving DecidableEq, Repr

namespace Notice

def severity : Notice → Severity
  | unknownVariable _ | creationFailed | initializedTwice => .warning
  | fatalCall _ | fatalEvent _ => .error

def message : Notice → String
  | unknownVariable _ => "getenv of unknown variable"
  | creationFailed => "did_create reported failure, destroying instance"
  | initializedTwice => "init called twice"
  | fatalCall _ => "fatal syscall error"
  | fatalEvent _ => "fatal host event"

/-- What a notice adds to its message, by name. -/
def fields : Notice → List (String × String)
  | unknownVariable key => [("key", key)]
  | creationFailed | initializedTwice => []
  | fatalCall e | fatalEvent e => [("err", e.message)]

end Notice

end SyscallBridge
