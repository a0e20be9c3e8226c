import SyscallBridge.Instance.Lifecycle

/-!
# Recording handlers

Handlers with fixed verdicts, that may panic on one kind of event.
-/

namespace SyscallBridge

structure Recorder where
  createOk : Bool := true
  load : Bool := true
  input : Bool := true
  /-- The name of the event to panic on. -/
  panicOn : Option String := none
  deriving DecidableEq, Repr

namespace Recorder

/-- How a record names an event. -/
def eventName : Event → String
  | .create _ => "create"
  | .destroy => "destroy"
  | .view _ => "view"
  | .focus _ => "focus"
  | .documentLoad _ => "load"
  | .input _ => "input"
  | .contextLost => "context_lost"
  | .message _ => "message"
  | .mouseLockLost => "mouse_lock_lost"

def respond (r : Recorder) (e : Event) : Verdict :=
  if r.panicOn = some (eventName e) then .panics ("handler panic in " ++ eventName e)
  else match e with
    | .create _ => .answers r.createOk
    | .documentLoad _ => .answers r.load
    | .input _ => .answers r.input
    | _ => .answers true

def handlers (r : Recorder) : Handlers where
  respond _ e := r.respond e
  journal := true

end Recorder

end SyscallBridge
