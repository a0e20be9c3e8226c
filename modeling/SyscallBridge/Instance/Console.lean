import SyscallBridge.Host.Console

/-!
# What an instance logs

An instance logs under its own name, which is the empty source, or under a source that it names.
Text that is printed, and text that warns or reports an error, has a severity of its own.
-/

namespace SyscallBridge.Instance

def ownSource : String := ""

def logged (level : LogLevel) (message : String) : LogRecord := ⟨level, ownSource, message⟩

def printed : String → LogRecord := logged .log

def warned : String → LogRecord := logged .warning

def reported : String → LogRecord := logged .error

/-- How a log shows an instance: nothing of what it holds. -/
def summary : String := "Instance \x7b .. \x7d"

end SyscallBridge.Instance
