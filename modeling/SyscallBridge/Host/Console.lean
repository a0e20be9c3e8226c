/-!
# The host console

Severities, and the messages a console has been given.
-/

namespace SyscallBridge

inductive LogLevel where
  | tip | log | warning | error
  deriving DecidableEq, Repr, Inhabited

namespace LogLevel

def all : List LogLevel := [tip, log, warning, error]

def code : LogLevel → Nat
  | tip => 0
  | log => 1
  | warning => 2
  | error => 3

def ofCode? (n : Int) : Option LogLevel := all.find? fun l => (l.code : Int) = n

def name : LogLevel → String
  | tip => "tip"
  | log => "log"
  | warning => "warning"
  | error => "error"

def ofName? (s : String) : Option LogLevel := all.find? fun l => l.name = s

end LogLevel

structure LogRecord where
  level : LogLevel
  source : String
  message : String
  deriving DecidableEq, Repr, Inhabited

end SyscallBridge
