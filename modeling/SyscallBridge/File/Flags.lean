/-!
# Open flags
-/

namespace SyscallBridge

structure OpenFlags where
  read : Bool := false
  write : Bool := false
  create : Bool := false
  truncate : Bool := false
  append : Bool := false
  deriving DecidableEq, Repr, Inhabited

namespace OpenFlags

def readOnly : OpenFlags := { read := true }

/-- Starts over with an empty file. -/
def writeOnly : OpenFlags := { write := true, create := true, truncate := true }

def readWrite : OpenFlags := { read := true, write := true }

def appending : OpenFlags := { write := true, create := true, append := true }

/-- Bit `place` of a number in two's complement. -/
def bit (n : Int) (place : Nat) : Bool := (n >>> place) % 2 = 1

/-- Flags as programs write them: the two low bits are the access mode. -/
def ofBits (n : Int) : OpenFlags where
  read := n % 4 = 0 || n % 4 = 2
  write := n % 4 = 1 || n % 4 = 2
  create := bit n 6
  truncate := bit n 9
  append := bit n 10

end OpenFlags

end SyscallBridge
