import SyscallBridge.Data.Assoc
import SyscallBridge.Notice
import SyscallBridge.Text.Uppercase

/-!
# Environment variables

Variables by the uppercase form of their key. There is `TMPDIR` from the start. A variable that
is asked for and not there is worth a notice, unless its key is tolerated.
-/

namespace SyscallBridge

structure Environment where
  vars : Assoc String String := {}
  tolerated : List String := []
  deriving Repr

namespace Environment

def tmpKey : String := "TMPDIR"

def create (tmpDir : String) (tolerated : List String) : Environment where
  vars := Assoc.insert {} tmpKey tmpDir
  tolerated := tolerated.map uppercase

def get (e : Environment) (key : String) : Option String × List Notice :=
  let key := uppercase key
  match e.vars.find? key with
  | some value => (some value, [])
  | none => (none, if key ∈ e.tolerated then [] else [.unknownVariable key])

def set (e : Environment) (key value : String) : Environment :=
  { e with vars := e.vars.insert (uppercase key) value }

def unset (e : Environment) (key : String) : Environment :=
  { e with vars := e.vars.erase (uppercase key) }

/-- The variables in the order of their keys. -/
def sorted (e : Environment) : List (String × String) :=
  e.vars.entries.mergeSort fun a b => decide (a.1 ≤ b.1)

/-- Every variable as `KEY=value`, in the order of the keys. -/
def list (e : Environment) : List String := e.sorted.map fun v => v.1 ++ "=" ++ v.2

def tmpDir? (e : Environment) : Option String := e.vars.find? tmpKey

end Environment

end SyscallBridge
