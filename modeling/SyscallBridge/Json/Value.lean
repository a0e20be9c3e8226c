import SyscallBridge.Json.Reader

/-!
# JSON values

A value is a tree with everything in it decoded. Objects keep their fields in order, repeated
keys included; what a repeated key means is for the reader of the object to say.
-/

namespace SyscallBridge

inductive Json where
  | null
  | bool (b : Bool)
  | number (n : Json.Number)
  | string (s : String)
  | array (items : List Json)
  | object (fields : List (String × Json))
  deriving Inhabited

namespace Json

mutual

/-- Decodes a tree in which arrays and objects are nested less than `depth` deep. -/
def ofTree? (depth : Nat) : Tree → Option Json
  | .null => some .null
  | .bool b => some (.bool b)
  | .number n => n.value?.map .number
  | .string s => (decodeString? s).map .string
  | .array items => if depth ≤ 1 then none else (ofItems? (depth - 1) items).map .array
  | .object fields => if depth ≤ 1 then none else (ofFields? (depth - 1) fields).map .object

def ofItems? (depth : Nat) : List Tree → Option (List Json)
  | [] => some []
  | t :: ts => do return (← ofTree? depth t) :: (← ofItems? depth ts)

def ofFields? (depth : Nat) : List (List StringPart × Tree) → Option (List (String × Json))
  | [] => some []
  | (k, t) :: fs => do return (← decodeString? k, ← ofTree? depth t) :: (← ofFields? depth fs)

end

/-- Nesting this deep is refused. -/
def depthLimit : Nat := 128

def parse? (text : String) : Option Json := read? text >>= ofTree? depthLimit

end Json

/-- The value of a key, the first when it is repeated. -/
def field? {α : Type} (fields : List (String × α)) (key : String) : Option α :=
  (fields.find? fun f => f.1 = key).map Prod.snd

/-- The value of a key, the last when it is repeated. -/
def lastField? {α : Type} (fields : List (String × α)) (key : String) : Option α :=
  field? fields.reverse key

/-- None of `keys` is given twice. -/
def distinctKeys {α : Type} (keys : List String) (fields : List (String × α)) : Bool :=
  keys.all fun key => (fields.filter fun f => f.1 = key).length ≤ 1

end SyscallBridge
