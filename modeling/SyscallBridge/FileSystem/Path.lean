/-!
# Paths

A path counts with and without one slash at its end as the same, except for the root.
-/

namespace SyscallBridge.Path

def trimChars (cs : List Char) : List Char :=
  if 1 < cs.length ∧ cs.getLast? = some '/' then cs.dropLast else cs

/-- The path without a slash at its end. -/
def trim (path : String) : String := String.ofList (trimChars path.toList)

def dropPrefix? : List Char → List Char → Option (List Char)
  | [], cs => some cs
  | p :: ps, c :: cs => if p = c then dropPrefix? ps cs else none
  | _ :: _, [] => none

/-- There is a slash and something behind it. -/
def isEntry : List Char → Bool
  | '/' :: _ :: _ => true
  | _ => false

/-- The path lies inside the directory and is not the directory. -/
def isUnder (path directory : String) : Bool :=
  match trimChars directory.toList with
  | ['/'] => isEntry path.toList
  | d => ((dropPrefix? d path.toList).map isEntry).getD false

end SyscallBridge.Path
