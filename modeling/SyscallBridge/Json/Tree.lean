import SyscallBridge.Json.Number

/-!
# JSON texts as written

A tree holds a JSON text with its strings and numerals not yet decoded, so that a part nobody
asks for is never refused for what it would decode to.
-/

namespace SyscallBridge.Json

/-- A character of a string, or a UTF-16 unit written as an escape. -/
inductive StringPart where
  | char (c : Char)
  | unit (n : Nat)
  deriving DecidableEq, Repr

inductive Tree where
  | null
  | bool (b : Bool)
  | number (n : Numeral)
  | string (s : List StringPart)
  | array (items : List Tree)
  | object (fields : List (List StringPart × Tree))
  deriving Inhabited

/-- Decodes a string; escaped surrogates must come in pairs. -/
def decodeParts : List StringPart → Option (List Char)
  | [] => some []
  | .char c :: rest => (decodeParts rest).map (c :: ·)
  | [.unit n] => if 0xD800 ≤ n ∧ n ≤ 0xDFFF then none else some [Char.ofNat n]
  | .unit n :: .unit m :: rest =>
    if 0xD800 ≤ n ∧ n ≤ 0xDBFF then
      if 0xDC00 ≤ m ∧ m ≤ 0xDFFF then
        (decodeParts rest).map (Char.ofNat (0x10000 + (n - 0xD800) * 0x400 + (m - 0xDC00)) :: ·)
      else none
    else if 0xDC00 ≤ n ∧ n ≤ 0xDFFF then none
    else (decodeParts (.unit m :: rest)).map (Char.ofNat n :: ·)
  | .unit n :: .char c :: rest =>
    if 0xD800 ≤ n ∧ n ≤ 0xDFFF then none
    else (decodeParts rest).map (Char.ofNat n :: c :: ·)

def decodeString? (s : List StringPart) : Option String := (decodeParts s).map String.ofList

end SyscallBridge.Json
