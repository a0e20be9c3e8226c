import SyscallBridge.Json.Tree
import SyscallBridge.Text.Hex

/-!
# Reading JSON

The grammar: one value, with blanks around it and nothing after it. No comma may trail, no zero
may lead a numeral, and no control character may stand in a string.
-/

namespace SyscallBridge.Json

abbrev Rest := List Char

def isBlank (c : Char) : Bool := c = ' ' || c = '\n' || c = '\r' || c = '\t'

def skipBlanks (cs : Rest) : Rest := cs.dropWhile isBlank

/-- A non-empty run of digits. -/
def readDigits? (cs : Rest) : Option (List Nat × Rest) :=
  match (cs.takeWhile Char.isDigit).map fun c => c.toNat - 48 with
  | [] => none
  | ds => some (ds, cs.dropWhile Char.isDigit)

def readWhole? : Rest → Option (List Nat × Rest)
  | '0' :: rest => if (rest.head?.map Char.isDigit).getD false then none else some ([0], rest)
  | cs => readDigits? cs

def readFraction? : Rest → Option (List Nat × Rest)
  | '.' :: rest => readDigits? rest
  | cs => some ([], cs)

/-- The exponent, with `true` for one below zero. -/
def readExponent? : Rest → Option (Option (Bool × List Nat) × Rest)
  | c :: rest =>
    if c = 'e' ∨ c = 'E' then
      let (down, rest) := match rest with
        | '-' :: r => (true, r)
        | '+' :: r => (false, r)
        | r => (false, r)
      (readDigits? rest).map fun (ds, rest) => (some (down, ds), rest)
    else some (none, c :: rest)
  | [] => some (none, [])

def readNumeral? (cs : Rest) : Option (Numeral × Rest) := do
  let (negative, cs) := match cs with
    | '-' :: r => (true, r)
    | r => (false, r)
  let (whole, cs) ← readWhole? cs
  let (fraction, cs) ← readFraction? cs
  let (exponent, cs) ← readExponent? cs
  return (⟨negative, whole, fraction, exponent⟩, cs)

def hexUnit? (a b c d : Char) : Option Nat := do
  let high := (← Hex.value? a) * 16 + (← Hex.value? b)
  let low := (← Hex.value? c) * 16 + (← Hex.value? d)
  return high * 256 + low

def simpleEscape? : Char → Option Char
  | '"' => some '"'
  | '\\' => some '\\'
  | '/' => some '/'
  | 'b' => some '\x08'
  | 'f' => some '\x0c'
  | 'n' => some '\n'
  | 'r' => some '\r'
  | 't' => some '\t'
  | _ => none

/-- The string behind an opening quote, and what follows its closing quote. -/
def readString? : Rest → Option (List StringPart × Rest)
  | [] => none
  | '"' :: rest => some ([], rest)
  | '\\' :: 'u' :: a :: b :: c :: d :: rest => do
    let n ← hexUnit? a b c d
    let (parts, rest) ← readString? rest
    return (.unit n :: parts, rest)
  | '\\' :: e :: rest => do
    let c ← simpleEscape? e
    let (parts, rest) ← readString? rest
    return (.char c :: parts, rest)
  | c :: rest =>
    if c.toNat < 0x20 ∨ c = '\\' then none
    else (readString? rest).map fun (parts, rest) => (.char c :: parts, rest)

def readWord? (word : List Char) (t : Tree) (cs : Rest) : Option (Tree × Rest) :=
  if word.isPrefixOf cs then some (t, cs.drop word.length) else none

mutual

/-- A value, after blanks. -/
def readValue? : Nat → Rest → Option (Tree × Rest)
  | 0, _ => none
  | fuel + 1, cs =>
    match skipBlanks cs with
    | '"' :: rest => (readString? rest).map fun (s, rest) => (.string s, rest)
    | '[' :: rest =>
      match skipBlanks rest with
      | ']' :: rest => some (.array [], rest)
      | rest => (readItems? fuel rest).map fun (items, rest) => (.array items, rest)
    | '\x7b' :: rest =>
      match skipBlanks rest with
      | '\x7d' :: rest => some (.object [], rest)
      | rest => (readFields? fuel rest).map fun (fields, rest) => (.object fields, rest)
    | 'n' :: rest => readWord? "ull".toList .null rest
    | 't' :: rest => readWord? "rue".toList (.bool true) rest
    | 'f' :: rest => readWord? "alse".toList (.bool false) rest
    | rest => (readNumeral? rest).map fun (n, rest) => (.number n, rest)

/-- The items of an array up to its closing bracket; there is at least one. -/
def readItems? : Nat → Rest → Option (List Tree × Rest)
  | 0, _ => none
  | fuel + 1, cs => do
    let (item, cs) ← readValue? fuel cs
    match skipBlanks cs with
    | ']' :: rest => return ([item], rest)
    | ',' :: rest =>
      let (items, rest) ← readItems? fuel rest
      return (item :: items, rest)
    | _ => none

/-- The fields of an object up to its closing brace; there is at least one. -/
def readFields? : Nat → Rest → Option (List (List StringPart × Tree) × Rest)
  | 0, _ => none
  | fuel + 1, cs =>
    match skipBlanks cs with
    | '"' :: rest => do
      let (key, rest) ← readString? rest
      match skipBlanks rest with
      | ':' :: rest =>
        let (value, rest) ← readValue? fuel rest
        match skipBlanks rest with
        | '\x7d' :: rest => return ([(key, value)], rest)
        | ',' :: rest =>
          let (fields, rest) ← readFields? fuel rest
          return ((key, value) :: fields, rest)
        | _ => none
      | _ => none
    | _ => none

end

/-- Reads a whole text. Every two steps of the reader pass at least one character. -/
def read? (text : String) : Option Tree :=
  let cs := text.toList
  match readValue? (2 * cs.length + 2) cs with
  | some (t, rest) => if (skipBlanks rest).isEmpty then some t else none
  | none => none

end SyscallBridge.Json
