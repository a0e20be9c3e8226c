/-!
# UTF-8

Decoding reads bytes through a machine that knows how many continuation bytes are owed and in
which range the next one must lie. Bytes that no character can start or continue are reported as
one fault for each longest run that still looked like the start of a character.

* `decodeLossy` writes U+FFFD for a fault, `decode?` refuses it.
-/

namespace SyscallBridge

abbrev Bytes := List UInt8

/-- The bytes of a text in UTF-8. -/
def utf8Bytes (s : String) : Bytes := s.toUTF8.toList

namespace Utf8

/-- Between characters, or inside one: `owed` more bytes, the next in `low ... high`. -/
inductive State where
  | start
  | inside (owed : Nat) (low high : UInt8) (value : Nat)

/-- What has been read: a character, or a fault. -/
abbrev Item := Option Char

/-- The first byte of a character. -/
def begin (b : UInt8) : List Item × State :=
  let n := b.toNat
  if n ≤ 0x7F then ([some (Char.ofNat n)], .start)
  else if n < 0xC2 then ([none], .start)
  else if n ≤ 0xDF then ([], .inside 1 0x80 0xBF (n - 0xC0))
  else if n = 0xE0 then ([], .inside 2 0xA0 0xBF 0)
  else if n = 0xED then ([], .inside 2 0x80 0x9F 0xD)
  else if n ≤ 0xEF then ([], .inside 2 0x80 0xBF (n - 0xE0))
  else if n = 0xF0 then ([], .inside 3 0x90 0xBF 0)
  else if n ≤ 0xF3 then ([], .inside 3 0x80 0xBF (n - 0xF0))
  else if n = 0xF4 then ([], .inside 3 0x80 0x8F 4)
  else ([none], .start)

/-- A byte that cannot continue the open character ends it and is read afresh. -/
def step : State → UInt8 → List Item × State
  | .start, b => begin b
  | .inside owed low high value, b =>
    if low ≤ b ∧ b ≤ high then
      let value := value * 64 + (b.toNat - 0x80)
      if owed ≤ 1 then ([some (Char.ofNat value)], .start)
      else ([], .inside (owed - 1) 0x80 0xBF value)
    else
      let (items, state) := begin b
      (none :: items, state)

/-- Bytes that end inside a character end in a fault. -/
def scan : State → Bytes → List Item
  | .start, [] => []
  | .inside .., [] => [none]
  | state, b :: bs => let (items, next) := step state b; items ++ scan next bs

def decodeLossy (bytes : Bytes) : String :=
  String.ofList ((scan .start bytes).map fun i => i.getD (Char.ofNat 0xFFFD))

def decode? (bytes : Bytes) : Option String :=
  ((scan .start bytes).mapM id).map String.ofList

end Utf8

end SyscallBridge
