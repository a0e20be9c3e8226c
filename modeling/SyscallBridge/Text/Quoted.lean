import SyscallBridge.Text.PrintTable

/-!
# Quoted text

How messages quote a text: in double quotes, with the usual backslash forms, and with the code
point in braces for characters that would not show. A single quote stays as it is.
-/

namespace SyscallBridge.Quoted

/-- The code point in lowercase hexadecimal between braces. -/
def spelled (c : Char) : List Char :=
  ['\\', 'u', '\x7b'] ++ Nat.toDigits 16 c.toNat ++ ['\x7d']

def hidden (c : Char) : Bool :=
  if c.toNat < 0x80 then c.toNat < 0x20 || c.toNat == 0x7F
  else PrintTable.mem PrintTable.graphemeExtend c.toNat ||
    PrintTable.mem PrintTable.unprintable c.toNat

def encodeChar (c : Char) : List Char :=
  match c with
  | '\x00' => ['\\', '0']
  | '\t' => ['\\', 't']
  | '\r' => ['\\', 'r']
  | '\n' => ['\\', 'n']
  | '\\' => ['\\', '\\']
  | '"' => ['\\', '"']
  | _ => if hidden c then spelled c else [c]

def encode (s : String) : String :=
  String.ofList ('"' :: s.toList.flatMap encodeChar ++ ['"'])

end SyscallBridge.Quoted
