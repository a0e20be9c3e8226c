import SyscallBridge.Text.CaseTable

/-!
# Uppercase text

Full Unicode uppercasing, one character at a time and without context, so a text may grow.
-/

namespace SyscallBridge

/-- The characters that `c` becomes. -/
def upperChar (c : Char) : List Char :=
  if c.toNat < 0x80 then [c.toUpper]
  else match CaseTable.expansions.find? fun e => e.1 = c.toNat with
    | some e => e.2.map Char.ofNat
    | none => match CaseTable.runs.find? fun r => r.contains c.toNat with
      | some r => [Char.ofNat (c.toNat + r.shift).toNat]
      | none => [c]

def uppercase (s : String) : String := String.ofList (s.toList.flatMap upperChar)

end SyscallBridge
