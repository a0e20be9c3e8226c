import SyscallBridge.Text.Utf8

/-!
# Hexadecimal bytes

Two lowercase digits a byte. Reading accepts both cases and refuses an odd digit; it takes back
what was written.
-/

namespace SyscallBridge.Hex

def digit (n : Nat) : Char := if n < 10 then Char.ofNat (48 + n) else Char.ofNat (87 + n)

def value? (c : Char) : Option Nat :=
  if '0' ≤ c ∧ c ≤ '9' then some (c.toNat - 48)
  else if 'a' ≤ c ∧ c ≤ 'f' then some (c.toNat - 87)
  else if 'A' ≤ c ∧ c ≤ 'F' then some (c.toNat - 55)
  else none

def encodeChars (bytes : Bytes) : List Char :=
  bytes.flatMap fun b => [digit (b.toNat / 16), digit (b.toNat % 16)]

def encode (bytes : Bytes) : String := String.ofList (encodeChars bytes)

def decodeChars : List Char → Option Bytes
  | [] => some []
  | [_] => none
  | h :: l :: rest => do
    let high ← value? h
    let low ← value? l
    let bytes ← decodeChars rest
    return UInt8.ofNat (high * 16 + low) :: bytes

def decode? (s : String) : Option Bytes := decodeChars s.toList

theorem value?_digit {n : Nat} (h : n < 16) : value? (digit n) = some n := by
  match n, h with
  | 0, _ | 1, _ | 2, _ | 3, _ | 4, _ | 5, _ | 6, _ | 7, _ | 8, _ | 9, _ | 10, _ | 11, _ | 12, _
  | 13, _ | 14, _ | 15, _ => decide
  | n + 16, h => omega

theorem decodeChars_encodeChars (bytes : Bytes) : decodeChars (encodeChars bytes) = some bytes := by
  induction bytes with
  | nil => rfl
  | cons b rest ih =>
    have hb : b.toNat < 256 := b.toNat_lt
    have he : b.toNat / 16 * 16 + b.toNat % 16 = b.toNat := by omega
    change decodeChars (digit (b.toNat / 16) :: digit (b.toNat % 16) :: encodeChars rest) = _
    rw [decodeChars, value?_digit (by omega), value?_digit (by omega), ih]
    simp only [Option.bind_eq_bind, Option.bind_some, he, UInt8.ofNat_toNat, Option.pure_def]

/-- The low `count` digits of `n`, the highest first. -/
def fixed (count n : Nat) : String :=
  String.ofList ((List.range count).reverse.map fun i => digit ((n >>> (4 * i)) % 16))

end SyscallBridge.Hex
