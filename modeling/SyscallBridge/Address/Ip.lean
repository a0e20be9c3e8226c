import SyscallBridge.Text.Utf8

/-!
# Internet addresses

An IPv4 address is four octets and an IPv6 address eight groups of sixteen bits. On the wire both
are written highest byte first.
-/

namespace SyscallBridge

structure Ipv4 where
  a : UInt8
  b : UInt8
  c : UInt8
  d : UInt8
  deriving DecidableEq, Repr, Inhabited

structure Ipv6 where
  groups : List UInt16
  length_groups : groups.length = 8
  deriving DecidableEq, Repr

inductive Ip where
  | v4 (ip : Ipv4)
  | v6 (ip : Ipv6)
  deriving DecidableEq, Repr

/-- The two bytes of a word, the high one first. -/
def wordBytes (w : UInt16) : Bytes := [(w >>> 8).toUInt8, w.toUInt8]

def wordOfBytes (high low : UInt8) : UInt16 := (high.toUInt16 <<< 8) ||| low.toUInt16

/-- A word is the two bytes it is written as. -/
theorem wordOfBytes_wordBytes (w : UInt16) : wordOfBytes (w >>> 8).toUInt8 w.toUInt8 = w := by
  apply UInt16.toNat_inj.1
  have h : w.toNat < 65536 := w.toNat_lt
  simp only [wordOfBytes, UInt16.toNat_or, UInt16.toNat_shiftLeft, UInt8.toNat_toUInt16,
    UInt16.toNat_toUInt8, UInt16.toNat_shiftRight]
  change ((w.toNat >>> 8) % 256) <<< 8 % 2 ^ 16 ||| w.toNat % 256 = w.toNat
  rw [Nat.shiftRight_eq_div_pow, Nat.mod_eq_of_lt (show w.toNat / 2 ^ 8 < 256 by omega),
    Nat.mod_eq_of_lt (by rw [Nat.shiftLeft_eq]; omega),
    ← Nat.shiftLeft_add_eq_or_of_lt (by omega : w.toNat % 256 < 2 ^ 8), Nat.shiftLeft_eq]
  omega

namespace Ipv4

def unspecified : Ipv4 := ⟨0, 0, 0, 0⟩

def loopback : Ipv4 := ⟨127, 0, 0, 1⟩

def bytes (ip : Ipv4) : Bytes := [ip.a, ip.b, ip.c, ip.d]

end Ipv4

namespace Ipv6

instance : Inhabited Ipv6 := ⟨⟨List.replicate 8 0, rfl⟩⟩

def ofGroups? (groups : List UInt16) : Option Ipv6 :=
  if h : groups.length = 8 then some ⟨groups, h⟩ else none

def unspecified : Ipv6 := ⟨[0, 0, 0, 0, 0, 0, 0, 0], rfl⟩

def loopback : Ipv6 := ⟨[0, 0, 0, 0, 0, 0, 0, 1], rfl⟩

def bytes (ip : Ipv6) : Bytes := ip.groups.flatMap wordBytes

/-- The IPv4 address inside `::ffff:a.b.c.d`. -/
def mapped? (ip : Ipv6) : Option Ipv4 :=
  match ip.groups with
  | [0, 0, 0, 0, 0, 0xFFFF, h, l] =>
    some ⟨(h >>> 8).toUInt8, h.toUInt8, (l >>> 8).toUInt8, l.toUInt8⟩
  | _ => none

end Ipv6

namespace Ip

def isV6 : Ip → Bool
  | .v4 _ => false
  | .v6 _ => true

def bytes : Ip → Bytes
  | .v4 ip => ip.bytes
  | .v6 ip => ip.bytes

/-- The wildcard of the same family. -/
def unspecified : Ip → Ip
  | .v4 _ => .v4 .unspecified
  | .v6 _ => .v6 .unspecified

/-- The loopback address of the same family. -/
def loopback : Ip → Ip
  | .v4 _ => .v4 .loopback
  | .v6 _ => .v6 .loopback

end Ip

end SyscallBridge
