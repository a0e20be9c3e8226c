import SyscallBridge.Address.Ip
import SyscallBridge.Text.Hex

/-!
# Writing internet addresses

IPv4 addresses are four decimal octets. IPv6 addresses are lowercase hexadecimal groups in which
the first of the longest runs of two or more zero groups is written `::`; an address that carries
an IPv4 one ends in it.
-/

namespace SyscallBridge

def decimal (n : Nat) : List Char := Nat.toDigits 10 n

def Ipv4.text (ip : Ipv4) : List Char :=
  decimal ip.a.toNat ++ '.' :: decimal ip.b.toNat ++ '.' :: decimal ip.c.toNat ++
    '.' :: decimal ip.d.toNat

namespace Ipv6

/-- Groups in hexadecimal, with colons between them. -/
def groupsText : List UInt16 → List Char
  | [] => []
  | [g] => Nat.toDigits 16 g.toNat
  | g :: gs => Nat.toDigits 16 g.toNat ++ ':' :: groupsText gs

/-- The number of zeros in front. -/
def leadingZeros : List UInt16 → Nat
  | [] => 0
  | g :: gs => if g = 0 then leadingZeros gs + 1 else 0

/-- Where the first of the longest zero runs starts, and its length. -/
def longestZeros : List UInt16 → Nat × Nat
  | [] => (0, 0)
  | g :: gs =>
    let here := leadingZeros (g :: gs)
    let (start, size) := longestZeros gs
    if size ≤ here then (0, here) else (start + 1, size)

def text (ip : Ipv6) : List Char :=
  match ip.mapped? with
  | some v4 => "::ffff:".toList ++ v4.text
  | none =>
    let (start, size) := longestZeros ip.groups
    if 2 ≤ size then
      groupsText (ip.groups.take start) ++ ':' :: ':' :: groupsText (ip.groups.drop (start + size))
    else groupsText ip.groups

end Ipv6

def Ip.text : Ip → List Char
  | .v4 ip => ip.text
  | .v6 ip => ip.text

/-- An address with its port; an IPv6 address stands in brackets. -/
def endpointText (ip : Ip) (port : UInt16) : List Char :=
  match ip with
  | .v4 ip => ip.text ++ ':' :: decimal port.toNat
  | .v6 ip => '[' :: ip.text ++ ']' :: ':' :: decimal port.toNat

end SyscallBridge
