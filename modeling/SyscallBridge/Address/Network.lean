import SyscallBridge.Address.Parser
import SyscallBridge.Address.Printer
import SyscallBridge.Error.CallError
import SyscallBridge.Text.Quoted

/-!
# Network addresses

`NetAddress` is an address as the host takes it, with a form in bytes: the port, highest byte
first, and then the octets. `SockAddr` is an address as socket calls take it, with its family.
The two convert into each other without loss. `Network` names a protocol and the families it
allows, and `Dialed` is an address text taken apart.
-/

namespace SyscallBridge

inductive Protocol where
  | tcp | udp
  deriving DecidableEq, Repr

def Protocol.text : Protocol → String
  | tcp => "tcp"
  | udp => "udp"

inductive Family where
  | inet4 | inet6
  deriving DecidableEq, Repr

namespace Family

def code : Family → Int
  | inet4 => 2
  | inet6 => 10

def ofCode? (n : Int) : Option Family :=
  if n = 2 then some inet4 else if n = 10 then some inet6 else none

end Family

structure NetAddress where
  ip : Ip
  port : UInt16
  deriving DecidableEq, Repr

namespace NetAddress

def isV6 (a : NetAddress) : Bool := a.ip.isV6

def withPort (a : NetAddress) (port : UInt16) : NetAddress := { a with port }

/-- The wildcard of the same family and port. -/
def unspecified (a : NetAddress) : NetAddress := { a with ip := a.ip.unspecified }

/-- The loopback address of the same family, with no port. -/
def loopback (a : NetAddress) : NetAddress := ⟨a.ip.loopback, 0⟩

/-- The address that receivers see: a wildcard shows as the loopback address. -/
def routable (a : NetAddress) : NetAddress :=
  if a.ip = a.ip.unspecified then a.loopback.withPort a.port else a

def text (a : NetAddress) : String := String.ofList (endpointText a.ip a.port)

def toBytes (a : NetAddress) : Bytes := wordBytes a.port ++ a.ip.bytes

def groupsOfBytes : Bytes → List UInt16
  | h :: l :: rest => wordOfBytes h l :: groupsOfBytes rest
  | _ => []

/-- Six bytes are an IPv4 address and eighteen an IPv6 one. -/
def ofBytes (bytes : Bytes) : Except HostFailure NetAddress :=
  match bytes with
  | [h, l, a, b, c, d] => .ok ⟨.v4 ⟨a, b, c, d⟩, wordOfBytes h l⟩
  | h :: l :: rest =>
    if rest.length = 16 then
      match Ipv6.ofGroups? (groupsOfBytes rest) with
      | some ip => .ok ⟨.v6 ip, wordOfBytes h l⟩
      | none => .error .addressInvalid
    else .error .addressInvalid
  | _ => .error .addressInvalid

def parse (s : String) : Except HostFailure NetAddress :=
  match endpointOfText? s with
  | some (ip, port) => .ok ⟨ip, port⟩
  | none => .error .addressInvalid

end NetAddress

inductive SockAddr where
  | inet4 (ip : Ipv4) (port : UInt16)
  | inet6 (ip : Ipv6) (port : UInt16)
  deriving DecidableEq, Repr

namespace SockAddr

def family : SockAddr → Family
  | inet4 .. => .inet4
  | inet6 .. => .inet6

def port : SockAddr → UInt16
  | inet4 _ p | inet6 _ p => p

def withPort (a : SockAddr) (port : UInt16) : SockAddr :=
  match a with
  | inet4 ip _ => inet4 ip port
  | inet6 ip _ => inet6 ip port

/-- The wildcard of a family, with no port. -/
def unspecified : Family → SockAddr
  | .inet4 => inet4 .unspecified 0
  | .inet6 => inet6 .unspecified 0

def toNet : SockAddr → NetAddress
  | inet4 ip port => ⟨.v4 ip, port⟩
  | inet6 ip port => ⟨.v6 ip, port⟩

def ofNet : NetAddress → SockAddr
  | ⟨.v4 ip, port⟩ => inet4 ip port
  | ⟨.v6 ip, port⟩ => inet6 ip port

@[simp] theorem ofNet_toNet (a : SockAddr) : ofNet a.toNet = a := by cases a <;> rfl

@[simp] theorem toNet_ofNet (a : NetAddress) : (ofNet a).toNet = a := by
  rcases a with ⟨_ | _, _⟩ <;> rfl

@[simp] theorem port_withPort (a : SockAddr) (p : UInt16) : (a.withPort p).port = p := by
  cases a <;> rfl

@[simp] theorem family_withPort (a : SockAddr) (p : UInt16) : (a.withPort p).family = a.family := by
  cases a <;> rfl

def text (a : SockAddr) : String := a.toNet.text

def parse (s : String) : Except CallError SockAddr :=
  match endpointOfText? s with
  | some (ip, port) => .ok (ofNet ⟨ip, port⟩)
  | none => .error (.malformedAddress s)

end SockAddr

/-- The families an answer may have. -/
inductive AddressHint where
  | any | ipv4 | ipv6
  deriving DecidableEq, Repr

def AddressHint.accepts (hint : AddressHint) (a : NetAddress) : Bool :=
  match hint with
  | any => true
  | ipv4 => !a.isV6
  | ipv6 => a.isV6

structure Network where
  protocol : Protocol
  hint : AddressHint
  deriving DecidableEq, Repr

namespace Network

def names : List (String × Network) := [
  ("tcp", ⟨.tcp, .any⟩), ("tcp4", ⟨.tcp, .ipv4⟩), ("tcp6", ⟨.tcp, .ipv6⟩),
  ("udp", ⟨.udp, .any⟩), ("udp4", ⟨.udp, .ipv4⟩), ("udp6", ⟨.udp, .ipv6⟩)]

def parse (name : String) : Except CallError Network :=
  match names.find? fun e => e.1 = name with
  | some (_, network) => .ok network
  | none => .error (.malformedAddress ("unknown network " ++ Quoted.encode name))

end Network

/-- An address text: numeric, the wildcard with a port, or a name to be looked up. -/
inductive Dialed where
  | numeric (a : SockAddr)
  | wildcard (port : UInt16)
  | named (name : String) (port : UInt16)
  deriving DecidableEq, Repr

namespace Dialed

/-- Splits at the last colon. -/
def splitLastColon? (cs : List Char) : Option (List Char × List Char) :=
  match cs.reverse.dropWhile (· ≠ ':') with
  | [] => none
  | _ :: before => some (before.reverse, (cs.reverse.takeWhile (· ≠ ':')).reverse)

/-- A decimal port; a plus sign may stand in front. -/
def portOfText? (cs : List Char) : Option UInt16 :=
  let ds := match cs with
    | '+' :: ds => ds
    | ds => ds
  if ds ≠ [] ∧ ds.all Char.isDigit then
    let n := ds.foldl (fun n c => n * 10 + (c.toNat - 48)) 0
    if n < 65536 then some (UInt16.ofNat n) else none
  else none

/-- What stands between square brackets. -/
def unbracket? (cs : List Char) : Option (List Char) :=
  match cs with
  | '[' :: rest => if rest.getLast? = some ']' then some rest.dropLast else none
  | _ => none

def parse? (s : String) : Option Dialed :=
  match SockAddr.parse s with
  | .ok a => some (.numeric a)
  | .error _ => do
    let (host, port) ← splitLastColon? s.toList
    let port ← portOfText? port
    let name ← match unbracket? host with
      | some inner => some inner
      | none => if ':' ∈ host then none else some host
    return if name = [] then .wildcard port else .named (String.ofList name) port

end Dialed

end SyscallBridge
