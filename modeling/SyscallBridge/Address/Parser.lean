import SyscallBridge.Address.Ip
import SyscallBridge.Text.Hex

/-!
# Reading internet addresses

Every reader takes the longest run of digits it finds and refuses it as a whole when it is too
long or too large. An octet has no zero in front; a group, a port and a zone may have some.
-/

namespace SyscallBridge.AddressText

abbrev Rest := List Char

def digit? (radix : Nat) (c : Char) : Option Nat :=
  (Hex.value? c).bind fun n => if n < radix then some n else none

/-- The digits in front and what follows them. -/
def spanDigits (radix : Nat) : Rest → List Nat × Rest
  | [] => ([], [])
  | c :: cs =>
    match digit? radix c with
    | some d => ((d :: (spanDigits radix cs).1), (spanDigits radix cs).2)
    | none => ([], c :: cs)

def valueOf (radix : Nat) (ds : List Nat) : Nat := ds.foldl (fun n d => n * radix + d) 0

/-- A number below `bound`, of at most `width` digits if a width is given. -/
def readNumber? (radix : Nat) (width : Option Nat) (leadingZero : Bool) (bound : Nat) (cs : Rest) :
    Option (Nat × Rest) :=
  let (ds, rest) := spanDigits radix cs
  if ds = [] ∨ width.any (· < ds.length) then none
  else if !leadingZero ∧ 1 < ds.length ∧ ds.head? = some 0 then none
  else if valueOf radix ds < bound then some (valueOf radix ds, rest)
  else none

def readChar? (c : Char) : Rest → Option Rest
  | x :: xs => if x = c then some xs else none
  | [] => none

def readOctet? (cs : Rest) : Option (UInt8 × Rest) :=
  (readNumber? 10 (some 3) false 256 cs).map fun (n, rest) => (UInt8.ofNat n, rest)

def readGroup? (cs : Rest) : Option (UInt16 × Rest) :=
  (readNumber? 16 (some 4) true 65536 cs).map fun (n, rest) => (UInt16.ofNat n, rest)

def readIpv4? (cs : Rest) : Option (Ipv4 × Rest) := do
  let (a, cs) ← readOctet? cs
  let (b, cs) ← readOctet? (← readChar? '.' cs)
  let (c, cs) ← readOctet? (← readChar? '.' cs)
  let (d, cs) ← readOctet? (← readChar? '.' cs)
  return (⟨a, b, c, d⟩, cs)

/-- The colon between groups; there is none before the first. -/
def readColon? (first : Bool) (cs : Rest) : Option Rest :=
  if first then some cs else readChar? ':' cs

/-- Up to `room` groups with colons between them. An IPv4 address may stand for the last two; the
flag says that one did. Stops in front of anything that is no further group. -/
def readGroups (first : Bool) : Nat → Rest → List UInt16 × Bool × Rest
  | 0, cs => ([], false, cs)
  | room + 1, cs =>
    match (readColon? first cs).bind fun cs => if 1 ≤ room then readIpv4? cs else none with
    | some (ip, rest) => ([wordOfBytes ip.a ip.b, wordOfBytes ip.c ip.d], true, rest)
    | none =>
      match (readColon? first cs).bind readGroup? with
      | some (g, rest) =>
        let (gs, embedded, rest) := readGroups false room rest
        (g :: gs, embedded, rest)
      | none => ([], false, cs)

/-- Eight groups, or fewer around a `::` that stands for at least one. -/
def readIpv6? (cs : Rest) : Option (Ipv6 × Rest) :=
  let (front, embedded, cs) := readGroups true 8 cs
  if front.length = 8 then (Ipv6.ofGroups? front).map (·, cs)
  else if embedded then none
  else do
    let cs ← readChar? ':' (← readChar? ':' cs)
    let (back, _, cs) := readGroups true (7 - front.length) cs
    let ip ← Ipv6.ofGroups? (front ++ List.replicate (8 - front.length - back.length) 0 ++ back)
    return (ip, cs)

def readIp? (cs : Rest) : Option (Ip × Rest) :=
  match readIpv4? cs with
  | some (ip, rest) => some (.v4 ip, rest)
  | none => (readIpv6? cs).map fun (ip, rest) => (.v6 ip, rest)

def readPort? (cs : Rest) : Option (UInt16 × Rest) := do
  let cs ← readChar? ':' cs
  (readNumber? 10 none true 65536 cs).map fun (n, rest) => (UInt16.ofNat n, rest)

/-- A zone such as `%3` behind an IPv6 address; it is read and not kept. -/
def skipZone (cs : Rest) : Rest :=
  match (readChar? '%' cs).bind (readNumber? 10 none true UInt32.size) with
  | some (_, rest) => rest
  | none => cs

def readEndpoint? (cs : Rest) : Option ((Ip × UInt16) × Rest) :=
  match (readIpv4? cs).bind fun (ip, cs) => (readPort? cs).map fun (p, cs) => (ip, p, cs) with
  | some (ip, port, rest) => some ((.v4 ip, port), rest)
  | none => do
    let (ip, cs) ← readIpv6? (← readChar? '[' cs)
    let cs ← readChar? ']' (skipZone cs)
    let (port, cs) ← readPort? cs
    return ((.v6 ip, port), cs)

/-- The value read when nothing follows it. -/
def whole? {α : Type} : Option (α × Rest) → Option α
  | some (a, []) => some a
  | _ => none

end SyscallBridge.AddressText

namespace SyscallBridge

def Ip.ofText? (s : String) : Option Ip := AddressText.whole? (AddressText.readIp? s.toList)

/-- An address and a port, as in `1.2.3.4:80` or `[::1]:80`. -/
def endpointOfText? (s : String) : Option (Ip × UInt16) :=
  AddressText.whole? (AddressText.readEndpoint? s.toList)

end SyscallBridge
