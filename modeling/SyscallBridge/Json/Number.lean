/-!
# JSON numbers

A numeral is kept as written. Its value is a natural number, a negative integer or a binary
floating point number; an integer that does not fit 64 bits becomes floating point, and so does
negative zero. A decimal is read from its leading digits, as many as fit 64 bits, scaled by one
power of ten, and is refused when it exceeds every finite number.
-/

namespace SyscallBridge.Json

/-- The digits of a numeral, highest first, and its signed exponent if one is written. -/
structure Numeral where
  negative : Bool
  whole : List Nat
  fraction : List Nat
  exponent : Option (Bool × List Nat)
  deriving DecidableEq, Repr, Inhabited

inductive Number where
  | natural (n : UInt64)
  /-- Below zero, and at least the least 64-bit integer. -/
  | negative (n : Int)
  | real (x : Float)
  deriving Repr, Inhabited

/-- Reads digits on to `n` as long as the result fits 64 bits; the digits left over follow. -/
def absorb (n : Nat) : List Nat → Nat × List Nat
  | [] => (n, [])
  | d :: ds => if n * 10 + d < UInt64.size then absorb (n * 10 + d) ds else (n, d :: ds)

def ofDigits (ds : List Nat) : Nat := ds.foldl (fun n d => n * 10 + d) 0

def powerOfTen (k : Nat) : Float := Float.ofScientific 1 false k

/-- No exponent from here on is added up. -/
def exponentLimit : Nat := 2147483648

/-- The largest power of ten that is finite. -/
def greatestPower : Nat := 308

/-- Divides by a power of ten, in several steps when that power is not finite. -/
def shrink (x : Float) (k : Nat) : Float :=
  if k ≤ greatestPower then x / powerOfTen k
  else if x == 0 then x
  else shrink (x / powerOfTen greatestPower) (k - greatestPower)
termination_by k
decreasing_by simp [greatestPower] at *; omega

/-- Multiplies by a power of ten, unless the result is infinite. -/
def grow? (x : Float) (k : Nat) : Option Float :=
  if k ≤ greatestPower then
    let y := x * powerOfTen k
    if y.isInf then none else some y
  else if x == 0 then some x
  else none

def scale? (x : Float) (exponent : Int) : Option Float :=
  if 0 ≤ exponent then grow? x exponent.toNat else some (shrink x (-exponent).toNat)

namespace Numeral

def signed (n : Numeral) (x : Float) : Float := if n.negative then -x else x

/-- The value of a numeral that is read as floating point. -/
def real? (n : Numeral) : Option Float :=
  let (leading, left) := absorb 0 n.whole
  let (leading, dropped) := absorb leading n.fraction
  let shift : Int := left.length - (n.fraction.length - dropped.length : Nat)
  let magnitude := (UInt64.ofNat leading).toFloat
  match n.exponent with
  | none => (scale? magnitude shift).map n.signed
  | some (down, digits) =>
    let e := ofDigits digits
    if e < exponentLimit then (scale? magnitude (if down then shift - e else shift + e)).map n.signed
    else if leading ≠ 0 ∧ !down then none
    else some (n.signed 0)

def value? (n : Numeral) : Option Number :=
  let v := ofDigits n.whole
  if n.fraction ≠ [] ∨ n.exponent.isSome then n.real?.map .real
  else if n.negative then
    if 0 < v ∧ v ≤ UInt64.size / 2 then some (.negative (-v)) else n.real?.map .real
  else if v < UInt64.size then some (.natural (UInt64.ofNat v)) else n.real?.map .real

end Numeral

namespace Number

/-- The integer a number stands for; a floating point number stands for none. -/
def integer? : Number → Option Int
  | .natural n => some n.toNat
  | .negative n => some n
  | .real _ => none

/-- Rounded once, from the integer where there is one. -/
def toFloat32 : Number → Float32
  | .natural n => n.toFloat32
  | .negative n => (Int64.ofInt n).toFloat32
  | .real x => x.toFloat32

end Number

end SyscallBridge.Json
