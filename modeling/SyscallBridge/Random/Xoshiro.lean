import SyscallBridge.Text.Utf8

/-!
# The xoshiro256++ generator

A generator of 64-bit words with 256 bits of state. A seed word is stretched to the state by a
permuted congruential generator that yields eight words of 32 bits.
-/

namespace SyscallBridge

structure Xoshiro where
  s0 : UInt64
  s1 : UInt64
  s2 : UInt64
  s3 : UInt64
  deriving DecidableEq, Repr, Inhabited

namespace Xoshiro

def rotateLeft (x k : UInt64) : UInt64 := (x <<< k) ||| (x >>> (64 - k))

/-- The next word of the stretching generator, as the low 32 bits, and its state. -/
def stretch (state : UInt64) : UInt64 × UInt64 :=
  let state := state * 6364136223846793005 + 11634580027462260723
  let x := (((state >>> 18) ^^^ state) >>> 27) &&& 0xFFFFFFFF
  let r := state >>> 59
  let word := ((x >>> r) ||| (x <<< ((32 - r) &&& 31))) &&& 0xFFFFFFFF
  (word, state)

/-- Two stretched words, the first in the low half. -/
def stretchPair (state : UInt64) : UInt64 × UInt64 :=
  let (low, state) := stretch state
  let (high, state) := stretch state
  (low ||| (high <<< 32), state)

def ofSeed (seed : UInt64) : Xoshiro :=
  let (s0, t) := stretchPair seed
  let (s1, t) := stretchPair t
  let (s2, t) := stretchPair t
  let (s3, _) := stretchPair t
  ⟨s0, s1, s2, s3⟩

def next (g : Xoshiro) : UInt64 × Xoshiro :=
  let word := rotateLeft (g.s0 + g.s3) 23 + g.s0
  let t := g.s1 <<< 17
  let s2 := g.s2 ^^^ g.s0
  let s3 := g.s3 ^^^ g.s1
  let s1 := g.s1 ^^^ s2
  let s0 := g.s0 ^^^ s3
  (word, ⟨s0, s1, s2 ^^^ t, rotateLeft s3 45⟩)

/-- The `count` low bytes of a word, the lowest first. -/
def littleEndian (count : Nat) (word : UInt64) : Bytes :=
  (List.range count).map fun i => (word >>> (8 * UInt64.ofNat i)).toUInt8

/-- `count` whole words as bytes, put in reverse in front of `done`. -/
def words : Nat → Xoshiro → Bytes → Bytes × Xoshiro
  | 0, g, done => (done, g)
  | count + 1, g, done =>
    let (word, g) := g.next
    words count g ((littleEndian 8 word).reverse ++ done)

/-- `count` bytes: whole words while they fit, then the low bytes of one more word, or the low
bytes of its upper half when at most four are missing. -/
def bytes (count : Nat) (g : Xoshiro) : Bytes × Xoshiro :=
  let (done, g) := words (count / 8) g []
  let left := count % 8
  if left = 0 then (done.reverse, g)
  else
    let (word, g) := g.next
    let word := if left ≤ 4 then word >>> 32 else word
    (done.reverse ++ littleEndian left word, g)

end Xoshiro

end SyscallBridge
