import Artillery.Random.Keystream
import Artillery.Number.Quantity

/-! # Random draws

A draw takes some words from the keystream and makes a value of them.  How many words it takes and
how it uses them is fixed, so that a seed always gives the same course of events. -/

namespace Artillery

/-- A value that depends on the next words of the keystream. -/
abbrev Draw := StateM Keystream

namespace Draw

/-- The next word. -/
def word : Draw UInt32 := fun k => (k.word k.position, { k with position := k.position + 1 })

/-- The next two words as one, the first of them in the low half. -/
def doubleWord : Draw UInt64 := do
  let low ← word
  let high ← word
  return low.toUInt64 ||| high.toUInt64 <<< 32

/-- A float in `0 ≤ x < 1`, a multiple of `2 ^ -53`. -/
def unit : Draw Float := do
  let w ← doubleWord
  return (w >>> 11).toFloat * 1.1102230246251565e-16

/-- One of two equally likely outcomes. -/
def coin : Draw Bool := do
  let w ← doubleWord
  return w < 0x8000000000000000

/-- A number below `n` from words of `bits` bits.  The product of `n` and a word is accepted when
its low half lies below the largest shifted multiple of `n`, which makes its high half uniform.  A
word is refused with a chance below one half; after `attempts` refusals the answer is 0. -/
def belowBy (bits : Nat) (next : Draw Nat) (n : Nat) : (attempts : Nat) → Draw Nat
  | 0 => pure 0
  | attempts + 1 => do
    -- The high half of the product is the candidate, the low half decides whether it counts.
    let product := (← next) * n
    if product % (1 <<< bits) < n <<< (bits - 1 - n.log2) then return product >>> bits
    else belowBy bits next n attempts

/-- A number below `n`, for positive `n` of at most 32 bits. -/
def below (n : Nat) (_positive : 0 < n) : Draw Nat := belowBy 32 (UInt32.toNat <$> word) n 256

/-- A number below `n`, for positive `n` of at most 64 bits, from double words. -/
def belowWide (n : Nat) (_positive : 0 < n) : Draw Nat :=
  belowBy 64 (UInt64.toNat <$> doubleWord) n 256

/-- Lowers a width by single steps of the float grid until its largest draw stays within `hi`. -/
def fitWidth (lo hi largest width : Float) : (steps : Nat) → Float
  | 0 => width
  | steps + 1 =>
    if hi < width * largest + lo then
      fitWidth lo hi largest (Float.ofBits (width.toBits - 1)) steps
    else width

/-- A float in `lo ≤ x ≤ hi`, for bounds that leave room. -/
def between (lo hi : Float) (_room : lo ≤ hi) : Draw Float := do
  let largest := 1 - Quantity.epsilon
  let width := fitWidth lo hi largest ((hi - lo) / largest) 64
  let w ← doubleWord
  return ((w >>> 12).toFloat * Quantity.epsilon) * width + lo

end Draw

end Artillery
