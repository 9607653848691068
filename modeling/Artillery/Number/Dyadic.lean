/-! # Finite floats as integers times powers of two

A finite float is `± significand · 2 ^ exponent`.  Whatever has to be exact (decimal text,
remainders) is computed on this form with integers, so that no step rounds twice. -/

namespace Artillery

/-- The number `± significand · 2 ^ exponent`; the sign is kept apart so that a negative zero stays
negative. -/
structure Dyadic where
  negative : Bool
  significand : Nat
  exponent : Int
  deriving DecidableEq, Repr

namespace Dyadic

/-- The bit that the fraction of a normal float leaves out. -/
def hiddenBit : Nat := 0x10000000000000

/-- The bit that makes a float negative. -/
def signBit : Nat := 0x8000000000000000

/-- Reads the sign, exponent and fraction fields of a float.  Subnormal numbers have no hidden bit
and the least exponent; infinities and NaN have no such form. -/
def ofFloat? (x : Float) : Option Dyadic :=
  let bits := x.toBits.toNat
  let negative : Bool := signBit ≤ bits
  let field : Nat := bits / hiddenBit % 0x800
  let fraction : Nat := bits % hiddenBit
  -- The largest field belongs to the infinities and NaN.
  if field = 2047 then none
  else if field = 0 then some ⟨negative, fraction, -1074⟩
  else some ⟨negative, fraction + hiddenBit, (field : Int) - 1075⟩

/-- The float with this value; exact when the significand has at most 53 bits and the exponent is in
range.  The significand is shifted up until its 53rd bit is the hidden one; where the least exponent
forbids that, the number is subnormal. -/
def toFloat (d : Dyadic) : Float :=
  let shift := min (52 - d.significand.log2) (d.exponent + 1074).toNat
  let m := d.significand <<< shift
  -- The hidden bit is not stored; a subnormal number has none and its field is 0.
  let magnitude :=
    if m < hiddenBit then m
    else (d.exponent + 1075 - shift).toNat * hiddenBit + (m - hiddenBit)
  Float.ofBits (UInt64.ofNat (if d.negative then signBit + magnitude else magnitude))

/-- The magnitude as a fraction of two natural numbers. -/
def ratio (d : Dyadic) : Nat × Nat :=
  (d.significand <<< d.exponent.toNat, 1 <<< (-d.exponent).toNat)

/-- The significands of two magnitudes brought to their smaller exponent. -/
def aligned (a b : Dyadic) : Nat × Nat × Int :=
  let e := min a.exponent b.exponent
  (a.significand <<< (a.exponent - e).toNat, b.significand <<< (b.exponent - e).toNat, e)

/-- An integer with the sign of the value. -/
def signed (d : Dyadic) (n : Nat) : Int := if d.negative then -n else n

/-- The nearest integer; a half goes away from zero. -/
def nearest (d : Dyadic) : Int :=
  let (n, m) := d.ratio
  d.signed ((2 * n + m) / (2 * m))

/-- The largest integer that is not above the value. -/
def floor (d : Dyadic) : Int :=
  let (n, m) := d.ratio
  d.signed (if d.negative then (n + (m - 1)) / m else n / m)

/-- The smallest integer that is not below the value. -/
def ceil (d : Dyadic) : Int :=
  let (n, m) := d.ratio
  d.signed (if d.negative then n / m else (n + (m - 1)) / m)

end Dyadic

end Artillery
