import Artillery.Number.Dyadic

/-! # Shortest decimal text

The text with the fewest digits that reads back as the same float.  The reals that round to a float
form an interval; the coarsest decimal grid with a point in that interval gives the fewest digits,
and of two points on it the nearer one is written, the larger one at a tie. -/

namespace Artillery.Decimal

/-- The reals that round to the magnitude of a float, as integers over `4 * den`: `value` is the
float itself, `lower` and `upper` are the ends, which belong to the interval when `closed`. -/
structure Rounding where
  value : Nat
  lower : Nat
  upper : Nat
  den : Nat
  closed : Bool

namespace Rounding

/-- The interval around a magnitude.  Below a power of two the floats lie twice as close, so the
interval reaches only half as far down there. -/
def ofDyadic (d : Dyadic) : Rounding :=
  let unit := 1 <<< d.exponent.toNat
  let value := 4 * d.significand * unit
  let below := if d.significand = Dyadic.hiddenBit ∧ -1074 < d.exponent then unit else 2 * unit
  let den := 4 <<< (-d.exponent).toNat
  ⟨value, value - below, value + 2 * unit, den, d.significand % 2 = 0⟩

/-- Whether the point `p / den` rounds to the float. -/
def holds (i : Rounding) (p : Nat) : Bool :=
  if i.closed then i.lower ≤ p && p ≤ i.upper else i.lower < p && p < i.upper

/-- The point of the grid `10 ^ k` that stands for the float, as a multiple of `10 ^ k`. -/
def onGrid? (i : Rounding) (k : Int) : Option Nat :=
  let up := Nat.pow 10 (-k).toNat
  let step := Nat.pow 10 k.toNat * i.den
  -- Everything is scaled so that the grid and the interval are integers.
  let j : Rounding := { i with value := i.value * up, lower := i.lower * up, upper := i.upper * up }
  let c := j.value / step
  let below := j.holds (c * step)
  let above := j.holds ((c + 1) * step)
  if below ∧ (¬above ∨ 2 * (j.value - c * step) < step) then some c
  else if above then some (c + 1)
  else none

/-- The first grid with a point in the interval, from `10 ^ k` on through `n` finer ones. -/
def firstGrid (i : Rounding) (k : Int) : Nat → Nat × Int
  | 0 => (0, k)
  | n + 1 => match i.onGrid? k with
    | some c => (c, k)
    | none => firstGrid i (k - 1) n

end Rounding

/-- The fewest digits, and the power of ten they count, of a positive magnitude. -/
def shortestDigits (d : Dyadic) : Nat × Int := (Rounding.ofDyadic d).firstGrid 309 700

/-- `digits · 10 ^ exponent` written out in full: no exponent, and a point only before a
fraction. -/
def positional (digits : Nat) (exponent : Int) : String :=
  let text := toString digits
  if 0 ≤ exponent then text.pushn '0' exponent.toNat
  else
    let places := (-exponent).toNat
    let text := "".pushn '0' (places + 1 - text.length) ++ text
    let whole := text.length - places
    (text.take whole).toString ++ "." ++ (text.drop whole).toString

/-- The shortest text of a float, written in full. -/
def shortest (x : Float) : String :=
  match Dyadic.ofFloat? x with
  | none => if x.isNaN then "NaN" else if x < 0 then "-inf" else "inf"
  | some d =>
    let (digits, exponent) := if d.significand = 0 then (0, 0) else shortestDigits d
    (if d.negative then "-" else "") ++ positional digits exponent

end Artillery.Decimal
