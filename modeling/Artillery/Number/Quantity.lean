import Artillery.Fault
import Artillery.Number.Dyadic
import Artillery.Number.Word

/-! # Rules for measured quantities

Positions, velocities and wind are floats; rows, columns, radii and energies are integers of 32
bits.  This file says how one becomes the other and how floats are compared, limited and reduced. -/

namespace Artillery.Quantity

/-- Makes an integer of a finite float by a rule.  What lies beyond 32 bits stops at the last
integer, and NaN counts as 0. -/
def integer (rule : Dyadic → Int) (x : Float) : Int :=
  match Dyadic.ofFloat? x with
  | some d => saturate (rule d)
  | none => if x.isNaN then 0 else if x < 0 then least else greatest

/-- The nearest integer; a half goes away from zero. -/
def nearest (x : Float) : Int := integer Dyadic.nearest x

/-- The largest integer that is not above `x`. -/
def floor (x : Float) : Int := integer Dyadic.floor x

/-- The smallest integer that is not below `x`. -/
def ceil (x : Float) : Int := integer Dyadic.ceil x

/-- A column, row, radius or energy as a measured quantity. -/
def ofInt (n : Int) : Float := Float.ofInt n

/-- `x`, or `lo` where `x` is smaller or no number at all. -/
def atLeast (lo x : Float) : Float := if lo ≤ x then x else lo

/-- `x`, or `hi` where `x` is larger or no number at all. -/
def atMost (hi x : Float) : Float := if x ≤ hi then x else hi

/-- `x` moved to the nearer bound where it lies outside; NaN stays.  Bounds that are in order are
numbers both. -/
def restrict (lo hi x : Float) (_room : lo ≤ hi) : Float :=
  if x < lo then lo else if hi < x then hi else x

/-- As `restrict`, for bounds that are themselves computed and may leave no room. -/
def clamp (lo hi x : Float) : Except Fault Float :=
  if room : lo ≤ hi then .ok (restrict lo hi x room) else .error .crossedBounds

/-- The direction of `x`, `1` or `-1`; zeros have the direction of their sign, NaN has none. -/
def direction (x : Float) : Float :=
  if x.isNaN then x else if x.toBits < 0x8000000000000000 then 1 else -1

/-- An angle in degrees as radians. -/
def radians (degrees : Float) : Float := degrees * (3.141592653589793 / 180)

/-- One full turn in radians. -/
def fullTurn : Float := 6.283185307179586

/-- The distance between 1 and the next float. -/
def epsilon : Float := 2.220446049250313e-16

/-- What is left of `x` after taking away `w` as often as it fits, with the sign of `x`; exact. -/
def remainder (x w : Float) : Float :=
  match Dyadic.ofFloat? x, Dyadic.ofFloat? w with
  | some a, some b =>
    if b.significand = 0 then 0 / 0
    else
      -- On a common exponent this is the remainder of two integers.
      let (m, n, e) := a.aligned b
      Dyadic.toFloat ⟨a.negative, m % n, e⟩
  -- An infinite circumference never fits.
  | some _, none => if w.isNaN then w else x
  | none, _ => 0 / 0

/-- The position of `x` on a circle of circumference `w`. -/
def wrap (x w : Float) : Float :=
  let r := remainder x w
  if r < 0 then r + w.abs else r

/-- The order of all floats that puts positive NaN above every number; used to find a nearest target
among distances, which are never negative. -/
def precedes (a b : Float) : Bool :=
  let key (x : Float) : Int :=
    -- Negative floats grow in magnitude with their bits, so their order is turned around.
    let n := x.toBits.toNat
    if n < Dyadic.signBit then n else (Dyadic.signBit : Int) - 1 - n
  key a < key b

end Artillery.Quantity
