import Artillery.Json.Basic

/-! # Numbers of the exchange format

A number without point and exponent is an integer as long as it fits into 64 bits; every other
number is a float.  The digits are collected into a significand of 64 bits as far as it holds them,
and then scaled by a power of ten, which rounds once more; digits that the significand has no room
for only count as powers of ten. -/

namespace Artillery.Json.Number

/-- The parts of a number as it is written. -/
structure Parts where
  negative : Bool
  whole : List Nat
  fraction : List Nat
  exponentNegative : Bool
  exponent : List Nat

/-- The value of a digit. -/
def digit? (c : Char) : Option Nat :=
  if '0' ≤ c ∧ c ≤ '9' then some (c.toNat - '0'.toNat) else none

/-- Splits off the digits in front. -/
def digits : List Char → List Nat × List Char
  | [] => ([], [])
  | c :: cs => match digit? c with
    | some d => let (ds, rest) := digits cs; (d :: ds, rest)
    | none => ([], c :: cs)

/-- The exponent with which the rest of a number ends. -/
def exponent? : List Char → Option (Bool × List Nat)
  | [] => some (false, [])
  | mark :: cs =>
    if mark = 'e' ∨ mark = 'E' then
      let (negative, cs) := match cs with
        | '-' :: rest => (true, rest)
        | '+' :: rest => (false, rest)
        | _ => (false, cs)
      let (ds, rest) := digits cs
      if ds ≠ [] ∧ rest = [] then some (negative, ds) else none
    else none

/-- Takes a number apart: no leading zeros, and digits on both sides of a point. -/
def parts? (cs : List Char) : Option Parts := do
  let (negative, cs) := match cs with
    | '-' :: rest => (true, rest)
    | _ => (false, cs)
  let (whole, rest) := digits cs
  guard (whole ≠ [])
  guard (whole.head? ≠ some 0 ∨ whole.length = 1)
  let (fraction, rest) ← match rest with
    | '.' :: rest =>
      let (fraction, rest) := digits rest
      if fraction = [] then none else some (fraction, rest)
    | _ => some ([], rest)
  let (exponentNegative, exponent) ← exponent? rest
  return ⟨negative, whole, fraction, exponentNegative, exponent⟩

/-- Adds digits to a significand as long as it stays within `limit`; answers with the significand
and the number of digits left over. -/
def collect (limit : Nat) : List Nat → Nat → Nat × Nat
  | [], n => (n, 0)
  | d :: ds, n => if limit < 10 * n + d then (n, ds.length + 1) else collect limit ds (10 * n + d)

/-- The largest significand. -/
def largest : Nat := 0xffffffffffffffff

/-- `x · 10 ^ e` for an exponent of either sign, in steps that the range of floats allows.  There is
no value when it gets too large. -/
def scale (x : Float) : Int → Option Float
  | .ofNat e =>
    if e ≤ 308 then
      let y := x * Float.ofScientific 1 false e
      if y.isInf then none else some y
    else if x == 0 then some x else none
  | .negSucc e => some (shrink x (e + 1))
where
  /-- Divides by `10 ^ e`. -/
  shrink (x : Float) (e : Nat) : Float :=
    if e ≤ 308 then x / Float.ofScientific 1 false e
    else if x == 0 then x
    else shrink (x / 1e308) (e - 308)
  termination_by e

/-- Gives a magnitude its sign. -/
def signed (negative : Bool) (x : Float) : Float := if negative then -x else x

/-- The value of a number with a point, with an exponent or with more digits than the significand
holds. -/
def realValue (p : Parts) (significand : Nat) (exponent : Int) : Json :=
  -- An exponent that does not fit makes the number too large or zero, whatever its digits.
  let (power, left) := collect 0x7fffffff p.exponent 0
  if left ≠ 0 then
    if significand ≠ 0 ∧ ¬p.exponentNegative then unreadable else real (signed p.negative 0)
  else
    let exponent := if p.exponentNegative then exponent - power else exponent + power
    match scale (UInt64.ofNat significand).toFloat exponent with
    | some x => real (signed p.negative x)
    | none => unreadable

/-- The value of a number. -/
def value (p : Parts) : Json :=
  let (significand, dropped) := collect largest p.whole 0
  if p.fraction = [] ∧ p.exponent = [] ∧ dropped = 0 then
    if ¬p.negative then int significand
    -- A negative zero has no integer to stand for.
    else if significand ≠ 0 ∧ significand ≤ 0x8000000000000000 then int (-significand)
    else real (-(UInt64.ofNat significand).toFloat)
  else
    let (significand, left) := collect largest p.fraction significand
    realValue p significand (dropped - (p.fraction.length - left : Nat))

/-- Reads a number that fills the whole text. -/
def read? (cs : List Char) : Option Json := (parts? cs).map value

end Artillery.Json.Number
