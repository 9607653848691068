/-! # Reading numbers from plain text

The numbers a user types: whole numbers with an upper limit, and floats in decimal notation.  The
whole text has to be a number; blanks are not skipped. -/

namespace Artillery.Decimal

/-- The value of a decimal digit. -/
def digit? (c : Char) : Option Nat :=
  if '0' ≤ c ∧ c ≤ '9' then some (c.toNat - '0'.toNat) else none

/-- The value of a run of decimal digits. -/
def digitsValue (cs : List Char) : Nat :=
  cs.foldl (fun n c => 10 * n + (digit? c).getD 0) 0

/-- Splits off the decimal digits in front. -/
def spanDigits (cs : List Char) : List Char × List Char := cs.span (fun c => (digit? c).isSome)

/-- A whole number in `0 .. max`; a plus sign may stand in front. -/
def natural? (max : Nat) (text : String) : Option Nat :=
  let body := match text.toList with
    | '+' :: rest => rest
    | cs => cs
  let (ds, rest) := spanDigits body
  let n := digitsValue ds
  if ds ≠ [] ∧ rest = [] ∧ n ≤ max then some n else none

/-- The float nearest to `m · 10 ^ e`.  Exponents out of the range of floats are settled without
computing the power. -/
def nearestFloat (m : Nat) (e : Int) : Float :=
  let size := (toString m).length + e
  if m = 0 ∨ size < -400 then 0
  else if 400 < size then 1 / 0
  else Float.ofScientific m (e < 0) e.natAbs

/-- The exponent part after a mantissa: nothing, or a mark, a sign and at least one digit. -/
def exponent? : List Char → Option Int
  | [] => some 0
  | mark :: cs =>
    if mark = 'e' ∨ mark = 'E' then
      let (sign, cs) : Int × List Char := match cs with
        | '-' :: rest => (-1, rest)
        | '+' :: rest => (1, rest)
        | _ => (1, cs)
      let (ds, rest) := spanDigits cs
      if ds ≠ [] ∧ rest = [] then some (sign * digitsValue ds) else none
    else none

/-- A number without its sign: an infinity, NaN, or digits with an optional point and exponent.
Digits may be missing on one side of the point. -/
def magnitude? (cs : List Char) : Option Float :=
  let word := String.ofList (cs.map Char.toLower)
  if word = "inf" ∨ word = "infinity" then some (1 / 0)
  else if word = "nan" then some (0 / 0)
  else
    let (whole, rest) := spanDigits cs
    let (fraction, rest) := match rest with
      | '.' :: rest => spanDigits rest
      | _ => ([], rest)
    if whole = [] ∧ fraction = [] then none
    else
      (exponent? rest).map fun e =>
        nearestFloat (digitsValue (whole ++ fraction)) (e - fraction.length)

/-- A float, with an optional sign in front. -/
def float? (text : String) : Option Float :=
  match text.toList with
  | '-' :: rest => (magnitude? rest).map (- ·)
  | '+' :: rest => magnitude? rest
  | cs => magnitude? cs

end Artillery.Decimal
