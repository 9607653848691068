import Artillery.Number.Dyadic

/-! # Decimal text with a fixed number of places

`fixed places x` is the decimal expansion of the exact value of `x`, rounded once, a half to the
even neighbour. -/

namespace Artillery.Decimal

/-- The integer nearest to `num / den`; of two equally near ones the even one. -/
def roundHalfEven (num den : Nat) : Nat :=
  let q := num / den
  let r := num % den
  if 2 * r < den then q else if den < 2 * r then q + 1 else if q % 2 = 0 then q else q + 1

/-- The decimal digits of `n`, with zeros in front up to `width` characters. -/
def padded (width n : Nat) : String :=
  let digits := toString n
  "".pushn '0' (width - digits.length) ++ digits

/-- Text of a finite float with `places` digits after the point, never with an exponent.  What
rounds to zero is written without a sign; infinities and NaN have no text. -/
def fixed (places : Nat) (x : Float) : Option String := do
  let d ← Dyadic.ofFloat? x
  let (num, den) := d.ratio
  let unit := Nat.pow 10 places
  let n := roundHalfEven (num * unit) den
  let sign := if d.negative ∧ n ≠ 0 then "-" else ""
  return sign ++ toString (n / unit) ++ "." ++ padded places (n % unit)

end Artillery.Decimal
