import Mathlib.Data.Rat.Floor
import Artillery.Proofs.Number.Packing

/-!
# The numbers that floats stand for

Every finite float stands for a rational number, and the result of an operation on floats is the
result of the same operation on numbers, rounded.  Integers of at most 53 bits are exact, and an
interval between two of them is not left.

## Key results

- `HasValue.add`, `HasValue.sub`, `HasValue.mul`, `HasValue.div`: operations on floats are rounded
  operations on numbers
- `Rounded.int`, `Rounded.half`, `Rounded.within`: what that says about integers, about their halves
  and about intervals
- `Rounded.near`, `Rounded.near_mul`: how far a result is off
- `hasValue_ofNat`, `hasValue_ofInt`: integers are exact
- `floor_eq`, `floor_within`: the integer below a float is the integer below its number
-/

namespace Artillery.Quantity

open Float.Model (Format UnpackedFloat totalExponent)
open Float.Model.UnpackedFloat

/-! ## Operations on unpacked floats -/

/-- One factor with all its bits is enough for a product. -/
theorem le_log2_mul {a b : Nat} (ha : 2 ^ 52 ≤ a) (hb : 0 < b) : 52 ≤ (a * b).log2 := by
  have hab : 2 ^ 52 ≤ a * b := ha.trans (Nat.le_mul_of_pos_right a hb)
  exact (Nat.le_log2 (by omega)).2 hab

/-- A dividend that has been shifted far enough leaves the quotient 53 bits. -/
theorem le_log2_div {m n d : Nat} (hm : 0 < m) (hn : 0 < n) (hd : n.log2 + 53 ≤ m.log2 + d) :
    52 ≤ (m <<< d / n).log2 := by
  -- The divisor is less than the power of two above it, and the dividend no less than the one
  -- below.
  have hquotient : 2 ^ 52 ≤ m <<< d / n := by
    rw [Nat.le_div_iff_mul_le hn, Nat.shiftLeft_eq]
    calc 2 ^ 52 * n ≤ 2 ^ 52 * 2 ^ (n.log2 + 1) := Nat.mul_le_mul_left _ Nat.lt_log2_self.le
      _ = 2 ^ (n.log2 + 53) := by
        rw [← Nat.pow_add]
        congr 1
        omega
      _ ≤ 2 ^ (m.log2 + d) := Nat.pow_le_pow_right Nat.two_pos hd
      _ = 2 ^ m.log2 * 2 ^ d := Nat.pow_add ..
      _ ≤ m * 2 ^ d := Nat.mul_le_mul_right _ (Nat.log2_self_le hm.ne')
  exact (Nat.le_log2 (by omega)).2 hquotient

/-- A mantissa brought to a smaller exponent. -/
theorem apply_shiftLeft (s : Sign) (m : Nat) {e f : Int} (h : f ≤ e) :
    ((s.apply m : Int) : ℚ) * 2 ^ e = (s.apply (m <<< (e - f).toNat : Nat) : Int) * 2 ^ f := by
  obtain ⟨d, rfl⟩ := Int.le.dest h
  rw [show (f + d - f).toNat = d by omega, apply_eq, apply_eq s (m <<< d), Nat.shiftLeft_eq,
    zpow_add₀ two_ne_zero, zpow_natCast]
  push_cast
  ring

section

variable {u v : UnpackedFloat} {p q : ℚ}

/-- The sign is a part of its own, and changing it is exact. -/
theorem Denotes.neg (h : Denotes u p) : Denotes u.neg (-p) := by
  cases h with
  | zero =>
    rw [neg_zero]
    exact .zero
  | finite hcanonical =>
    rw [← neg_mul, ← apply_neg]
    exact .finite hcanonical

/-- So is dropping it. -/
theorem Denotes.abs (h : Denotes u p) : Denotes u.abs |p| := by
  cases h with
  | zero =>
    rw [abs_zero]
    exact .zero
  | finite hcanonical =>
    rw [abs_apply]
    exact .finite (s := .positive) hcanonical

/-- Sums are rounded once. -/
theorem Denotes.add (hu : Denotes u p) (hv : Denotes v q) :
    ∃ r, Denotes (UnpackedFloat.add .binary64 u v) r ∧ RoundsTo (p + q) r := by
  cases hu with
  | @zero s =>
    cases hv with
    | @zero t =>
      rw [add_zero]
      refine ⟨0, ?_, .refl 0⟩
      cases s <;> cases t <;> exact .zero
    | finite hcanonical =>
      rw [zero_add]
      exact ⟨_, .finite hcanonical, .refl _⟩
  | @finite s m e hm hcanonical =>
    cases hv with
    | zero =>
      rw [add_zero]
      exact ⟨_, .finite hcanonical, .refl _⟩
    | @finite t n f hn =>
      -- Both are brought to the smaller exponent, on which the sum is an integer.
      have hvalue : ((s.apply m : Int) : ℚ) * 2 ^ e + (t.apply n : Int) * 2 ^ f =
          ((s.apply (m <<< (e - min e f).toNat : Nat) + t.apply (n <<< (f - min e f).toNat : Nat) :
            Int) : ℚ) * 2 ^ min e f := by
        rw [Int.cast_add, add_mul, ← apply_shiftLeft s m (min_le_left e f),
          ← apply_shiftLeft t n (min_le_right e f)]
      rw [hvalue]
      exact normalize_rounds _ _ _

/-- To subtract is to add with the other sign. -/
theorem unpackedSub_eq (format : Format) (u v : UnpackedFloat) :
    UnpackedFloat.sub format u v = UnpackedFloat.add format u v.neg := by
  have hsigned (k : Int) (t : Sign) (n : Int) : k - t.apply n = k + (-t).apply n := by
    cases t with
    | negative => exact Int.sub_neg k n
    | positive => exact Int.sub_eq_add_neg
  cases u <;> cases v <;> try rfl
  case finite.finite s m e _ t n f _ =>
    exact congrArg (UnpackedFloat.normalize format · (min e f) .positive) (hsigned _ t _)

/-- Differences are sums. -/
theorem Denotes.sub (hu : Denotes u p) (hv : Denotes v q) :
    ∃ r, Denotes (UnpackedFloat.sub .binary64 u v) r ∧ RoundsTo (p - q) r := by
  rw [unpackedSub_eq, sub_eq_add_neg]
  exact hu.add hv.neg

/-- Products are rounded once. -/
theorem Denotes.mul (hu : Denotes u p) (hv : Denotes v q) :
    ∃ r, Denotes (UnpackedFloat.mul .binary64 u v) r ∧ RoundsTo (p * q) r := by
  cases hu with
  | zero =>
    rw [zero_mul]
    refine ⟨0, ?_, .refl 0⟩
    cases hv <;> exact .zero
  | @finite s m e hm hcanonical =>
    cases hv with
    | zero =>
      rw [mul_zero]
      exact ⟨0, .zero, .refl 0⟩
    | @finite t n f hn hcanonical' =>
      have hvalue : ((s.apply m : Int) : ℚ) * 2 ^ e * ((t.apply n : Int) * 2 ^ f) =
          ((s * t).apply 1 : Int) * ((m * n : Nat) * 2 ^ (e + f)) := by
        rw [apply_eq, apply_eq t, apply_mul, zpow_add₀ two_ne_zero]
        push_cast
        ring
      rw [hvalue]
      -- The product lacks bits only if both factors do, and then its exponent is low enough.
      refine roundWithAccuracy_rounds _ (.ofExact _) ?_
      obtain hm' | rfl := hcanonical.full
      · exact .inl (le_log2_mul hm' hn)
      · obtain hn' | rfl := hcanonical'.full
        · exact .inl (Nat.mul_comm m n ▸ le_log2_mul hn' hm)
        · exact .inr (by omega)

/-- Quotients are rounded once, by what is left of the division. -/
theorem Denotes.div (hu : Denotes u p) (hv : Denotes v q) (hq : q ≠ 0) :
    ∃ r, Denotes (UnpackedFloat.div .binary64 u v) r ∧ RoundsTo (p / q) r := by
  cases hv with
  | zero => exact absurd rfl hq
  | @finite t n f hn =>
    cases hu with
    | zero =>
      rw [zero_div]
      exact ⟨0, .zero, .refl 0⟩
    | @finite s m e hm =>
      -- The dividend is shifted to an exponent at which the quotient has all its bits.
      obtain ⟨k, hk⟩ : ∃ k : Int, min (e - f)
          (max ((m.log2 + 1 + e) - (n.log2 + 1 + f) - 53) (-1074)) = k := ⟨_, rfl⟩
      obtain ⟨d, hd⟩ : ∃ d : Nat, e - f = k + d := ⟨(e - f - k).toNat, by omega⟩
      have hdiv : UnpackedFloat.div .binary64 (.finite s m e hm) (.finite t n f hn) =
          roundWithAccuracy .binary64 (s / t) (m <<< d / n) k
            (accuracyOfFraction (m <<< d % n) n) := by
        obtain rfl : d = (e - f - k).toNat := by omega
        subst hk
        rfl
      have hvalue : ((s.apply m : Int) : ℚ) * 2 ^ e / ((t.apply n : Int) * 2 ^ f) =
          ((s / t).apply 1 : Int) * (((m <<< d : Nat) : ℚ) / n * 2 ^ k) := by
        have hn' : (n : ℚ) ≠ 0 := by exact_mod_cast hn.ne'
        have ht : ((t.apply 1 : Int) : ℚ) ≠ 0 := by cases t <;> simp [Sign.apply]
        have he : (2 : ℚ) ^ e = 2 ^ f * (2 ^ k * 2 ^ d) := by
          rw [← zpow_natCast, ← zpow_add₀ two_ne_zero, ← hd, ← zpow_add₀ two_ne_zero]
          congr 1
          omega
        rw [apply_eq, apply_eq t, apply_div, Nat.shiftLeft_eq, he]
        push_cast
        field_simp
      rw [hvalue, hdiv]
      refine roundWithAccuracy_rounds _ (.ofFraction hn) ?_
      by_cases hlow : k ≤ -1074
      · exact .inr hlow
      · exact .inl (le_log2_div hm hn (by omega))

end

/-! ## Floats -/

/-- The number that a float stands for. -/
def HasValue (x : Float) (q : ℚ) : Prop := Denotes x.toModel.unpack q

/-- The number of a float is not too large, and it can be represented. -/
theorem HasValue.lt_limit {x : Float} {q : ℚ} (h : HasValue x q) : |q| < 2 ^ 1024 :=
  Denotes.lt_limit h (fits_unpack _)

/-- The value of a float is one that floats have. -/
theorem HasValue.representable {x : Float} {q : ℚ} (h : HasValue x q) : Representable q :=
  Denotes.representable h

/-- A float is a number rounded, unless that number is too large. -/
def Rounded (x : Float) (v : ℚ) : Prop := |v| ≤ 2 ^ 1023 → ∃ r, HasValue x r ∧ RoundsTo v r

/-- A result is packed into a float, which is infinite where it is too large. -/
theorem rounded_pack {x : Float} {u : UnpackedFloat} {v : ℚ}
    (hx : x.toModel.unpack = unpack .binary64 (UnpackedFloat.pack .binary64 u))
    (h : ∃ q, Denotes u q ∧ RoundsTo v q) : Rounded x v := by
  obtain ⟨q, hq, hround⟩ := h
  refine fun hv => ⟨q, ?_, hround⟩
  unfold HasValue
  rw [hx]
  exact hq.pack (lt_of_le_of_lt (hround.bounded hv) (pow_lt_pow_right₀ one_lt_two (by omega)))

/-- Integers of 53 bits are far from too large. -/
theorem abs_int_le {n : Int} (hn : n.natAbs < 2 ^ 53) : |(n : ℚ)| ≤ 2 ^ 1023 := by
  have habs : |(n : ℚ)| = (n.natAbs : Nat) := by
    rw [← Int.cast_abs, Int.abs_eq_natAbs, Int.cast_natCast]
  rw [habs]
  calc ((n.natAbs : Nat) : ℚ) ≤ 2 ^ 53 := by exact_mod_cast hn.le
    _ ≤ 2 ^ 1023 := pow_le_pow_right₀ one_le_two (by omega)

section

variable {x y : Float} {p q v : ℚ}

/-- Results that are integers of at most 53 bits are exact. -/
theorem Rounded.int {n : Int} (h : Rounded x n) (hn : n.natAbs < 2 ^ 53) : HasValue x n := by
  obtain ⟨r, hr, hround⟩ := h (abs_int_le hn)
  exact hround.exact (representable_int hn) ▸ hr

/-- So are halves of integers. -/
theorem Rounded.half {n : Int} (h : Rounded x (n / 2)) (hn : n.natAbs < 2 ^ 53) :
    HasValue x (n / 2) := by
  have hsize : |(n : ℚ) / 2| ≤ 2 ^ 1023 := by
    rw [abs_div, abs_two]
    exact (half_le_self (abs_nonneg _)).trans (abs_int_le hn)
  obtain ⟨r, hr, hround⟩ := h hsize
  rwa [hround.exact ⟨n, -1, hn, by omega, by rw [zpow_neg_one, div_eq_mul_inv]⟩] at hr

/-- Rounding does not leave an interval between two integers. -/
theorem Rounded.within {lo hi : Int} (h : Rounded x v) (hlo : lo.natAbs < 2 ^ 53)
    (hhi : hi.natAbs < 2 ^ 53) (hle : lo ≤ v) (hge : v ≤ hi) :
    ∃ r, HasValue x r ∧ lo ≤ r ∧ r ≤ hi := by
  have hleast : -2 ^ 1023 ≤ v := (neg_le_of_abs_le (abs_int_le hlo)).trans hle
  have hmost : v ≤ 2 ^ 1023 := hge.trans (le_of_abs_le (abs_int_le hhi))
  obtain ⟨r, hr, hround⟩ := h (abs_le.2 ⟨hleast, hmost⟩)
  have hle' := (hround lo (representable_int hlo)).2 hle
  have hge' := (hround hi (representable_int hhi)).1 hge
  exact ⟨r, hr, hle', hge'⟩

/-- A result of at most 32 bits is off by no more than one millionth. -/
theorem Rounded.near (h : Rounded x v) (hv : |v| ≤ 2 ^ 32) :
    ∃ r, HasValue x r ∧ |r - v| ≤ 1 / 2 ^ 20 := by
  obtain ⟨r, hr, hround⟩ := h (hv.trans (pow_le_pow_right₀ one_le_two (by omega)))
  have hgrid (n : Int) (hn : n.natAbs < 2 ^ 53) : Representable ((n : ℚ) / 2 ^ 20) :=
    ⟨n, -20, hn, by omega, by rw [zpow_neg, div_eq_mul_inv]; rfl⟩
  obtain ⟨n, hn⟩ : ∃ n, ⌊v * 2 ^ 20⌋ = n := ⟨_, rfl⟩
  obtain ⟨hfloor, hceil⟩ := Int.floor_eq_iff.1 hn
  obtain ⟨hleast, hmost⟩ := abs_le.1 hv
  have hlow : -2 ^ 52 - 1 < n := by
    have : (-2 ^ 52 - 1 : ℚ) < n := by linarith
    exact_mod_cast this
  have hhigh : n ≤ 2 ^ 52 := by
    have : (n : ℚ) ≤ 2 ^ 52 := by linarith
    exact_mod_cast this
  -- Rounding passes neither of the two neighbours on a grid that floats resolve.
  have hbelow : (n : ℚ) / 2 ^ 20 ≤ r := (hround _ (hgrid n (by omega))).2 (by linarith)
  have habove : r ≤ ((n + 1 : Int) : ℚ) / 2 ^ 20 :=
    (hround _ (hgrid (n + 1) (by omega))).1 (by push_cast; linarith)
  push_cast at habove
  exact ⟨r, hr, abs_le.2 ⟨by linarith, by linarith⟩⟩

/-- The operations on floats are those on their parts. -/
theorem HasValue.neg (hx : HasValue x p) : HasValue (-x) (-p) :=
  (Denotes.neg hx).pack (by rw [abs_neg]; exact hx.lt_limit)

/-- The absolute value is exact. -/
theorem HasValue.abs (hx : HasValue x p) : HasValue x.abs |p| :=
  (Denotes.abs hx).pack (by rw [abs_abs]; exact hx.lt_limit)

/-- A sum is rounded once. -/
theorem HasValue.add (hx : HasValue x p) (hy : HasValue y q) : Rounded (x + y) (p + q) :=
  rounded_pack rfl (Denotes.add hx hy)

/-- A difference is rounded once. -/
theorem HasValue.sub (hx : HasValue x p) (hy : HasValue y q) : Rounded (x - y) (p - q) :=
  rounded_pack rfl (Denotes.sub hx hy)

/-- A product is rounded once. -/
theorem HasValue.mul (hx : HasValue x p) (hy : HasValue y q) : Rounded (x * y) (p * q) :=
  rounded_pack rfl (Denotes.mul hx hy)

/-- A quotient is rounded once. -/
theorem HasValue.div (hx : HasValue x p) (hy : HasValue y q) (hq : q ≠ 0) :
    Rounded (x / y) (p / q) :=
  rounded_pack rfl (Denotes.div hx hy hq)

/-- A rounded number times a small one, rounded again, is still close to the product. -/
theorem Rounded.near_mul (hx : Rounded x p) (hy : HasValue y q) (hp : 0 ≤ p ∧ p ≤ 2 ^ 31)
    (hq : 0 ≤ q ∧ q ≤ 10) (hpq : p * q ≤ 2 ^ 31) :
    ∃ r, HasValue (x * y) r ∧ |r - p * q| ≤ 11 / 2 ^ 20 := by
  obtain ⟨s, hs, hfirst⟩ := hx.near (abs_le.2 ⟨by linarith, by linarith⟩)
  -- The first rounding error is scaled with the small factor, and a second one is added to it.
  have hscaled : |s * q - p * q| ≤ 10 / 2 ^ 20 := by
    rw [← sub_mul, abs_mul, abs_of_nonneg hq.1]
    calc |s - p| * q ≤ 1 / 2 ^ 20 * 10 := mul_le_mul hfirst hq.2 hq.1 (by positivity)
      _ = 10 / 2 ^ 20 := by ring
  obtain ⟨hlow, hhigh⟩ := abs_le.1 hscaled
  have hpos : 0 ≤ p * q := mul_nonneg hp.1 hq.1
  obtain ⟨r, hr, hsecond⟩ := (hs.mul hy).near (abs_le.2 ⟨by linarith, by linarith⟩)
  refine ⟨r, hr, (abs_sub_le r (s * q) (p * q)).trans ?_⟩
  linarith

end

/-- Powers of two are exact where their bits say so. -/
theorem hasValue_two_zpow {x : Float} {e : Int} (hleast : -1074 ≤ e)
    (h : x.toModel.unpack = .finite .positive (2 ^ 52) e (by decide)) :
    HasValue x (2 ^ (e + 52)) := by
  have hvalue : (2 : ℚ) ^ (e + 52) = (Sign.positive.apply (2 ^ 52 : Nat) : Int) * 2 ^ e := by
    rw [zpow_add₀ two_ne_zero, mul_comm]
    norm_num [Sign.apply]
  unfold HasValue
  rw [h, hvalue]
  exact .finite ⟨by decide, hleast, .inl le_rfl⟩

/-- Natural numbers of at most 53 bits are exact. -/
theorem hasValue_ofNat {n : Nat} (hn : n < 2 ^ 53) : HasValue (Float.ofNat n) n := by
  -- The conversion goes through a word of 64 bits and a product with one.
  have hword : HasValue n.toUInt64.toFloat n := by
    have hn' : n.toUInt64.toNat = n := by
      show n % 2 ^ 64 = n
      omega
    have hround : Rounded n.toUInt64.toFloat ((n : Int) * 2 ^ (0 : Int)) :=
      rounded_pack (u := .normalize .binary64 (n.toUInt64.toNat : Int) 0 .positive) rfl
        (hn'.symm ▸ normalize_rounds n 0 .positive)
    rw [zpow_zero, mul_one] at hround
    exact hround.int (by omega)
  have hone : HasValue Float.exactlyRepresentablePowersOfTen[0] 1 :=
    hasValue_two_zpow (e := -52) (by decide) rfl
  show HasValue (Float.ofScientific n false 0) n
  unfold Float.ofScientific
  rw [dif_pos ⟨hn, by omega⟩]
  have hproduct := hword.mul hone
  rw [mul_one] at hproduct
  exact Rounded.int (n := n) hproduct (by omega)

/-- The constants of the simulation have the values that they are written with. -/
theorem hasValue_zero : HasValue 0 0 := hasValue_ofNat (n := 0) (by decide)

theorem hasValue_one : HasValue 1 1 := hasValue_ofNat (n := 1) (by decide)

theorem hasValue_two : HasValue 2 2 := hasValue_ofNat (n := 2) (by decide)

/-- So are integers. -/
theorem hasValue_ofInt {n : Int} (hn : n.natAbs < 2 ^ 53) : HasValue (ofInt n) n := by
  cases n with
  | ofNat n => exact hasValue_ofNat hn
  | negSucc n =>
    have hneg := (hasValue_ofNat (n := n + 1) hn).neg
    rw [Int.negSucc_eq]
    push_cast at hneg ⊢
    exact hneg

/-- One half is exact. -/
theorem hasValue_half : HasValue 0.5 (1 / 2) := by
  have hvalue := hasValue_two_zpow (x := 0.5) (e := -53) (by decide) rfl
  norm_num at hvalue ⊢
  exact hvalue

/-! ## The integer below -/

/-- A dyadic number is the fraction that its floor is computed from. -/
theorem ratio_value (d : Dyadic) :
    ∃ a m : Nat, d.ratio = (a, m) ∧ 0 < m ∧ (d.significand : ℚ) * 2 ^ d.exponent = a / m := by
  obtain ⟨negative, n, e⟩ := d
  refine ⟨_, _, rfl, by rw [Nat.one_shiftLeft]; exact Nat.two_pow_pos _, ?_⟩
  rw [Nat.shiftLeft_eq, Nat.one_shiftLeft]
  push_cast
  -- One of the two shifts moves nothing.
  obtain ⟨k, rfl⟩ | ⟨k, rfl⟩ : (∃ k : Nat, e = k) ∨ ∃ k : Nat, e = -k := by
    obtain h | h := le_total 0 e
    · exact .inl ⟨e.toNat, by omega⟩
    · exact .inr ⟨(-e).toNat, by omega⟩
  · rw [show (-(k : Int)).toNat = 0 by omega, Int.toNat_natCast, zpow_natCast, pow_zero, div_one]
  · rw [show (-(k : Int)).toNat = 0 by omega, neg_neg, Int.toNat_natCast, zpow_neg, zpow_natCast,
      pow_zero, mul_one, div_eq_mul_inv]

/-- The integer above a fraction. -/
theorem ceil_fraction (a : Nat) {m : Nat} (hm : 0 < m) :
    ⌈(a : ℚ) / m⌉ = ((a + (m - 1)) / m : Nat) := by
  have hm' : (0 : ℚ) < m := by exact_mod_cast hm
  have hlow := Nat.div_mul_le_self (a + (m - 1)) m
  have hhigh := Nat.lt_mul_div_succ (a + (m - 1)) hm
  -- The quotient is only known by the remainder that it leaves.
  generalize (a + (m - 1)) / m = c at hlow hhigh
  rw [Nat.mul_succ, Nat.mul_comm m c] at hhigh
  have hbelow : (c * m : ℚ) < a + m := by exact_mod_cast (show c * m < a + m by omega)
  have habove : (a : ℚ) ≤ c * m := by exact_mod_cast (show a ≤ c * m by omega)
  rw [Int.ceil_eq_iff, lt_div_iff₀ hm', div_le_iff₀ hm', Int.cast_natCast]
  exact ⟨by linarith, habove⟩

/-- The floor of a dyadic number is computed exactly. -/
theorem floor_dyadic (d : Dyadic) : d.floor = ⌊dyadicValue d⌋ := by
  obtain ⟨a, m, hratio, hm, hvalue⟩ := ratio_value d
  have hfloor : d.floor =
      if d.negative then -(((a + (m - 1)) / m : Nat) : Int) else ((a / m : Nat) : Int) := by
    unfold Dyadic.floor Dyadic.signed
    rw [hratio]
    cases d.negative <;> rfl
  rw [hfloor, dyadicValue, hvalue]
  -- Below zero the floor is the integer above the fraction, with its sign changed.
  cases d.negative with
  | false =>
    show ((a / m : Nat) : Int) = ⌊1 * ((a : ℚ) / m)⌋
    rw [one_mul, Rat.floor_natCast_div_natCast, Int.natCast_ediv]
  | true =>
    show -(((a + (m - 1)) / m : Nat) : Int) = ⌊-1 * ((a : ℚ) / m)⌋
    rw [neg_one_mul, Int.floor_neg, ceil_fraction a hm]

/-- The fields of a float say what it stands for. -/
theorem ofFloat?_value {x : Float} {q : ℚ} (h : HasValue x q) :
    ∃ d, Dyadic.ofFloat? x = some d ∧ Stored d ∧ dyadicValue d = q := by
  obtain ⟨hfinite, hrest⟩ := unpack_fields x.toBits.toBitVec
  rw [ofFloat?_eq]
  cases hd : fieldsOf x.toBits.toNat with
  | none =>
    exact nomatch (hrest hd).symm.trans (Denotes.isFinite h)
  | some d =>
    obtain ⟨hstored, hvalue⟩ := hfinite d hd
    exact ⟨d, rfl, hstored, hvalue.unique h⟩

/-- The integer below a float is the integer below its number, as far as integers reach. -/
theorem floor_eq {x : Float} {q : ℚ} (h : HasValue x q) : floor x = saturate ⌊q⌋ := by
  obtain ⟨d, hd, _, rfl⟩ := ofFloat?_value h
  unfold floor integer
  rw [hd, ← floor_dyadic]

/-- A rounded number between two integers of 32 bits has its floor between them. -/
theorem floor_within {x : Float} {v : ℚ} {lo hi : Int} (h : Rounded x v) (hlo : least ≤ lo)
    (hhi : hi ≤ greatest) (hle : lo ≤ v) (hge : v ≤ hi) : lo ≤ floor x ∧ floor x ≤ hi := by
  have hlohi : lo ≤ hi := by exact_mod_cast hle.trans hge
  unfold least at hlo
  unfold greatest at hhi
  obtain ⟨r, hr, hle', hge'⟩ := h.within (by omega) (by omega) hle hge
  have hbelow : lo ≤ ⌊r⌋ := Int.le_floor.2 hle'
  have habove : ⌊r⌋ ≤ hi := by exact_mod_cast (Int.floor_le r).trans hge'
  -- The floor that is taken saturates at 32 bits, which both bounds are within.
  rw [floor_eq hr]
  unfold saturate least greatest
  omega

end Artillery.Quantity
