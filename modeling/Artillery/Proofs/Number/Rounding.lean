import Mathlib.Algebra.Order.Field.Power
import Mathlib.Data.Nat.Cast.Order.Field
import Mathlib.Tactic.FieldSimp
import Mathlib.Tactic.Linarith
import Mathlib.Tactic.Positivity
import Mathlib.Tactic.Ring
import Artillery.Proofs.Number.Magnitude

/-!
# Rounding

An exact result is cut to 53 bits, and two more bits tell what was cut off.  Rounding goes to one of
the two neighbours of the exact result, so no number that can be represented comes to lie between
the two: what was below it stays below, what was above stays above, and what was equal stays equal.

## Key results

- `Keeps.shiftRight`, `Keeps.ofFraction`: what the two bits say is true
- `roundWithAccuracy_rounds`, `normalize_rounds`: a rounded result stays on the same side of every
  representable number
- `RoundsTo.exact`: a representable number is not changed by rounding
-/

namespace Artillery.Quantity

open Float.Model (Format UnpackedFloat totalExponent)
open Float.Model.UnpackedFloat

/-! ## Cutting off -/

/-- What an extended mantissa keeps of a number: its integer part, and whether there was anything
beside it. -/
structure Keeps (em : ExtendedMantissa) (w : ℚ) : Prop where
  le : (em.mantissa : ℚ) ≤ w
  lt : w < em.mantissa + 1
  exact : w = em.mantissa → em.roundBit = false ∧ em.stickyBit = false

/-- The mantissa stays the same when its accuracy is noted. -/
theorem mantissa_ofMantissaAndAccuracy (m : Nat) (acc : Accuracy) :
    (ExtendedMantissa.ofMantissaAndAccuracy m acc).mantissa = m := by
  unfold ExtendedMantissa.ofMantissaAndAccuracy
  split <;> rfl

/-- An exact number is kept by itself. -/
theorem Keeps.ofExact (m : Nat) : Keeps (.ofMantissaAndAccuracy m .exact) m :=
  ⟨le_refl _, lt_add_one _, fun _ => ⟨rfl, rfl⟩⟩

/-- The quotient of two mantissas with what the remainder says about it. -/
theorem Keeps.ofFraction {m n : Nat} (hn : 0 < n) :
    Keeps (.ofMantissaAndAccuracy (m / n) (accuracyOfFraction (m % n) n)) (m / n) := by
  have hpos : (0 : ℚ) < n := by exact_mod_cast hn
  refine ⟨?_, ?_, fun h => ?_⟩ <;> rw [mantissa_ofMantissaAndAccuracy] at *
  · exact Nat.cast_div_le
  · rw [div_lt_iff₀ hpos, mul_comm]
    exact_mod_cast Nat.lt_mul_div_succ m hn
  · rw [div_eq_iff hpos.ne'] at h
    -- Only where the division leaves nothing the quotient is the whole value.
    have hexact : m = m / n * n := by exact_mod_cast h
    have hmod : m % n = 0 := by
      rw [hexact]
      exact Nat.mul_mod_left _ _
    rw [hmod]
    exact ⟨rfl, rfl⟩

section

variable {em : ExtendedMantissa} {w : ℚ}

/-- The bit that is shifted out becomes the round bit, and the others go into the sticky bit. -/
theorem Keeps.shiftRightOne (h : Keeps em w) : Keeps em.shiftRightOne (w / 2) := by
  obtain ⟨m, roundBit, stickyBit⟩ := em
  obtain ⟨hle, hlt, hexact⟩ := h
  dsimp only at hle hlt hexact
  have hsplit : (m : ℚ) = 2 * (m / 2 : Nat) + (m % 2 : Nat) := by
    exact_mod_cast (Nat.div_add_mod m 2).symm
  obtain heven | hodd := Nat.mod_two_eq_zero_or_one m
  · rw [heven, Nat.cast_zero, add_zero] at hsplit
    refine ⟨?_, ?_, fun hw => ?_⟩
    · show ((m / 2 : Nat) : ℚ) ≤ w / 2
      linarith
    · show w / 2 < ((m / 2 : Nat) : ℚ) + 1
      linarith
    · -- Nothing was beside an even mantissa if nothing is beside its half.
      change w / 2 = ((m / 2 : Nat) : ℚ) at hw
      obtain ⟨rfl, rfl⟩ := hexact (by linarith)
      show (m % 2 != 0) = false ∧ (false || false) = false
      rw [heven]
      exact ⟨rfl, rfl⟩
  · rw [hodd, Nat.cast_one] at hsplit
    refine ⟨?_, ?_, fun hw => ?_⟩
    · show ((m / 2 : Nat) : ℚ) ≤ w / 2
      linarith
    · show w / 2 < ((m / 2 : Nat) : ℚ) + 1
      linarith
    · change w / 2 = ((m / 2 : Nat) : ℚ) at hw
      linarith

/-- Bits that are shifted out one after another are remembered together. -/
theorem Keeps.shiftRight (h : Keeps em w) (s : Nat) : Keeps (em >>> s) (w / 2 ^ s) := by
  show Keeps (s.repeat ExtendedMantissa.shiftRightOne em) _
  induction s with
  | zero =>
    rw [pow_zero, div_one]
    exact h
  | succ s ih =>
    rw [pow_succ, ← div_div]
    exact ih.shiftRightOne

/-- Rounding does not pass an integer above. -/
theorem Keeps.rounded_le (h : Keeps em w) {n : Nat} (hn : w ≤ n) : em.roundedMantissa ≤ n := by
  -- Either nothing was cut off, or an integer above the number is above the mantissa.
  by_cases hexact : w = em.mantissa
  · obtain ⟨hround, hsticky⟩ := h.exact hexact
    have hrounded : em.roundedMantissa = em.mantissa := by
      obtain ⟨m, _, _⟩ := em
      subst hround hsticky
      rfl
    rw [hrounded]
    exact_mod_cast hexact ▸ hn
  · have hlt : (em.mantissa : ℚ) < n := lt_of_lt_of_le (lt_of_le_of_ne h.le (Ne.symm hexact)) hn
    have hsucc : em.mantissa + 1 ≤ n := by exact_mod_cast hlt
    refine le_trans ?_ hsucc
    obtain ⟨m, roundBit, stickyBit⟩ := em
    cases roundBit <;> cases stickyBit <;>
      simp only [ExtendedMantissa.roundedMantissa, ExtendedMantissa.accuracy,
        Accuracy.roundToNearestEven] <;> omega

/-- Rounding does not pass an integer below. -/
theorem Keeps.le_rounded (h : Keeps em w) {n : Nat} (hn : n ≤ w) : n ≤ em.roundedMantissa := by
  have hlt : (n : ℚ) < em.mantissa + 1 := lt_of_le_of_lt hn h.lt
  have hle : n < em.mantissa + 1 := by exact_mod_cast hlt
  exact le_trans (Nat.le_of_lt_succ hle) (mantissa_le_rounded em)

end

/-! ## Representable numbers -/

/-- A number with at most 53 bits, none of them below the last bit of floats. -/
def Representable (b : ℚ) : Prop :=
  ∃ (n : Int) (k : Int), n.natAbs < 2 ^ 53 ∧ -1074 ≤ k ∧ b = n * 2 ^ k

/-- The sign is free. -/
theorem Representable.neg {b : ℚ} (h : Representable b) : Representable (-b) := by
  obtain ⟨n, k, hn, hk, rfl⟩ := h
  exact ⟨-n, k, by omega, hk, by push_cast; ring⟩

/-- Integers of 53 bits are floats. -/
theorem representable_int {n : Int} (hn : n.natAbs < 2 ^ 53) : Representable n :=
  ⟨n, 0, hn, by omega, by rw [zpow_zero, mul_one]⟩

/-- The numbers up to `2 ^ 53` are no farther apart than 1. -/
theorem Representable.sub_one {b : ℚ} (h : Representable b) (hleast : 1 ≤ b) (hmost : b ≤ 2 ^ 53) :
    Representable (b - 1) := by
  obtain ⟨n, k, hn, hk, hb⟩ := h
  by_cases hfine : k ≤ 0
  · obtain ⟨j, rfl⟩ := Int.exists_eq_neg_ofNat hfine
    -- One is a multiple of the unit that the number is written in.
    have hgrid : b - 1 = (n - 2 ^ j : Int) * 2 ^ (-(j : Int)) := by
      rw [hb, zpow_neg, zpow_natCast]
      push_cast
      field_simp
    have hpos : (0 : Int) < 2 ^ j := by positivity
    have hnumerator : (0 : ℚ) ≤ (n - 2 ^ j : Int) := by
      refine nonneg_of_mul_nonneg_left (b := (2 : ℚ) ^ (-(j : Int))) ?_ (by positivity)
      linarith
    have hnonneg : (0 : Int) ≤ n - 2 ^ j := by exact_mod_cast hnumerator
    exact ⟨_, _, by omega, hk, hgrid⟩
  · -- Without a fraction the number is an integer, and so is its predecessor.
    obtain ⟨j, rfl⟩ : ∃ j : Nat, k = j := ⟨k.toNat, by omega⟩
    obtain ⟨i, hi⟩ : ∃ i : Int, b - 1 = i := by
      refine ⟨n * 2 ^ j - 1, ?_⟩
      rw [hb, zpow_natCast]
      push_cast
      ring
    have hlow : 0 ≤ i := by
      have : (0 : ℚ) ≤ i := by linarith
      exact_mod_cast this
    have hhigh : i < 2 ^ 53 := by
      have : (i : ℚ) < 2 ^ 53 := by linarith
      exact_mod_cast this
    rw [hi]
    exact representable_int (by omega)

/-- Rounding a number leaves it on the same side of every representable number. -/
def RoundsTo (v q : ℚ) : Prop := ∀ b, Representable b → (v ≤ b → q ≤ b) ∧ (b ≤ v → b ≤ q)

/-- A number that is kept as it is passes nothing. -/
theorem RoundsTo.refl (v : ℚ) : RoundsTo v v := fun _ _ => ⟨id, id⟩

/-- A number that can be represented is not changed. -/
theorem RoundsTo.exact {v q : ℚ} (h : RoundsTo v q) (hv : Representable v) : q = v :=
  le_antisymm ((h v hv).1 le_rfl) ((h v hv).2 le_rfl)

/-- Rounding is the same on both sides of zero. -/
theorem RoundsTo.neg {v q : ℚ} (h : RoundsTo v q) : RoundsTo (-v) (-q) := fun _ hb =>
  ⟨fun hv => neg_le.2 ((h _ hb.neg).2 (neg_le.1 hv)),
    fun hv => le_neg.2 ((h _ hb.neg).1 (le_neg.1 hv))⟩

/-- What is not too large is not rounded to anything too large. -/
theorem RoundsTo.bounded {v q : ℚ} (h : RoundsTo v q) (hv : |v| ≤ 2 ^ 1023) : |q| ≤ 2 ^ 1023 := by
  have hlimit : Representable (2 ^ 1023) :=
    ⟨1, 1023, by decide, by omega, by rw [Int.cast_one, one_mul]; rfl⟩
  rw [abs_le] at hv ⊢
  exact ⟨(h _ hlimit.neg).2 hv.1, (h _ hlimit).1 hv.2⟩

/-- What holds of the representable numbers that are not negative holds of all. -/
theorem RoundsTo.of_nonneg {v q : ℚ} (hv : 0 ≤ v) (hq : 0 ≤ q)
    (h : ∀ (n : Nat) (k : Int), n < 2 ^ 53 → -1074 ≤ k →
      (v ≤ n * 2 ^ k → q ≤ n * 2 ^ k) ∧ ((n : ℚ) * 2 ^ k ≤ v → (n : ℚ) * 2 ^ k ≤ q)) :
    RoundsTo v q := by
  rintro b ⟨n, k, hn, hk, rfl⟩
  obtain ⟨n, rfl⟩ | ⟨n, rfl⟩ : (∃ m : Nat, n = m) ∨ ∃ m : Nat, n = -(m + 1 : Int) := by
    obtain n | n := n
    · exact .inl ⟨n, rfl⟩
    · exact .inr ⟨n, Int.negSucc_eq n⟩
  · rw [Int.cast_natCast]
    exact h n k (by omega) hk
  · -- A negative number lies below both.
    have hneg : (((-(n + 1 : Int) : Int)) : ℚ) * 2 ^ k < 0 := by
      refine mul_neg_of_neg_of_pos ?_ (by positivity)
      push_cast
      linarith [Nat.cast_nonneg (α := ℚ) n]
    exact ⟨fun hb => absurd (hv.trans hb) (not_le.2 hneg), fun _ => hneg.le.trans hq⟩

/-! ## Signs -/

/-- A signed number is its size times the sign. -/
theorem apply_eq (s : Sign) (n : Nat) : ((s.apply n : Int) : ℚ) = s.apply 1 * n := by
  cases s <;> simp [Sign.apply]

/-- The other sign changes the number's. -/
theorem apply_neg (s : Sign) (n : Nat) : (((-s).apply n : Int) : ℚ) = -(s.apply n : Int) := by
  cases s with
  | negative =>
    show ((n : Int) : ℚ) = -((-(n : Int) : Int) : ℚ)
    simp
  | positive =>
    show ((-(n : Int) : Int) : ℚ) = -((n : Int) : ℚ)
    simp

/-- Signs are multiplied. -/
theorem apply_mul (s t : Sign) : (((s * t).apply 1 : Int) : ℚ) = s.apply 1 * t.apply 1 := by
  have hint : (s * t).apply 1 = s.apply 1 * t.apply 1 := by cases s <;> cases t <;> rfl
  rw [hint, Int.cast_mul]

/-- They are divided in the same way. -/
theorem apply_div (s t : Sign) : (((s / t).apply 1 : Int) : ℚ) = s.apply 1 / t.apply 1 := by
  have hmul : s / t = s * t := by cases s <;> cases t <;> rfl
  rw [hmul, apply_mul]
  cases s <;> cases t <;> simp [Sign.apply]

/-- A sign is taken through rounding. -/
theorem RoundsTo.signed {v q : ℚ} (s : Sign) (h : RoundsTo v q) :
    RoundsTo (s.apply 1 * v) (s.apply 1 * q) := by
  cases s with
  | negative => simpa [Sign.apply] using h.neg
  | positive => simpa [Sign.apply] using h

/-! ## Rounding -/

/-- A mantissa has 53 bits, or fewer at the least exponent. -/
structure Canonical (m : Nat) (e : Int) : Prop where
  bits : m < 2 ^ 53
  least : -1074 ≤ e
  full : 2 ^ 52 ≤ m ∨ e = -1074

/-- What has a smaller exponent lies below. -/
theorem Canonical.above {m n : Nat} {e k : Int} (h : Canonical m e) (hn : n < 2 ^ 53)
    (hk : -1074 ≤ k) (hke : k < e) : (n : ℚ) * 2 ^ k < m * 2 ^ e := by
  have hbits : 2 ^ 52 ≤ m := h.full.resolve_right (by omega)
  -- It has one bit more, or a unit of at least twice the size.
  calc (n : ℚ) * 2 ^ k < 2 ^ 53 * 2 ^ k :=
        mul_lt_mul_of_pos_right (by exact_mod_cast hn) (by positivity)
    _ = 2 ^ 52 * 2 ^ (k + 1) := by
        rw [zpow_add_one₀ two_ne_zero]
        ring
    _ ≤ 2 ^ 52 * 2 ^ e :=
        mul_le_mul_of_nonneg_left (zpow_le_zpow_right₀ one_le_two (by omega)) (by positivity)
    _ ≤ m * 2 ^ e := mul_le_mul_of_nonneg_right (by exact_mod_cast hbits) (by positivity)

/-- The number that an unpacked float in canonical form stands for; infinities and NaN stand for
none. -/
inductive Denotes : UnpackedFloat → ℚ → Prop
  | zero {s : Sign} : Denotes (.zero s) 0
  | finite {s : Sign} {m : Nat} {e : Int} {hm : 0 < m} (h : Canonical m e) :
    Denotes (.finite s m e hm) (s.apply m * 2 ^ e)

/-- A zero denotes nothing else, whatever its sign. -/
theorem Denotes.zero_eq {s : Sign} {q : ℚ} (h : Denotes (.zero s) q) : q = 0 := by
  cases h
  rfl

/-- A finite float denotes its mantissa, its exponent and its sign. -/
theorem Denotes.finite_eq {s : Sign} {m : Nat} {e : Int} {hm : 0 < m} {q : ℚ}
    (h : Denotes (.finite s m e hm) q) : q = s.apply m * 2 ^ e := by
  cases h
  rfl

/-- A mantissa is shifted to the exponent that leaves 53 bits, or to the least one. -/
theorem shiftToTargetExponent_eq {m s : Nat} {e : Int} (acc : Accuracy)
    (hs : (max (m.log2 + 1 + e - 53) (-1074) - e).toNat = s) :
    shiftToTargetExponent .binary64 m e acc =
      (ExtendedMantissa.ofMantissaAndAccuracy m acc >>> s, e + s) := by
  subst hs
  rfl

/-- A mantissa that has all its bits is cut to 53 bits, or at the last bit of floats. -/
theorem shift_keeps {m : Nat} {e : Int} {acc : Accuracy} {w : ℚ}
    (hkeeps : Keeps (.ofMantissaAndAccuracy m acc) w) (hm : 52 ≤ m.log2 ∨ e ≤ -1074) :
    ∃ em e₁ w₁, shiftToTargetExponent .binary64 m e acc = (em, e₁) ∧ Keeps em w₁ ∧
      w₁ * 2 ^ e₁ = w * 2 ^ e ∧ Canonical em.mantissa e₁ := by
  obtain ⟨s, hs⟩ : ∃ s : Nat, (max (m.log2 + 1 + e - 53) (-1074) - e).toNat = s := ⟨_, rfl⟩
  refine ⟨_, _, w / 2 ^ s, shiftToTargetExponent_eq acc hs, hkeeps.shiftRight s, ?_, ?_, ?_, ?_⟩
  · rw [zpow_add₀ two_ne_zero, zpow_natCast]
    field_simp
  · rw [mantissa_shiftRight, mantissa_ofMantissaAndAccuracy, Nat.shiftRight_eq_div_pow,
      Nat.div_lt_iff_lt_mul (Nat.two_pow_pos s), ← Nat.pow_add]
    exact lt_of_lt_of_le Nat.lt_log2_self (Nat.pow_le_pow_right Nat.two_pos (by omega))
  · omega
  · -- Above the least exponent the shift has been made so that the top bit is the 53rd.
    by_cases hend : e + s = -1074
    · exact .inr hend
    have hne : m ≠ 0 := by
      rintro rfl
      rw [Nat.log2_zero] at hm hs
      omega
    refine .inl ?_
    rw [mantissa_shiftRight, mantissa_ofMantissaAndAccuracy, Nat.shiftRight_eq_div_pow,
      Nat.le_div_iff_mul_le (Nat.two_pow_pos s), ← Nat.pow_add]
    exact le_trans (Nat.pow_le_pow_right Nat.two_pos (by omega)) (Nat.log2_self_le hne)

/-- A rounded mantissa may have become `2 ^ 53`; it is cut once more, and loses a zero. -/
theorem shift_rounded {r : Nat} {e : Int} (hr : r ≤ 2 ^ 53) (hleast : -1074 ≤ e)
    (hfull : 2 ^ 52 ≤ r ∨ e = -1074) :
    ∃ em e₁, shiftToTargetExponent .binary64 r e .exact = (em, e₁) ∧
      (em.mantissa : ℚ) * 2 ^ e₁ = r * 2 ^ e ∧ Canonical em.mantissa e₁ := by
  -- Below the power of two nothing is shifted out any more.
  obtain hlt | rfl := Nat.lt_or_eq_of_le hr
  · have hlog : r.log2 ≤ 52 := by
      by_cases h0 : r = 0
      · rw [h0, Nat.log2_zero]
        omega
      · exact Nat.le_of_lt_succ ((Nat.log2_lt h0).2 hlt)
    have hshift := shiftToTargetExponent_eq (s := 0) .exact
      (show (max ((r.log2 : Int) + 1 + e - 53) (-1074) - e).toNat = 0 by omega)
    rw [Nat.cast_zero, add_zero] at hshift
    exact ⟨_, e, hshift, rfl, ⟨hlt, hleast, hfull⟩⟩
  · have hlog : (2 ^ 53 : Nat).log2 = 53 := Nat.log2_two_pow
    have hshift := shiftToTargetExponent_eq (s := 1) .exact
      (show (max (((2 ^ 53 : Nat).log2 : Int) + 1 + e - 53) (-1074) - e).toNat = 1 by omega)
    have hhalf : (ExtendedMantissa.ofMantissaAndAccuracy (2 ^ 53) .exact >>> 1).mantissa =
        2 ^ 52 := rfl
    refine ⟨_, _, hshift, ?_, ⟨by rw [hhalf]; omega, by omega, .inl hhalf.ge⟩⟩
    rw [hhalf, Nat.cast_one, zpow_add_one₀ two_ne_zero]
    push_cast
    ring

/-- Above the least exponent a representable number is a multiple of the last bit that is kept, or
lies below everything that has all its bits. -/
theorem rounded_sides {em : ExtendedMantissa} {w : ℚ} {e : Int} (hkeeps : Keeps em w)
    (hcanonical : Canonical em.mantissa e) {n : Nat} {k : Int} (hn : n < 2 ^ 53) (hk : -1074 ≤ k) :
    (w * 2 ^ e ≤ n * 2 ^ k → (em.roundedMantissa : ℚ) * 2 ^ e ≤ n * 2 ^ k) ∧
      ((n : ℚ) * 2 ^ k ≤ w * 2 ^ e → (n : ℚ) * 2 ^ k ≤ em.roundedMantissa * 2 ^ e) := by
  have hpos : (0 : ℚ) < 2 ^ e := by positivity
  by_cases hke : e ≤ k
  · -- On the grid of the mantissa both bounds are integers.
    obtain ⟨d, rfl⟩ := Int.le.dest hke
    have hgrid : (n : ℚ) * 2 ^ (e + d) = (n * 2 ^ d : Nat) * 2 ^ e := by
      rw [zpow_add₀ two_ne_zero, zpow_natCast]
      push_cast
      ring
    rw [hgrid]
    simp only [mul_le_mul_iff_of_pos_right hpos, Nat.cast_le]
    exact ⟨hkeeps.rounded_le, hkeeps.le_rounded⟩
  · -- A finer grid with 53 bits does not reach up to the mantissa.
    have hbelow := hcanonical.above hn hk (Int.not_le.1 hke)
    have hw : (em.mantissa : ℚ) * 2 ^ e ≤ w * 2 ^ e := mul_le_mul_of_nonneg_right hkeeps.le hpos.le
    have hr : (em.mantissa : ℚ) * 2 ^ e ≤ em.roundedMantissa * 2 ^ e :=
      mul_le_mul_of_nonneg_right (by exact_mod_cast mantissa_le_rounded em) hpos.le
    exact ⟨fun h => absurd (lt_of_lt_of_le hbelow hw) (not_lt.2 h), fun _ => hbelow.le.trans hr⟩

/-- A mantissa that has all its bits is cut, rounded and cut once more. -/
theorem roundWithAccuracy_rounds (s : Sign) {m : Nat} {e : Int} {acc : Accuracy} {w : ℚ}
    (hkeeps : Keeps (.ofMantissaAndAccuracy m acc) w) (hm : 52 ≤ m.log2 ∨ e ≤ -1074) :
    ∃ q, Denotes (roundWithAccuracy .binary64 s m e acc) q ∧
      RoundsTo (s.apply 1 * (w * 2 ^ e)) q := by
  obtain ⟨em, e₁, w₁, hfirst, hkeeps₁, hsame, hcanonical⟩ := shift_keeps hkeeps hm
  have hw₁ : 0 ≤ w₁ := le_trans (Nat.cast_nonneg _) hkeeps₁.le
  have hr : em.roundedMantissa ≤ 2 ^ 53 :=
    hkeeps₁.rounded_le (hkeeps₁.lt.le.trans (by exact_mod_cast hcanonical.bits))
  obtain ⟨em', e₂, hsecond, hsame', hcanonical'⟩ := shift_rounded hr hcanonical.least
    (hcanonical.full.imp_left fun h => h.trans (mantissa_le_rounded em))
  refine ⟨s.apply 1 * (em.roundedMantissa * 2 ^ e₁), ?_, ?_⟩
  · unfold roundWithAccuracy
    rw [hfirst]
    dsimp only
    rw [hsecond, ← hsame', ← mul_assoc, ← apply_eq]
    dsimp only
    -- A mantissa that has been rounded to nothing gives a zero.
    by_cases h0 : em'.mantissa = 0
    · rw [dif_pos h0, h0, apply_eq, Nat.cast_zero, mul_zero, zero_mul]
      exact .zero
    · rw [dif_neg h0]
      exact .finite hcanonical'
  · -- The first cut keeps the value, so that the sides are those of the mantissa that is rounded.
    rw [← hsame]
    refine (RoundsTo.of_nonneg (by positivity) (by positivity) fun n k hn hk => ?_).signed s
    exact rounded_sides hkeeps₁ hcanonical hn hk

/-- A mantissa shifted up at the cost of its exponent. -/
theorem shiftLeft_value (m s : Nat) (e : Int) :
    ((m <<< s : Nat) : ℚ) * 2 ^ (e - s) = m * 2 ^ e := by
  rw [Nat.shiftLeft_eq, zpow_sub₀ two_ne_zero, zpow_natCast]
  push_cast
  field_simp

/-- A mantissa that lacks bits is filled up with zeros first. -/
theorem round_rounds (s : Sign) {m : Nat} (e : Int) (h0 : m ≠ 0) :
    ∃ q, Denotes (UnpackedFloat.round .binary64 s m e) q ∧
      RoundsTo (s.apply 1 * (m * 2 ^ e)) q := by
  obtain ⟨d, hd⟩ : ∃ d : Nat, (e - max (m.log2 + 1 + e - 53) (-1074)).toNat = d := ⟨_, rfl⟩
  have hround : UnpackedFloat.round .binary64 s m e =
      roundWithAccuracy .binary64 s (m <<< d) (e - d) .exact := by
    subst hd
    rfl
  -- Filling up with zeros changes mantissa and exponent, and not the value.
  rw [hround]
  rw [← shiftLeft_value m d e]
  refine roundWithAccuracy_rounds s (.ofExact _) ?_
  rw [log2_shiftLeft d h0]
  omega

/-- An exact result of any sign is rounded. -/
theorem normalize_rounds (n e : Int) (zeroSign : Sign) :
    ∃ q, Denotes (UnpackedFloat.normalize .binary64 n e zeroSign) q ∧ RoundsTo (n * 2 ^ e) q := by
  unfold UnpackedFloat.normalize
  -- Only the size is rounded, and the sign is put back.
  obtain hneg | rfl | hpos := lt_trichotomy n 0
  · obtain ⟨m, rfl⟩ : ∃ m : Nat, n = -m := ⟨(-n).toNat, by omega⟩
    obtain ⟨q, hq, hround⟩ := round_rounds .negative (m := m) e (by omega)
    rw [Int.compare_eq_lt.2 hneg, neg_neg]
    exact ⟨q, hq, by simpa [Sign.apply] using hround⟩
  · rw [Int.compare_eq_eq.2 rfl, Int.cast_zero, zero_mul]
    exact ⟨0, .zero, .refl 0⟩
  · obtain ⟨m, rfl⟩ : ∃ m : Nat, n = m := ⟨n.toNat, by omega⟩
    obtain ⟨q, hq, hround⟩ := round_rounds .positive (m := m) e (by omega)
    rw [Int.compare_eq_gt.2 hpos]
    exact ⟨q, hq, by simpa [Sign.apply] using hround⟩

end Artillery.Quantity
