import Artillery.Proofs.Number.Order

/-!
# Remainders of floats

Integers times powers of two that are no longer than a float are made floats without rounding.  What
is left of a float after taking another one away as often as it fits is such a number: it is smaller
than the other one, and on the common exponent of both it has no more bits than they have.

## Key results

- `toFloat_value`: a dyadic form that is short enough becomes the float with its value
- `remainder_value`, `remainder_of_infinite`: what is left of a float
- `wrap_within`: a place on a circle lies between its two ends
-/

namespace Artillery.Quantity

open Float.Model (Format UnpackedFloat totalExponent)
open Float.Model.UnpackedFloat

/-! ## Floats from their fields -/

/-- The sign and the magnitude that bits are put together from. -/
theorem ofBits_value (negative : Bool) (magnitude : Nat)
    (h : magnitude < 2047 * Dyadic.hiddenBit) :
    HasValue
      (Float.ofBits (.ofNat (if negative then Dyadic.signBit + magnitude else magnitude)))
      (dyadicValue (if magnitude < Dyadic.hiddenBit then ⟨negative, magnitude, -1074⟩
        else ⟨negative, magnitude % Dyadic.hiddenBit + Dyadic.hiddenBit,
          (magnitude / Dyadic.hiddenBit : Nat) - 1075⟩)) := by
  have hhidden : Dyadic.hiddenBit = 2 ^ 52 := rfl
  have hsign : Dyadic.signBit = 2 ^ 63 := rfl
  rw [hhidden] at h ⊢
  obtain ⟨bits, hbits⟩ : ∃ bits, (if negative then Dyadic.signBit + magnitude else magnitude) =
      bits := ⟨_, rfl⟩
  -- The sign bit, the field of the exponent and that of the fraction lie side by side.
  have hparts : bits < 2 ^ 64 ∧ decide (Dyadic.signBit ≤ bits) = negative ∧
      bits / 2 ^ 52 % 0x800 = magnitude / 2 ^ 52 ∧ bits % 2 ^ 52 = magnitude % 2 ^ 52 := by
    subst hbits
    rw [hsign]
    cases negative with
    | false => exact ⟨by simp; omega, by simp; omega, by simp; omega, by simp⟩
    | true => exact ⟨by simp; omega, by simp, by simp; omega, by simp; omega⟩
  obtain ⟨hword, hnegative, hfield, hfraction⟩ := hparts
  -- Below the hidden bit the number is subnormal.
  have hfields : fieldsOf bits = some (if magnitude < 2 ^ 52 then ⟨negative, magnitude, -1074⟩
      else ⟨negative, magnitude % 2 ^ 52 + 2 ^ 52, (magnitude / 2 ^ 52 : Nat) - 1075⟩) := by
    unfold fieldsOf
    rw [hhidden, hnegative, hfield, hfraction]
    dsimp only
    rw [if_neg (by omega)]
    by_cases hlow : magnitude < 2 ^ 52
    · rw [if_pos (Nat.div_eq_of_lt hlow), if_pos hlow, Nat.mod_eq_of_lt hlow]
    · rw [if_neg (by omega), if_neg hlow]
  obtain ⟨hstored, hvalue⟩ := (unpack_fields (BitVec.ofNat 64 bits)).1 _
    (by rw [BitVec.toNat_ofNat, Nat.mod_eq_of_lt hword]; exact hfields)
  rw [hbits]
  exact hvalue.pack hstored.lt_limit

/-- Where a significand of at most 53 bits is shifted to: it has all its bits then, or the least
exponent, unless there is nothing to shift. -/
theorem shift_canonical {n s : Nat} {e : Int} (hbits : n < 2 ^ 53) (hleast : -1074 ≤ e)
    (hs : s = min (52 - n.log2) (e + 1074).toNat) (hne : n ≠ 0) : Canonical (n <<< s) (e - s) := by
  have hlog : n.log2 ≤ 52 := Nat.le_of_lt_succ ((Nat.log2_lt hne).2 hbits)
  have hshifted : (n <<< s).log2 = n.log2 + s := log2_shiftLeft s hne
  have hne' : n <<< s ≠ 0 := by
    rw [Nat.shiftLeft_eq]
    exact Nat.mul_ne_zero hne (Nat.two_pow_pos s).ne'
  refine ⟨(Nat.log2_lt hne').1 (by omega), by omega, ?_⟩
  by_cases hfull : s = 52 - n.log2
  · exact .inl ((Nat.le_log2 hne').1 (by omega))
  · exact .inr (by omega)

/-- A significand of at most 53 bits at an exponent in range becomes a float without rounding. -/
theorem toFloat_value {d : Dyadic} (hbits : d.significand < 2 ^ 53) (hleast : -1074 ≤ d.exponent)
    (hmost : |dyadicValue d| < 2 ^ 1024) : HasValue d.toFloat (dyadicValue d) := by
  have hhidden : Dyadic.hiddenBit = 2 ^ 52 := rfl
  obtain ⟨negative, n, e⟩ := d
  rw [abs_dyadicValue] at hmost
  dsimp only at hbits hleast hmost
  obtain ⟨s, hs⟩ : ∃ s, min (52 - n.log2) (e + 1074).toNat = s := ⟨_, rfl⟩
  obtain ⟨m, hm⟩ : ∃ m, n <<< s = m := ⟨_, rfl⟩
  have hshifted : (m : ℚ) * 2 ^ (e - s) = n * 2 ^ e := hm ▸ shiftLeft_value n s e
  have hcanonical (hne : n ≠ 0) : Canonical m (e - s) :=
    hm ▸ shift_canonical hbits hleast hs.symm hne
  unfold Dyadic.toFloat
  dsimp only
  rw [hs, hm]
  by_cases hlow : m < Dyadic.hiddenBit
  · -- Zeros and subnormal numbers have the least exponent.
    have hvalue : dyadicValue ⟨negative, m, -1074⟩ = dyadicValue ⟨negative, n, e⟩ := by
      unfold dyadicValue
      by_cases hzero : n = 0
      · obtain rfl : m = 0 := by rw [← hm, hzero, Nat.zero_shiftLeft]
        rw [hzero]
        simp
      · have hend : e - s = -1074 := (hcanonical hzero).full.resolve_left (by omega)
        rw [← hshifted, hend]
    have hfloat := ofBits_value negative m (by omega)
    rw [if_pos hlow, hvalue] at hfloat
    rwa [if_pos hlow]
  · have hne : n ≠ 0 := by
      rintro rfl
      rw [Nat.zero_shiftLeft] at hm
      omega
    obtain ⟨hshort, hend, _⟩ := hcanonical hne
    have hplace := (hcanonical hne).le_most (hshifted ▸ hmost)
    have hvalue : dyadicValue ⟨negative, m, e - s⟩ = dyadicValue ⟨negative, n, e⟩ := by
      unfold dyadicValue
      rw [hshifted]
    -- The field counts the exponents from the least one, and the fraction leaves the first bit out.
    obtain ⟨field, hfield⟩ : ∃ field, (e + 1075 - s).toNat = field := ⟨_, rfl⟩
    obtain ⟨magnitude, hmagnitude⟩ : ∃ magnitude,
        field * Dyadic.hiddenBit + (m - Dyadic.hiddenBit) = magnitude := ⟨_, rfl⟩
    rw [hhidden] at hmagnitude hlow
    have hhigh : ¬magnitude < 2 ^ 52 := by omega
    have hremainder : magnitude % 2 ^ 52 + 2 ^ 52 = m := by omega
    have hexponent : ((magnitude / 2 ^ 52 : Nat) : Int) - 1075 = e - s := by omega
    have hfloat := ofBits_value negative magnitude (by omega)
    rw [hhidden, if_neg hhigh, hremainder, hexponent, hvalue] at hfloat
    rwa [hhidden, if_neg hlow, hfield, hmagnitude]

/-! ## Remainders -/

/-- Both significands have the same exponent afterwards, and one of them has not been shifted. -/
theorem aligned_value (a b : Dyadic) :
    ∃ m n e, a.aligned b = (m, n, e) ∧ e = min a.exponent b.exponent ∧
      (m : ℚ) * 2 ^ e = a.significand * 2 ^ a.exponent ∧
      (n : ℚ) * 2 ^ e = b.significand * 2 ^ b.exponent ∧
      (m = a.significand ∨ n = b.significand) := by
  -- The significand of the larger exponent is shifted, and the other one kept.
  have hshift (n : Nat) {e f : Int} (h : e ≤ f) :
      ((n <<< (f - e).toNat : Nat) : ℚ) * 2 ^ e = n * 2 ^ f := by
    have hvalue := shiftLeft_value n (f - e).toNat f
    rwa [show f - ((f - e).toNat : Nat) = e by omega] at hvalue
  refine ⟨_, _, _, rfl, rfl, hshift _ (min_le_left _ _), hshift _ (min_le_right _ _), ?_⟩
  obtain hle | hge := le_total a.exponent b.exponent
  · rw [min_eq_left hle, sub_self]
    exact .inl rfl
  · rw [min_eq_right hge, sub_self]
    exact .inr rfl

/-- What is left of a finite float when another one has been taken away as often as it fits. -/
theorem remainder_value {x w : Float} {p q : ℚ} (hx : HasValue x p) (hw : HasValue w q)
    (hq : q ≠ 0) : ∃ r, HasValue (remainder x w) r ∧ |r| < |q| := by
  obtain ⟨a, ha, hstored, rfl⟩ := ofFloat?_value hx
  obtain ⟨b, hb, hstored', rfl⟩ := ofFloat?_value hw
  obtain ⟨m, n, e, haligned, rfl, hm, hn, hunshifted⟩ := aligned_value a b
  have hlimit := hstored'.lt_limit
  rw [abs_dyadicValue, ← hn] at hlimit
  have hne : b.significand ≠ 0 := by
    intro hzero
    refine hq ?_
    unfold dyadicValue
    rw [hzero, Nat.cast_zero, zero_mul, mul_zero]
  have hpos : 0 < n := by
    refine Nat.pos_of_ne_zero fun hzero => ?_
    rw [hzero, Nat.cast_zero, zero_mul, eq_comm] at hn
    have : (0 : ℚ) < b.significand * 2 ^ b.exponent := by positivity
    exact absurd hn this.ne'
  have hless : ((m % n : Nat) : ℚ) * 2 ^ min a.exponent b.exponent <
      n * 2 ^ min a.exponent b.exponent :=
    mul_lt_mul_of_pos_right (Nat.cast_lt.2 (Nat.mod_lt m hpos)) (by positivity)
  -- The remainder is no longer than the significand that has not been shifted.
  have hbits : m % n < 2 ^ 53 := by
    have hmod := Nat.mod_lt m hpos
    have hle := Nat.mod_le m n
    have hshort := hstored.canonical.bits
    have hshort' := hstored'.canonical.bits
    omega
  have hleast : -1074 ≤ min a.exponent b.exponent :=
    le_min hstored.canonical.least hstored'.canonical.least
  have hremainder : remainder x w =
      Dyadic.toFloat ⟨a.negative, m % n, min a.exponent b.exponent⟩ := by
    unfold remainder
    rw [ha, hb]
    dsimp only
    rw [if_neg hne, haligned]
  refine ⟨dyadicValue ⟨a.negative, m % n, min a.exponent b.exponent⟩, ?_, ?_⟩
  · rw [hremainder]
    refine toFloat_value hbits hleast ?_
    rw [abs_dyadicValue]
    exact hless.trans hlimit
  · rw [abs_dyadicValue, abs_dyadicValue, ← hn]
    exact hless

/-- Nothing is left of an infinity, and of NaN. -/
theorem remainder_of_infinite {x : Float} (h : x.isFinite = false) (w : Float) :
    remainder x w = 0 / 0 := by
  have hnone : Dyadic.ofFloat? x = none := by
    rw [ofFloat?_eq]
    cases hd : fieldsOf x.toBits.toNat with
    | none => rfl
    | some d =>
      obtain ⟨_, hvalue⟩ := (unpack_fields x.toBits.toBitVec).1 d hd
      exact nomatch h.symm.trans (Denotes.isFinite hvalue)
  unfold remainder
  rw [hnone]

/-- The place of a finite float on a circle lies between the two ends of the circumference. -/
theorem wrap_within {x w : Float} {p q : ℚ} (hx : HasValue x p) (hw : HasValue w q) (hq : 0 < q) :
    ∃ r, HasValue (wrap x w) r ∧ 0 ≤ r ∧ r ≤ q := by
  obtain ⟨r, hr, hsmall⟩ := remainder_value hx hw hq.ne'
  rw [abs_of_pos hq, abs_lt] at hsmall
  have hlength := hw.abs
  rw [abs_of_pos hq] at hlength
  unfold wrap
  dsimp only
  -- A negative remainder is lifted by one length of the interval.
  by_cases hneg : remainder x w < 0
  · rw [if_pos hneg]
    have hneg' : r < 0 := (hr.lt_iff hasValue_zero).1 hneg
    exact hr.add_between hlength hasValue_zero hw (by linarith) (by linarith)
  · rw [if_neg hneg]
    have hnot : ¬r < 0 := fun h => hneg ((hr.lt_iff hasValue_zero).2 h)
    exact ⟨r, hr, not_lt.1 hnot, hsmall.2.le⟩

/-- What is infinite or no number has no place on a circle. -/
theorem wrap_of_infinite {x : Float} (h : x.isFinite = false) (w : Float) :
    (wrap x w).isNaN = true := by
  unfold wrap
  rw [remainder_of_infinite h]
  dsimp only
  rw [if_neg (by decide)]
  decide

end Artillery.Quantity
