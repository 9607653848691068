import Artillery.Proofs.Number.Rounding

/-!
# Floats in their packed form

A packed float always unpacks to a canonical form, and a canonical form that is not too large comes
back from packing as it was.  Which number it stands for can be read off the fields of its bits.

## Key results

- `Fits.unpack_pack`, `fits_unpack`: what comes back from packing, and that every packed float does
- `Denotes.fits`: the numbers below `2 ^ 1024` have their place
- `unpack_fields`: what the fields of a packed float stand for
-/

namespace Artillery.Quantity

open Float.Model (Format UnpackedFloat totalExponent)
open Float.Model.UnpackedFloat

/-! ## Packing -/

/-- An unpacked float has a place among the packed ones. -/
inductive Fits : UnpackedFloat → Prop
  | notANumber : Fits .notANumber
  | infinity {s : Sign} : Fits (.infinity s)
  | zero {s : Sign} : Fits (.zero s)
  | finite {s : Sign} {m : Nat} {e : Int} {hm : 0 < m} (h : Canonical m e) (hmost : e ≤ 971) :
    Fits (.finite s m e hm)

/-- What has a place comes back as it was. -/
theorem Fits.unpack_pack {u : UnpackedFloat} (h : Fits u) :
    unpack .binary64 (UnpackedFloat.pack .binary64 u) = u := by
  cases h with
  | notANumber => rfl
  | @infinity s => cases s <;> rfl
  | @zero s => cases s <;> rfl
  | @finite s m e hm hcanonical hmost =>
    by_cases hlow : m < 2 ^ 52
    · -- A short mantissa belongs to the least exponent.
      obtain rfl : e = -1074 := hcanonical.full.resolve_left (by omega)
      exact unpack_pack_subnormal ((Nat.log2_lt hm.ne').2 hlow)
    · have hlog : m.log2 = 52 := (Nat.log2_eq_iff hm.ne').2 ⟨by omega, hcanonical.bits⟩
      exact unpack_pack_normal hlog hcanonical.least hmost

section

variable {m : Nat} {e : Int} (h : Canonical m e)
include h

/-- A canonical form that is not too large has no larger exponent than the largest. -/
theorem Canonical.le_most (hlt : (m : ℚ) * 2 ^ e < 2 ^ 1024) : e ≤ 971 := by
  by_contra hlarge
  have hbits : 2 ^ 52 ≤ m := h.full.resolve_right (by omega)
  have hpow : (2 : ℚ) ^ 1024 ≤ m * 2 ^ e := by
    calc (2 : ℚ) ^ 1024 = (2 : ℚ) ^ 52 * (2 : ℚ) ^ ((972 : Nat) : Int) := by
          rw [zpow_natCast, ← pow_add]
      _ ≤ (m : ℚ) * 2 ^ e := mul_le_mul (by exact_mod_cast hbits)
          (zpow_le_zpow_right₀ one_le_two (by omega)) (by positivity) (by positivity)
  exact absurd hlt (not_lt.2 hpow)

/-- A canonical form with no larger exponent is not too large. -/
theorem Canonical.lt_limit (hmost : e ≤ 971) : (m : ℚ) * 2 ^ e < 2 ^ 1024 := by
  calc (m : ℚ) * 2 ^ e < 2 ^ 53 * 2 ^ e :=
        mul_lt_mul_of_pos_right (by exact_mod_cast h.bits) (by positivity)
    _ ≤ 2 ^ 53 * (2 : ℚ) ^ ((971 : Nat) : Int) :=
        mul_le_mul_of_nonneg_left (zpow_le_zpow_right₀ one_le_two (by omega)) (by positivity)
    _ = 2 ^ 1024 := by rw [zpow_natCast, ← pow_add]

end

/-- The size of a number is that of its mantissa. -/
theorem abs_apply (s : Sign) (m : Nat) (e : Int) :
    |((s.apply m : Int) : ℚ) * 2 ^ e| = m * 2 ^ e := by
  rw [abs_mul, abs_of_pos (a := (2 : ℚ) ^ e) (by positivity)]
  cases s <;> simp [Sign.apply]

section

variable {u : UnpackedFloat} {p q : ℚ}

/-- What is not too large has a place. -/
theorem Denotes.fits (h : Denotes u q) (hq : |q| < 2 ^ 1024) : Fits u := by
  cases h with
  | zero => exact .zero
  | finite hcanonical =>
    rw [abs_apply] at hq
    exact .finite hcanonical (hcanonical.le_most hq)

/-- What has a place is not too large. -/
theorem Denotes.lt_limit (h : Denotes u q) (fits : Fits u) : |q| < 2 ^ 1024 := by
  cases h with
  | zero =>
    rw [abs_zero]
    positivity
  | finite hcanonical =>
    rw [abs_apply]
    cases fits with
    | finite _ hmost => exact hcanonical.lt_limit hmost

/-- What is not too large survives packing. -/
theorem Denotes.pack (h : Denotes u q) (hq : |q| < 2 ^ 1024) :
    Denotes (unpack .binary64 (UnpackedFloat.pack .binary64 u)) q := by
  rwa [(h.fits hq).unpack_pack]

/-- Only infinities and NaN stand for no number. -/
theorem Denotes.isFinite (h : Denotes u q) : u.isFinite = true := by
  cases h <;> rfl

/-- What an unpacked float denotes is a float. -/
theorem Denotes.representable (h : Denotes u q) : Representable q := by
  cases h with
  | zero => exact ⟨0, 0, by decide, by omega, by rw [Int.cast_zero, zero_mul]⟩
  | @finite s m e hm hcanonical =>
    refine ⟨s.apply m, e, ?_, hcanonical.least, rfl⟩
    have := hcanonical.bits
    cases s <;> simp only [Sign.apply] <;> omega

/-- It denotes one number. -/
theorem Denotes.unique (hp : Denotes u p) (hq : Denotes u q) : p = q := by
  cases hp with
  | zero => exact hq.zero_eq.symm
  | finite => exact hq.finite_eq.symm

end

/-! ## The fields of a packed float -/

/-- The number that a dyadic form stands for. -/
def dyadicValue (d : Dyadic) : ℚ :=
  (if d.negative then -1 else 1) * (d.significand * 2 ^ d.exponent)

/-- The dyadic form of the float with some bits. -/
def fieldsOf (bits : Nat) : Option Dyadic :=
  let negative : Bool := Dyadic.signBit ≤ bits
  let field : Nat := bits / Dyadic.hiddenBit % 0x800
  let fraction : Nat := bits % Dyadic.hiddenBit
  if field = 2047 then none
  else if field = 0 then some ⟨negative, fraction, -1074⟩
  else some ⟨negative, fraction + Dyadic.hiddenBit, (field : Int) - 1075⟩

/-- Taking a float apart looks at its fields. -/
theorem ofFloat?_eq (x : Float) : Dyadic.ofFloat? x = fieldsOf x.toBits.toNat := rfl

/-- The significand and the exponent of a dyadic form are those of a float. -/
structure Stored (d : Dyadic) : Prop where
  canonical : Canonical d.significand d.exponent
  most : d.exponent ≤ 971

/-- The size of a dyadic number is that of its significand. -/
theorem abs_dyadicValue (d : Dyadic) : |dyadicValue d| = d.significand * 2 ^ d.exponent := by
  have hpos : (0 : ℚ) ≤ d.significand * 2 ^ d.exponent := by positivity
  unfold dyadicValue
  cases d.negative <;> simp [abs_of_nonneg hpos]

/-- A number that is stored is not too large. -/
theorem Stored.lt_limit {d : Dyadic} (h : Stored d) : |dyadicValue d| < 2 ^ 1024 := by
  rw [abs_dyadicValue]
  exact h.canonical.lt_limit h.most

section

variable (b : BitVec 64)

/-- The exponent field stands above the hidden bit. -/
theorem unpackExponent_toNat : (@unpackExponent .binary64 b).toNat =
    b.toNat / Dyadic.hiddenBit % 0x800 := by
  simp [unpackExponent, Nat.shiftRight_eq_div_pow, Dyadic.hiddenBit]

/-- The mantissa field stands below it. -/
theorem unpackMantissa_toNat : (@unpackMantissa .binary64 b).toNat =
    b.toNat % Dyadic.hiddenBit := by
  simp [unpackMantissa, Dyadic.hiddenBit]

/-- The sign bit stands above both. -/
theorem sign_toNat : Sign.ofBitVec (@unpackSign .binary64 b) =
    if Dyadic.signBit ≤ b.toNat then .negative else .positive := by
  have hlt := b.isLt
  have hbit : @unpackSign .binary64 b = 0#1 ↔ ¬Dyadic.signBit ≤ b.toNat := by
    rw [← BitVec.toNat_inj]
    unfold unpackSign
    simp [Nat.shiftRight_eq_div_pow, Dyadic.signBit]
    omega
  unfold Sign.ofBitVec
  simp only [hbit, ite_not]

/-- The sign of a dyadic number is that of the bit. -/
theorem dyadicValue_toNat (n : Nat) (e : Int) :
    dyadicValue ⟨Dyadic.signBit ≤ b.toNat, n, e⟩ =
      ((if Dyadic.signBit ≤ b.toNat then Sign.negative else .positive).apply n : Int) * 2 ^ e := by
  unfold dyadicValue
  by_cases hbit : Dyadic.signBit ≤ b.toNat
  · simp [hbit, Sign.apply]
  · simp [hbit, Sign.apply]

/-- The fields of a float say what it stands for. -/
theorem unpack_fields :
    (∀ d, fieldsOf b.toNat = some d →
      Stored d ∧ Denotes (unpack .binary64 b) (dyadicValue d)) ∧
    (fieldsOf b.toNat = none → (unpack .binary64 b).isFinite = false) := by
  have hfield := unpackExponent_toNat b
  have hfraction := unpackMantissa_toNat b
  have hshort := (@unpackMantissa .binary64 b).isLt
  have hsmall := (@unpackExponent .binary64 b).isLt
  change (@unpackMantissa .binary64 b).toNat < 2 ^ 52 at hshort
  change (@unpackExponent .binary64 b).toNat < 2 ^ 11 at hsmall
  have hhidden : Dyadic.hiddenBit = 2 ^ 52 := rfl
  unfold fieldsOf unpack
  dsimp only
  rw [sign_toNat, ← hfield, ← hfraction]
  -- The largest field is that of the infinities and NaN, the least that of zero and subnormals.
  by_cases htop : @unpackExponent .binary64 b = -1#11
  · have htop' : (@unpackExponent .binary64 b).toNat = 2047 := congrArg BitVec.toNat htop
    rw [if_pos htop', if_pos htop]
    refine ⟨fun d hd => (nomatch hd), fun _ => ?_⟩
    split <;> rfl
  have htop' : (@unpackExponent .binary64 b).toNat ≠ 2047 := fun h =>
    htop (BitVec.eq_of_toNat_eq h)
  rw [if_neg htop', if_neg htop]
  by_cases hlow : @unpackExponent .binary64 b = 0#11
  · have hlow' : (@unpackExponent .binary64 b).toNat = 0 := congrArg BitVec.toNat hlow
    have hcanonical : Canonical (@unpackMantissa .binary64 b).toNat (-1074) :=
      ⟨by omega, le_rfl, .inr rfl⟩
    rw [if_pos hlow', if_pos hlow]
    refine ⟨fun d hd => ?_, fun h => nomatch h⟩
    obtain rfl := Option.some.inj hd
    refine ⟨⟨hcanonical, show (-1074 : Int) ≤ 971 by decide⟩, ?_⟩
    rw [dyadicValue_toNat]
    by_cases hzero : @unpackMantissa .binary64 b = 0#52
    · rw [dif_pos hzero, hzero, apply_eq]
      simpa using Denotes.zero
    · rw [dif_neg hzero, hlow]
      exact .finite hcanonical
  · have hlow' : (@unpackExponent .binary64 b).toNat ≠ 0 := fun h =>
      hlow (BitVec.eq_of_toNat_eq h)
    -- A normal number has the hidden bit above its field.
    have hfull : (1#1 ++ @unpackMantissa .binary64 b).toNat =
        (@unpackMantissa .binary64 b).toNat + Dyadic.hiddenBit := by
      rw [BitVec.toNat_append, ← Nat.shiftLeft_add_eq_or_of_lt (BitVec.isLt _), Nat.add_comm]
      rfl
    have hcanonical : Canonical ((@unpackMantissa .binary64 b).toNat + Dyadic.hiddenBit)
        ((@unpackExponent .binary64 b).toNat - 1075) :=
      ⟨by omega, by omega, .inl (by omega)⟩
    rw [if_neg hlow', if_neg hlow]
    refine ⟨fun d hd => ?_, fun h => nomatch h⟩
    obtain rfl := Option.some.inj hd
    have hmost : ((@unpackExponent .binary64 b).toNat : Int) - 1075 ≤ 971 := by omega
    refine ⟨⟨hcanonical, hmost⟩, ?_⟩
    rw [dyadicValue_toNat, ← hfull]
    exact .finite (hfull ▸ hcanonical)

/-- Every packed float unpacks to what has a place. -/
theorem fits_unpack : Fits (unpack .binary64 b) := by
  obtain ⟨hfinite, hrest⟩ := unpack_fields b
  -- A finite float fits by its fields, and any other form always does.
  cases hd : fieldsOf b.toNat with
  | none =>
    have hnot := hrest hd
    generalize unpack .binary64 b = u at hnot
    cases u with
    | notANumber => exact .notANumber
    | infinity => exact .infinity
    | zero => exact .zero
    | finite => exact nomatch hnot
  | some d =>
    obtain ⟨hstored, hdenotes⟩ := hfinite d hd
    exact hdenotes.fits hstored.lt_limit

end

end Artillery.Quantity
