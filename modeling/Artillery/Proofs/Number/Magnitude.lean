import Artillery.Number.Quantity

/-!
# The magnitude of floats

How large a normal float is can be told from its exponent, and rounding never brings a number below
a power of two that it has reached.  This is all that bounds between floats rest on: the column
before the last is no negative number, and what is taken away near a wall leaves something.

## Key results

- `round_reaches`: rounding keeps the powers of two that a number has reached
- `reaches_ofNat`: a natural number has reached every power of two that is not above it
- `Reaches.sub`: taking away less than half leaves half
- `Reaches.lt`, `Reaches.le`: what has reached a power of two lies above everything below it
- `neg_mul_four_le`: a limit on both sides of zero leaves room
-/

namespace Artillery.Quantity

open Float.Model (Format UnpackedFloat totalExponent)
open Float.Model.UnpackedFloat

/-! ## Rounding -/

/-- The highest bit of a number that has lost its low bits. -/
theorem log2_shiftRight {m s : Nat} (h : s ≤ m.log2) : (m >>> s).log2 = m.log2 - s := by
  rw [Nat.shiftRight_eq_div_pow]
  by_cases hm : m = 0
  · subst hm
    simp [Nat.log2_zero]
  have hself := Nat.log2_self_le hm
  have hlt : m < 2 ^ (m.log2 + 1) := (Nat.log2_lt hm).1 (Nat.lt_succ_self _)
  -- The quotient lies between two neighbouring powers, as the number did.
  have hsplit : 2 ^ m.log2 = 2 ^ (m.log2 - s) * 2 ^ s := by rw [← Nat.pow_add, Nat.sub_add_cancel h]
  have hlow : 2 ^ (m.log2 - s) ≤ m / 2 ^ s := by
    rw [Nat.le_div_iff_mul_le (Nat.two_pow_pos s), ← hsplit]
    exact hself
  have hhigh : m / 2 ^ s < 2 ^ (m.log2 - s + 1) := by
    rw [Nat.div_lt_iff_lt_mul (Nat.two_pow_pos s), ← Nat.pow_add]
    rwa [show m.log2 - s + 1 + s = m.log2 + 1 by omega]
  exact (Nat.log2_eq_iff (by have := Nat.two_pow_pos (m.log2 - s); omega)).2 ⟨hlow, hhigh⟩

/-- The highest bit of a number that has been shifted up. -/
theorem log2_shiftLeft {m : Nat} (s : Nat) (h : m ≠ 0) : (m <<< s).log2 = m.log2 + s := by
  rw [Nat.shiftLeft_eq]
  have hself := Nat.log2_self_le h
  have hlt : m < 2 ^ (m.log2 + 1) := (Nat.log2_lt h).1 (Nat.lt_succ_self _)
  have hpos := Nat.two_pow_pos s
  refine (Nat.log2_eq_iff (Nat.mul_ne_zero h (by omega))).2 ⟨?_, ?_⟩
  · rw [Nat.pow_add]
    exact Nat.mul_le_mul_right _ hself
  · rw [show m.log2 + s + 1 = (m.log2 + 1) + s by omega, Nat.pow_add (n := s)]
    exact (Nat.mul_lt_mul_right hpos).2 hlt

/-- What is left of a number after less than its half. -/
theorem le_log2_sub {m n a : Nat} (h : m ≠ 0) (hm : a + 1 ≤ m.log2) (hn : n ≤ 1 <<< a) :
    m - n ≠ 0 ∧ a ≤ (m - n).log2 := by
  rw [Nat.one_shiftLeft] at hn
  have hlarge : 2 ^ (a + 1) ≤ m := (Nat.le_log2 h).1 hm
  have hpos := Nat.two_pow_pos a
  rw [Nat.pow_succ] at hlarge
  have hne : m - n ≠ 0 := by omega
  exact ⟨hne, (Nat.le_log2 hne).2 (by omega)⟩

theorem mantissa_shiftRight (em : ExtendedMantissa) (s : Nat) :
    (em >>> s).mantissa = em.mantissa >>> s := by
  show (s.repeat ExtendedMantissa.shiftRightOne em).mantissa = _
  induction s with
  | zero => rfl
  | succ s ih =>
    show (s.repeat ExtendedMantissa.shiftRightOne em).mantissa / 2 = _
    rw [ih, Nat.shiftRight_succ]

/-- Rounding to the nearest never goes below what is kept of a mantissa. -/
theorem mantissa_le_rounded (em : ExtendedMantissa) : em.mantissa ≤ em.roundedMantissa := by
  obtain ⟨m, roundBit, stickyBit⟩ := em
  cases roundBit <;> cases stickyBit <;>
    simp only [ExtendedMantissa.roundedMantissa, ExtendedMantissa.accuracy,
      Accuracy.roundToNearestEven] <;> omega

/-- The least exponent of the highest bit of a normal float. -/
def leastNormal : Int := -1022

/-- The exponent of a normal number leaves it 53 bits. -/
theorem targetExponent_eq {m : Nat} {e : Int} (hn : leastNormal ≤ m.log2 + e) :
    Format.binary64.targetExponent (totalExponent m e) = m.log2 + e - 52 := by
  have hmin : Format.binary64.minExponent = -1074 := rfl
  have hbits : Format.binary64.mantissaBits = 53 := rfl
  unfold Format.targetExponent totalExponent
  unfold leastNormal at hn
  rw [hmin, hbits]
  omega

/-- A mantissa of at least 53 bits is cut to 53 bits, and its highest bit stays where it is. -/
theorem shift_spec {m : Nat} {e : Int} (h : 52 ≤ m.log2) (hn : leastNormal ≤ m.log2 + e) :
    (shiftToTargetExponent .binary64 m e .exact).1.mantissa.log2 = 52 ∧
      (shiftToTargetExponent .binary64 m e .exact).2 + 52 = m.log2 + e := by
  unfold shiftToTargetExponent shiftToExponent
  rw [targetExponent_eq hn]
  -- The shift takes away what the mantissa has beyond 53 bits.
  dsimp only
  rw [mantissa_shiftRight, show (m.log2 + e - 52 - e).toNat = m.log2 - 52 by omega]
  constructor
  · show (m >>> (m.log2 - 52)).log2 = 52
    rw [log2_shiftRight (by omega)]
    omega
  · omega

/-- An unpacked float is infinite, or a normal number of at least `2 ^ k`. -/
inductive HasReached (k : Int) : UnpackedFloat → Prop
  | infinite : HasReached k (.infinity .positive)
  | normal {m : Nat} {e : Int} {hm : 0 < m} (hbits : m.log2 = 52) (hk : k ≤ e + 52) :
    HasReached k (.finite .positive m e hm)

/-- Who has reached a power of two has reached all smaller ones. -/
theorem HasReached.mono {k l : Int} {u : UnpackedFloat} (h : HasReached k u) (hl : l ≤ k) :
    HasReached l u := by
  cases h with
  | infinite => exact .infinite
  | normal hbits hk => exact .normal hbits (Int.le_trans hl hk)

/-- Rounding does not fall below a power of two that was reached. -/
theorem roundWithAccuracy_reaches {m : Nat} {e : Int} (h : 52 ≤ m.log2)
    (hn : leastNormal ≤ m.log2 + e) :
    HasReached (m.log2 + e) (roundWithAccuracy .binary64 .positive m e .exact) := by
  obtain ⟨hbits, hplace⟩ := shift_spec h hn
  unfold roundWithAccuracy
  generalize shiftToTargetExponent .binary64 m e .exact = first at hbits hplace
  obtain ⟨em, e₁⟩ := first
  dsimp only at hbits hplace ⊢
  -- The rounded mantissa may have one bit more; it is cut once more.
  have hrounded : em.mantissa.log2 ≤ em.roundedMantissa.log2 := by
    have hem : em.mantissa ≠ 0 := by
      rintro h0
      rw [h0, Nat.log2_zero] at hbits
      omega
    have hle := mantissa_le_rounded em
    exact (Nat.le_log2 (by omega)).2 (Nat.le_trans (Nat.log2_self_le hem) hle)
  obtain ⟨hbits', hplace'⟩ := shift_spec (m := em.roundedMantissa) (e := e₁) (by omega) (by omega)
  generalize shiftToTargetExponent .binary64 em.roundedMantissa e₁ .exact = second at hbits' hplace'
  obtain ⟨em', e₂⟩ := second
  dsimp only at hbits' hplace' ⊢
  have hne : em'.mantissa ≠ 0 := by
    rintro h0
    rw [h0, Nat.log2_zero] at hbits'
    omega
  rw [dif_neg hne]
  exact .normal hbits' (by omega)

/-- Rounding keeps the powers of two that a number has reached. -/
theorem round_reaches {m : Nat} {e : Int} (h : m ≠ 0) (hn : leastNormal ≤ m.log2 + e) :
    HasReached (m.log2 + e) (UnpackedFloat.round .binary64 .positive m e) := by
  unfold UnpackedFloat.round decreaseExponent
  rw [targetExponent_eq hn]
  dsimp only
  rw [show (e - (m.log2 + e - 52)).toNat = 52 - m.log2 by omega]
  -- A short mantissa is filled up with zeros first, and has 53 bits then.
  have hlog := log2_shiftLeft (52 - m.log2) h
  have hreach := roundWithAccuracy_reaches (m := m <<< (52 - m.log2))
    (e := e - ((52 - m.log2 : Nat) : Int)) (by omega) (by omega)
  exact hreach.mono (by omega)

/-- An exact result that is positive is rounded. -/
theorem normalize_reaches {m : Nat} {e : Int} (zeroSign : Sign) (h : m ≠ 0)
    (hn : leastNormal ≤ m.log2 + e) :
    HasReached (m.log2 + e) (UnpackedFloat.normalize .binary64 m e zeroSign) := by
  unfold UnpackedFloat.normalize
  rw [Int.compare_eq_gt.2 (by omega)]
  exact round_reaches h hn

/-! ## Packing -/

/-- The sign bit is where it has been packed. -/
theorem unpackSign_packComponents {spec : Format} (s : Sign) (e : BitVec spec.exponentBits)
    (m : BitVec spec.mantissaBitsWithoutImplicit) :
    unpackSign (packComponents spec s e m) = s.toBitVec := by
  apply BitVec.eq_of_getLsbD_eq
  intro i hi
  obtain rfl : i = 0 := by omega
  unfold unpackSign packComponents
  simp [BitVec.getLsbD_append, BitVec.getElem_append]

/-- So the sign comes back. -/
theorem sign_packComponents {spec : Format} (s : Sign) (e : BitVec spec.exponentBits)
    (m : BitVec spec.mantissaBitsWithoutImplicit) :
    Sign.ofBitVec (unpackSign (packComponents spec s e m)) = s := by
  rw [unpackSign_packComponents]
  cases s <;> rfl

/-- A packed float that is no NaN keeps its sign. -/
inductive HasSign (s : Sign) : UnpackedFloat → Prop
  | infinity : HasSign s (.infinity s)
  | zero : HasSign s (.zero s)
  | finite {m : Nat} {e : Int} {hm : 0 < m} : HasSign s (.finite s m e hm)

/-- Both branches have the sign, and so has what is chosen. -/
theorem HasSign.dite {s : Sign} {c : Prop} [Decidable c] {t : c → UnpackedFloat}
    {e : ¬c → UnpackedFloat} (ht : ∀ h, HasSign s (t h)) (he : ∀ h, HasSign s (e h)) :
    HasSign s (dite c t e) := by
  split
  · exact ht _
  · exact he _

/-- What has been packed with its exponent and mantissa is no NaN unless its fields say so. -/
theorem unpack_packComponents_sign (s : Sign) (e : BitVec 11) (m : BitVec 52)
    (h : e = -1#_ → m = 0#_) : HasSign s (unpack .binary64 (packComponents .binary64 s e m)) := by
  unfold unpack
  dsimp only
  rw [sign_packComponents]
  -- The fields are those of an infinity, of a number below the normal ones, or of a normal one.
  refine iteInduction (motive := HasSign s) (fun htop => ?_) fun _ => ?_
  · rw [unpackExponent_packComponents] at htop
    rw [if_pos (unpackMantissa_packComponents.trans (h htop))]
    exact .infinity
  · refine iteInduction (motive := HasSign s) (fun _ => ?_) fun _ => .finite
    exact HasSign.dite (fun _ => .zero) fun _ => .finite

/-- Packing keeps the sign, even where the number is too large. -/
theorem unpack_pack_sign {s : Sign} {u : UnpackedFloat} (h : HasSign s u) :
    HasSign s (unpack .binary64 (pack .binary64 u)) := by
  cases h with
  | infinity => exact unpack_packComponents_sign s _ _ fun _ => rfl
  | zero => exact unpack_packComponents_sign s _ _ fun _ => rfl
  | finite =>
    unfold pack
    dsimp only
    split
    · exact unpack_packComponents_sign s _ _ fun _ => rfl
    · rename_i hfits
      -- A normal number has an exponent field of its own, and a subnormal one has none.
      split
      · refine unpack_packComponents_sign s _ _ fun he => ?_
        have := congrArg BitVec.toNat he
        simp [BitVec.neg_one_eq_allOnes] at this
        omega
      · refine unpack_packComponents_sign s _ _ fun he => ?_
        exact absurd he (by decide)

/-- The exponent field of a normal float is neither the least nor the largest, which have meanings
of their own. -/
theorem exponentField {e : Int} (hleast : -1074 ≤ e) (hmost : e ≤ 971) :
    (BitVec.ofNat 11 (e + 1075).toNat).toNat = (e + 1075).toNat ∧
      BitVec.ofNat 11 (e + 1075).toNat ≠ -1#_ ∧ BitVec.ofNat 11 (e + 1075).toNat ≠ 0#_ := by
  have hfield : (BitVec.ofNat 11 (e + 1075).toNat).toNat = (e + 1075).toNat := by
    rw [BitVec.toNat_ofNat, Nat.mod_eq_of_lt (by omega)]
  -- The two fields that are excluded are the largest and the least.
  refine ⟨hfield, fun htop => ?_, fun hzero => ?_⟩
  · have := congrArg BitVec.toNat htop
    rw [hfield] at this
    simp [BitVec.neg_one_eq_allOnes] at this
    omega
  · have := congrArg BitVec.toNat hzero
    rw [hfield] at this
    simp at this
    omega

/-- A normal float that is not too large survives packing. -/
theorem unpack_pack_normal {s : Sign} {m : Nat} {e : Int} {hm : 0 < m} (hbits : m.log2 = 52)
    (hleast : -1074 ≤ e) (hmost : e ≤ 971) :
    unpack .binary64 (pack .binary64 (.finite s m e hm)) = .finite s m e hm := by
  have hfull := Nat.log2_self_le (Nat.ne_of_gt hm)
  have hlt := Nat.lt_log2_self (n := m)
  rw [hbits] at hfull hlt
  obtain ⟨hfield, htop, hzero⟩ := exponentField hleast hmost
  have hbiased : e + ((1023 : Nat) : Int) + ((52 : Nat) : Int) = e + 1075 := by omega
  have hpack : pack .binary64 (.finite s m e hm) = packComponents .binary64 s
      (BitVec.ofNat 11 (e + 1075).toNat) (BitVec.ofNat 52 m) := by
    rw [← hbiased]
    exact (if_neg (by show ¬2 ^ 11 ≤ (e + ((1023 : Nat) : Int) + ((52 : Nat) : Int)).toNat + 1
                      omega)).trans (if_pos (by rw [hbits]; rfl))
  -- The top bit is not packed, and is put back in front of the others.
  have hmantissa : (1#1 ++ BitVec.ofNat 52 m).toNat = m := by
    rw [BitVec.toNat_append, ← Nat.shiftLeft_add_eq_or_of_lt (BitVec.ofNat 52 m).isLt,
      BitVec.toNat_ofNat]
    show 1 <<< 52 + m % 2 ^ 52 = m
    omega
  rw [hpack]
  unfold unpack
  dsimp only
  rw [sign_packComponents, unpackExponent_packComponents, if_neg htop, if_neg hzero, hfield]
  congr 1
  · rw [unpackMantissa_packComponents, hmantissa]
  · show (((e + 1075).toNat : Nat) : Int) - (((1023 : Nat) : Int) + (52 : Nat)) = e
    omega

/-- So does a subnormal one. -/
theorem unpack_pack_subnormal {s : Sign} {m : Nat} {hm : 0 < m} (hbits : m.log2 < 52) :
    unpack .binary64 (pack .binary64 (.finite s m (-1074) hm)) = .finite s m (-1074) hm := by
  have hlt : m < 2 ^ 52 := (Nat.log2_lt (Nat.ne_of_gt hm)).1 hbits
  have hpack : pack .binary64 (.finite s m (-1074) hm) =
      packComponents .binary64 s 0#11 (BitVec.ofNat 52 m) := by
    unfold pack
    dsimp only
    rw [if_neg (by decide)]
    show (if m.log2 + 1 = 53 then _ else _) = _
    rw [if_neg (by omega)]
  have hmantissa : (BitVec.ofNat 52 m).toNat = m := by
    rw [BitVec.toNat_ofNat, Nat.mod_eq_of_lt hlt]
  -- A mantissa that is not zero has a field that is not.
  have hne : BitVec.ofNat 52 m ≠ 0#52 := fun h0 => by
    rw [h0] at hmantissa
    simp at hmantissa
    omega
  rw [hpack]
  unfold unpack
  dsimp only
  rw [sign_packComponents, unpackExponent_packComponents, if_neg (by decide), if_pos rfl,
    dif_neg (unpackMantissa_packComponents.symm ▸ hne)]
  congr 1
  rw [unpackMantissa_packComponents, hmantissa]

/-- What has reached a power of two has still reached it when it is packed. -/
theorem unpack_pack_reaches {k : Int} {u : UnpackedFloat} (h : HasReached k u)
    (hk : leastNormal ≤ k) : HasReached k (unpack .binary64 (pack .binary64 u)) := by
  cases h with
  | infinite => exact .infinite
  | @normal m e hm hbits hplace =>
    unfold leastNormal at hk
    -- Too large an exponent makes an infinity, which has reached everything.
    by_cases hmost : e ≤ 971
    · rw [unpack_pack_normal hbits (by omega) hmost]
      exact .normal hbits hplace
    · have hover : pack .binary64 (.finite .positive m e hm) = packedInfinity .binary64 .positive :=
        if_pos (by show 2 ^ 11 ≤ (e + ((1023 : Nat) : Int) + ((52 : Nat) : Int)).toNat + 1
                   omega)
      rw [hover]
      exact .infinite

/-! ## Floats -/

/-- A float is infinite, or a normal number of at least `2 ^ k`. -/
def Reaches (k : Int) (x : Float) : Prop := HasReached k x.toModel.unpack

/-- An unpacked float is zero, or a positive normal number below `2 ^ k`. -/
inductive IsUnder (k : Int) : UnpackedFloat → Prop
  | zero : IsUnder k (.zero .positive)
  | normal {m : Nat} {e : Int} {hm : 0 < m} (hbits : m.log2 = 52) (hk : e + 52 < k) :
    IsUnder k (.finite .positive m e hm)

/-- A float is zero, or a positive normal number below `2 ^ k`. -/
def Under (k : Int) (x : Float) : Prop := IsUnder k x.toModel.unpack

/-- The order of floats is that of their parts. -/
theorem le_iff {x y : Float} : x ≤ y ↔ x.toModel.unpack.le y.toModel.unpack = true :=
  decide_eq_true_iff

/-- So is the strict order. -/
theorem lt_iff {x y : Float} : x < y ↔ x.toModel.unpack.lt y.toModel.unpack = true :=
  decide_eq_true_iff

section

variable {k : Int} {x y : Float}

/-- The exponents decide before the mantissas are looked at. -/
theorem Reaches.compare (hx : Reaches k x) (hy : Under k y) :
    y.toModel.unpack.compare x.toModel.unpack = some .lt := by
  unfold Reaches at hx
  unfold Under at hy
  generalize x.toModel.unpack = u at hx ⊢
  generalize y.toModel.unpack = v at hy ⊢
  -- An infinity lies above all, and a number below the power has the smaller exponent.
  cases hx with
  | infinite => cases hy <;> rfl
  | @normal m e _ _ hk =>
    cases hy with
    | zero => rfl
    | @normal n f _ _ hf =>
      show some ((Ord.compare f e).then (Ord.compare n m)) = some .lt
      rw [Int.compare_eq_lt.2 (by omega)]
      rfl

/-- What has reached a power lies above what stays below it. -/
theorem Reaches.lt (hx : Reaches k x) (hy : Under k y) : y < x := by
  rw [lt_iff, UnpackedFloat.lt, hx.compare hy]
  rfl

/-- In particular it is not below. -/
theorem Reaches.le (hx : Reaches k x) (hy : Under k y) : y ≤ x := by
  rw [le_iff, UnpackedFloat.le, hx.compare hy]
  rfl

/-- Taking away less than half leaves half. -/
theorem Reaches.sub (hx : Reaches (k + 1) x) (hy : Under k y) (hk : leastNormal ≤ k) :
    Reaches k (x - y) := by
  show HasReached k (unpack .binary64 (pack .binary64
    (UnpackedFloat.sub .binary64 x.toModel.unpack y.toModel.unpack)))
  apply unpack_pack_reaches _ hk
  unfold Reaches at hx
  unfold Under at hy
  generalize x.toModel.unpack = u at hx ⊢
  generalize y.toModel.unpack = v at hy ⊢
  cases hx with
  | infinite => cases hy <;> exact .infinite
  | @normal m e hm hbits hplace =>
    cases hy with
    | zero => exact .normal hbits (by omega)
    | @normal n f hn hbits' hplace' =>
      -- The difference is taken on the smaller exponent, which is that of the smaller number.
      obtain ⟨d, hd⟩ : ∃ d : Nat, e = f + d + 2 := ⟨(e - f - 2).toNat, by omega⟩
      have hmin : min e f = f := by omega
      have hlarge : m <<< (d + 2) ≠ 0 ∧ (m <<< (d + 2)).log2 = 53 + d + 1 := by
        have hlog := log2_shiftLeft (d + 2) (m := m) (by omega)
        refine ⟨fun h0 => ?_, by omega⟩
        rw [h0, Nat.log2_zero] at hlog
        omega
      have hsmall : n ≤ 2 ^ (53 + d) := by
        have hlt : n < 2 ^ 53 := (Nat.log2_lt (by omega)).1 (by omega)
        have := Nat.pow_le_pow_right (n := 2) (by omega) (Nat.le_add_right 53 d)
        omega
      rw [← Nat.one_shiftLeft] at hsmall
      obtain ⟨hne, hlog⟩ := le_log2_sub hlarge.1 (Nat.le_of_eq hlarge.2.symm) hsmall
      have hexact : Sign.positive.apply (m <<< (d + 2) : Nat) -
          Sign.positive.apply (n <<< 0 : Nat) = ((m <<< (d + 2) - n : Nat) : Int) := by
        rw [Nat.shiftLeft_zero]
        show ((m <<< (d + 2) : Nat) : Int) - n = _
        omega
      show HasReached k (UnpackedFloat.normalize .binary64
        (Sign.positive.apply (m <<< (e - min e f).toNat : Nat) -
          Sign.positive.apply (n <<< (f - min e f).toNat : Nat)) (min e f) .positive)
      rw [hmin, show (e - f).toNat = d + 2 by omega, show (f - f).toNat = 0 by omega, hexact]
      exact (normalize_reaches .positive hne (by unfold leastNormal at *; omega)).mono (by omega)

end

/-- Rounding a product of a float and one changes nothing about what it has reached. -/
theorem mul_one_reaches {k : Int} {u : UnpackedFloat} (h : HasReached k u) (hk : leastNormal ≤ k) :
    HasReached k (mul .binary64 u (.finite .positive Dyadic.hiddenBit (-52) (by decide))) := by
  cases h with
  | infinite => exact .infinite
  | @normal m e hm hbits hplace =>
    have hlog : (m * Dyadic.hiddenBit).log2 = 104 := by
      show (m * 2 ^ 52).log2 = 104
      rw [← Nat.shiftLeft_eq, log2_shiftLeft 52 (by omega), hbits]
    have hround := roundWithAccuracy_reaches (m := m * Dyadic.hiddenBit) (e := e + -52) (by omega)
      (by unfold leastNormal at *; omega)
    exact hround.mono (by omega)

/-- A natural number has reached every power of two that is not above it. -/
theorem reaches_ofNat {k n : Nat} (h : 1 <<< k ≤ n) : Reaches k (Float.ofNat n) := by
  rw [Nat.one_shiftLeft] at h
  have hne : n ≠ 0 := by have := Nat.two_pow_pos k; omega
  have hlog : k ≤ n.log2 := (Nat.le_log2 hne).2 h
  show Reaches k (Float.ofScientific n false 0)
  unfold Float.ofScientific
  split
  · rename_i hsmall
    -- A small number is converted as a word and multiplied by one.
    have hword : n.toUInt64.toNat = n := by
      show n % 2 ^ 64 = n
      omega
    have hconvert : HasReached k n.toUInt64.toFloat.toModel.unpack := by
      show HasReached k (unpack .binary64 (pack .binary64
        (UnpackedFloat.normalize .binary64 (n.toUInt64.toNat : Int) 0 .positive)))
      rw [hword]
      apply unpack_pack_reaches _ (by unfold leastNormal; omega)
      exact (normalize_reaches .positive hne (by unfold leastNormal; omega)).mono (by omega)
    have hone : Float.exactlyRepresentablePowersOfTen[0].toModel.unpack =
        .finite .positive Dyadic.hiddenBit (-52) (by decide) := rfl
    dsimp only
    rw [if_neg Bool.false_ne_true]
    show HasReached k (unpack .binary64 (pack .binary64
      (mul .binary64 n.toUInt64.toFloat.toModel.unpack
        Float.exactlyRepresentablePowersOfTen[0].toModel.unpack)))
    rw [hone]
    exact unpack_pack_reaches (mul_one_reaches hconvert (by unfold leastNormal; omega))
      (by unfold leastNormal; omega)
  · -- A large number is rounded once, from more bits than it has.
    show HasReached k (unpack .binary64 (pack .binary64 (ofScientific .binary64 n 0)))
    apply unpack_pack_reaches _ (by unfold leastNormal; omega)
    have hlog' : (n <<< 53 * 1).log2 = n.log2 + 53 := by
      rw [Nat.mul_one, log2_shiftLeft 53 hne]
    have hround := roundWithAccuracy_reaches (m := n <<< 53 * 1) (e := -53 + 0) (by omega)
      (by unfold leastNormal; omega)
    have hrange : (0 : Int) < 2 ^ Format.binary64.exponentBits := by decide
    unfold ofScientific
    rw [dif_neg hne, if_neg (by omega), if_neg (by omega), if_pos (Int.le_refl 0)]
    exact hround.mono (by omega)

/-! ## Limits on both sides of zero -/

/-- A negative number is no larger than a positive one. -/
theorem HasSign.le {u v : UnpackedFloat} (hu : HasSign .negative u) (hv : HasSign .positive v) :
    u.le v = true := by
  cases hu <;> cases hv <;> rfl

/-- A product of a number with a positive one has the sign of the number. -/
theorem mul_four_sign {s : Sign} {u : UnpackedFloat} (h : HasSign s u) :
    HasSign s (mul .binary64 u (.finite .positive Dyadic.hiddenBit (-50) (by decide))) := by
  have hs : s * .positive = s := by cases s <;> rfl
  -- In each of its forms the product takes the product of the signs, which is the first.
  cases h with
  | infinity =>
    show HasSign s (.infinity (s * .positive))
    rw [hs]
    exact .infinity
  | zero =>
    show HasSign s (.zero (s * .positive))
    rw [hs]
    exact .zero
  | @finite m e =>
    show HasSign s (roundWithAccuracy .binary64 (s * .positive) _ _ .exact)
    rw [hs]
    exact HasSign.dite (fun _ => .zero) fun _ => .finite

/-- What is not below zero is positive, or the negative zero. -/
theorem sign_of_zero_le {u : UnpackedFloat} (h : (UnpackedFloat.zero .positive).le u = true) :
    HasSign .positive u ∨ u = .zero .negative := by
  -- Every other form with a negative sign lies below zero.
  cases u with
  | notANumber => exact nomatch h
  | infinity s =>
    cases s with
    | negative => exact nomatch h
    | positive => exact .inl .infinity
  | zero s =>
    cases s with
    | negative => exact .inr rfl
    | positive => exact .inl .zero
  | finite s m e =>
    cases s with
    | negative => exact nomatch h
    | positive => exact .inl .finite

/-- Four times a number that is not negative is a limit on both sides of zero. -/
theorem neg_mul_four_le {x : Float} (h : 0 ≤ x) : -(x * 4) ≤ x * 4 := by
  rw [le_iff] at h ⊢
  show (unpack .binary64 (pack .binary64 (x * 4).toModel.unpack.neg)).le
    (x * 4).toModel.unpack = true
  have hfour : (4 : Float).toModel.unpack = .finite .positive Dyadic.hiddenBit (-50) (by decide) := rfl
  have hproduct : (x * 4).toModel.unpack = unpack .binary64 (pack .binary64
      (mul .binary64 x.toModel.unpack (.finite .positive Dyadic.hiddenBit (-50) (by decide)))) := by
    rw [← hfour]
    rfl
  rw [hproduct]
  obtain hsign | hzero := sign_of_zero_le h
  · -- The product is positive, and its opposite therefore negative.
    have hpositive := unpack_pack_sign (mul_four_sign hsign)
    refine HasSign.le (unpack_pack_sign ?_) hpositive
    generalize unpack .binary64 _ = u at hpositive
    cases hpositive with
    | infinity => exact .infinity
    | zero => exact .zero
    | finite => exact .finite
  · rw [hzero]
    rfl

end Artillery.Quantity
