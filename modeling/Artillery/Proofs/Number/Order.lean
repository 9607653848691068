import Mathlib.Order.Compare
import Artillery.Proofs.Number.Value

/-!
# The order of floats

Floats that stand for numbers are ordered as their numbers are.  The infinities lie beyond all of
them, and NaN is neither above nor below anything.

## Key results

- `HasValue.lt_iff`, `HasValue.le_iff`: the order of floats is that of their numbers
- `isFinite_iff`: a float is finite if it stands for a number
- `kind`: what a float can be, and where it lies among the numbers
- `HasValue.add_between`, `HasValue.sub_between`: results do not leave an interval between two floats
-/

namespace Artillery.Quantity

open Float.Model (Format UnpackedFloat totalExponent)
open Float.Model.UnpackedFloat

/-! ## Finite floats -/

/-- Canonical forms are ordered by their exponents first. -/
theorem compare_canonical {m n : Nat} {e f : Int} (hm : Canonical m e) (hn : Canonical n f) :
    (compare e f).then (compare m n) = compare ((m : ℚ) * 2 ^ e) (n * 2 ^ f) := by
  -- A smaller exponent makes a smaller number; with the same exponent the mantissas are compared.
  obtain hlt | rfl | hgt := lt_trichotomy e f
  · rw [compare_lt_iff_lt.2 hlt, compare_lt_iff_lt.2 (hn.above hm.bits hm.least hlt)]
    rfl
  · have hpos : (0 : ℚ) < 2 ^ e := by positivity
    have hscale {k l : Nat} (h : k < l) : (k : ℚ) * 2 ^ e < l * 2 ^ e :=
      mul_lt_mul_of_pos_right (Nat.cast_lt.2 h) hpos
    rw [compare_eq_iff_eq.2 rfl]
    obtain hlt | rfl | hgt := lt_trichotomy m n
    · rw [compare_lt_iff_lt.2 hlt, compare_lt_iff_lt.2 (hscale hlt)]
      rfl
    · rw [compare_eq_iff_eq.2 rfl, compare_eq_iff_eq.2 rfl]
      rfl
    · rw [compare_gt_iff_gt.2 hgt, compare_gt_iff_gt.2 (hscale hgt)]
      rfl
  · rw [compare_gt_iff_gt.2 hgt, compare_gt_iff_gt.2 (hm.above hn.bits hn.least hgt)]
    rfl

/-- Changing both signs turns the order around. -/
theorem compare_neg_neg (p q : ℚ) : compare (-p) (-q) = (compare p q).swap := by
  obtain hlt | rfl | hgt := lt_trichotomy p q
  · rw [compare_lt_iff_lt.2 hlt, compare_gt_iff_gt.2 (neg_lt_neg hlt)]
    rfl
  · rw [compare_eq_iff_eq.2 rfl, compare_eq_iff_eq.2 rfl]
    rfl
  · rw [compare_gt_iff_gt.2 hgt, compare_lt_iff_lt.2 (neg_lt_neg hgt)]
    rfl

/-- A positive sign makes a positive number. -/
theorem magnitude_pos {m : Nat} (e : Int) (hm : 0 < m) :
    (0 : ℚ) < (Sign.positive.apply m : Int) * 2 ^ e := by
  have hcast : (0 : ℚ) < m := Nat.cast_pos.2 hm
  show (0 : ℚ) < ((m : Int) : ℚ) * 2 ^ e
  positivity

/-- A negative number is the opposite of a positive one. -/
theorem negative_eq (m : Nat) (e : Int) : ((Sign.negative.apply m : Int) : ℚ) * 2 ^ e =
    -((Sign.positive.apply m : Int) * 2 ^ e) := by
  rw [← neg_mul, ← apply_neg]
  rfl

/-- It lies below zero. -/
theorem magnitude_neg {m : Nat} (e : Int) (hm : 0 < m) :
    ((Sign.negative.apply m : Int) : ℚ) * 2 ^ e < 0 :=
  negative_eq m e ▸ neg_neg_of_pos (magnitude_pos e hm)

/-- Unpacked floats are ordered as their numbers are. -/
theorem Denotes.compare {u v : UnpackedFloat} {p q : ℚ} (hu : Denotes u p) (hv : Denotes v q) :
    u.compare v = some (Ord.compare p q) := by
  cases hu with
  | zero =>
    cases hv with
    | zero => exact congrArg some (compare_eq_iff_eq.2 rfl).symm
    | @finite t n f hn =>
      cases t with
      | positive => exact congrArg some (compare_lt_iff_lt.2 (magnitude_pos f hn)).symm
      | negative => exact congrArg some (compare_gt_iff_gt.2 (magnitude_neg f hn)).symm
  | @finite s m e hm hcanonical =>
    cases hv with
    | zero =>
      cases s with
      | positive => exact congrArg some (compare_gt_iff_gt.2 (magnitude_pos e hm)).symm
      | negative => exact congrArg some (compare_lt_iff_lt.2 (magnitude_neg e hm)).symm
    | @finite t n f hn hcanonical' =>
      -- Where the signs are the same the exponents decide, and then the mantissas.
      have hsame := compare_canonical hcanonical hcanonical'
      cases s with
      | positive =>
        cases t with
        | positive => exact congrArg some hsame
        | negative =>
          have hgt := (magnitude_neg f hn).trans (magnitude_pos e hm)
          exact congrArg some (compare_gt_iff_gt.2 hgt).symm
      | negative =>
        cases t with
        | positive =>
          have hlt := (magnitude_neg e hm).trans (magnitude_pos f hn)
          exact congrArg some (compare_lt_iff_lt.2 hlt).symm
        | negative =>
          rw [negative_eq, negative_eq, compare_neg_neg]
          exact congrArg (fun o => some o.swap) hsame

section

variable {x y : Float} {p q : ℚ}

/-- Floats are ordered as their values are. -/
theorem HasValue.lt_iff (hx : HasValue x p) (hy : HasValue y q) : x < y ↔ p < q := by
  rw [Quantity.lt_iff, UnpackedFloat.lt, Denotes.compare hx hy]
  simp [compare_lt_iff_lt]

/-- So they are with equality. -/
theorem HasValue.le_iff (hx : HasValue x p) (hy : HasValue y q) : x ≤ y ↔ p ≤ q := by
  rw [Quantity.le_iff, UnpackedFloat.le, Denotes.compare hx hy, Option.any_some,
    Ordering.isLE_iff_ne_gt, ← compare_le_iff_le]

/-- A float is finite if it stands for a number. -/
theorem isFinite_iff : x.isFinite = true ↔ ∃ q, HasValue x q := by
  show x.toModel.unpack.isFinite = true ↔ ∃ q, Denotes x.toModel.unpack q
  have hfits : Fits x.toModel.unpack := fits_unpack _
  generalize x.toModel.unpack = u at hfits
  cases hfits with
  | notANumber | infinity => exact ⟨fun h => (nomatch h), fun ⟨_, h⟩ => nomatch h⟩
  | zero => exact ⟨fun _ => ⟨0, .zero⟩, fun _ => rfl⟩
  | finite hcanonical => exact ⟨fun _ => ⟨_, .finite hcanonical⟩, fun _ => rfl⟩

end

/-! ## All floats -/

/-- What a float can be, and where it lies among the numbers. -/
inductive Kind (x : Float) : Prop
  | finite {q : ℚ} (value : HasValue x q)
  | below (infinite : x.isFinite = false) (number : x.isNaN = false)
    (lt : ∀ {y q}, HasValue y q → x < y ∧ ¬y ≤ x)
  | above (infinite : x.isFinite = false) (number : x.isNaN = false)
    (gt : ∀ {y q}, HasValue y q → y < x ∧ ¬x ≤ y)
  | nan (infinite : x.isFinite = false) (nan : x.isNaN = true)
    (apart : ∀ y, ¬x < y ∧ ¬y < x ∧ ¬x ≤ y ∧ ¬y ≤ x)

/-- NaN cannot be compared with anything. -/
theorem compare_notANumber (u : UnpackedFloat) :
    UnpackedFloat.compare .notANumber u = none ∧ u.compare .notANumber = none := by
  cases u <;> exact ⟨rfl, rfl⟩

/-- The infinities lie beyond all numbers. -/
theorem Denotes.compare_infinity {u : UnpackedFloat} {q : ℚ} (h : Denotes u q) :
    (UnpackedFloat.compare (.infinity .negative) u = some .lt ∧
        u.compare (.infinity .negative) = some .gt) ∧
      (UnpackedFloat.compare (.infinity .positive) u = some .gt ∧
        u.compare (.infinity .positive) = some .lt) := by
  cases h <;> exact ⟨⟨rfl, rfl⟩, rfl, rfl⟩

/-- A comparison decides both relations. -/
theorem lt_le_of_compare {x y : Float} {o : Option Ordering}
    (h : x.toModel.unpack.compare y.toModel.unpack = o) :
    (x < y ↔ o = some .lt) ∧ (x ≤ y ↔ o.any (·.isLE) = true) := by
  rw [lt_iff, le_iff, UnpackedFloat.lt, UnpackedFloat.le, h, beq_iff_eq]
  exact ⟨Iff.rfl, Iff.rfl⟩

/-- Every float is of one of these kinds. -/
theorem kind (x : Float) : Kind x := by
  have hfits : Fits x.toModel.unpack := fits_unpack _
  -- The unpacked form is named, so that the cases of it do not reach into the float.
  obtain ⟨u, hu⟩ : ∃ u, x.toModel.unpack = u := ⟨_, rfl⟩
  have hfinite : x.isFinite = u.isFinite := congrArg UnpackedFloat.isFinite hu
  have hnan : x.isNaN = u.isNaN := congrArg UnpackedFloat.isNaN hu
  rw [hu] at hfits
  cases hfits with
  | zero => exact .finite (q := 0) (by unfold HasValue; rw [hu]; exact .zero)
  | finite hcanonical => exact .finite (by unfold HasValue; rw [hu]; exact .finite hcanonical)
  | notANumber =>
    refine .nan hfinite hnan fun y => ?_
    obtain ⟨hleft, hright⟩ := compare_notANumber y.toModel.unpack
    rw [← hu] at hleft hright
    simp [lt_le_of_compare hleft, lt_le_of_compare hright]
  | @infinity s =>
    cases s with
    | negative =>
      refine .below hfinite hnan fun {y q} hy => ?_
      obtain ⟨⟨hleft, hright⟩, _⟩ := Denotes.compare_infinity hy
      rw [← hu] at hleft hright
      simp [lt_le_of_compare hleft, lt_le_of_compare hright]
    | positive =>
      refine .above hfinite hnan fun {y q} hy => ?_
      obtain ⟨_, hleft, hright⟩ := Denotes.compare_infinity hy
      rw [← hu] at hleft hright
      simp [lt_le_of_compare hleft, lt_le_of_compare hright]

/-- What lies below is not above. -/
theorem le_of_lt {x y : Float} (h : x < y) : x ≤ y := by
  obtain ⟨hlt, hle⟩ := lt_le_of_compare (x := x) (y := y) rfl
  rw [hle, hlt.1 h]
  rfl

/-- A float with a value is a number. -/
theorem HasValue.isNaN {x : Float} {q : ℚ} (h : HasValue x q) : x.isNaN = false := by
  show x.toModel.unpack.isNaN = false
  unfold HasValue at h
  generalize x.toModel.unpack = u at h
  cases h <;> rfl

/-- What is no number is not compared with anything. -/
theorem apart_of_isNaN {x : Float} (h : x.isNaN = true) (y : Float) :
    ¬x < y ∧ ¬y < x ∧ ¬x ≤ y ∧ ¬y ≤ x := by
  cases kind x with
  | finite value => exact nomatch value.isNaN.symm.trans h
  | below _ number => exact nomatch number.symm.trans h
  | above _ number => exact nomatch number.symm.trans h
  | nan _ _ apart => exact apart y

/-! ## Results between two floats -/

/-- Rounding does not leave an interval between two floats. -/
theorem between_pack {x l h : Float} {u : UnpackedFloat} {v lo hi : ℚ}
    (hx : x.toModel.unpack = unpack .binary64 (UnpackedFloat.pack .binary64 u))
    (hround : ∃ q, Denotes u q ∧ RoundsTo v q) (hlo : HasValue l lo) (hhi : HasValue h hi)
    (hle : lo ≤ v) (hge : v ≤ hi) : ∃ r, HasValue x r ∧ lo ≤ r ∧ r ≤ hi := by
  obtain ⟨r, hr, hrounds⟩ := hround
  have hbelow : lo ≤ r := (hrounds lo hlo.representable).2 hle
  have habove : r ≤ hi := (hrounds hi hhi.representable).1 hge
  -- Lying between two floats it is not too large to be packed.
  have hlimit : |r| < 2 ^ 1024 :=
    abs_lt.2 ⟨(abs_lt.1 hlo.lt_limit).1.trans_le hbelow, habove.trans_lt (abs_lt.1 hhi.lt_limit).2⟩
  refine ⟨r, ?_, hbelow, habove⟩
  unfold HasValue
  rw [hx]
  exact hr.pack hlimit

section

variable {x y l h : Float} {p q lo hi : ℚ} (hx : HasValue x p) (hy : HasValue y q)
  (hlo : HasValue l lo) (hhi : HasValue h hi)
include hx hy hlo hhi

/-- A sum that lies between two floats is rounded to one that does. -/
theorem HasValue.add_between (hle : lo ≤ p + q) (hge : p + q ≤ hi) :
    ∃ r, HasValue (x + y) r ∧ lo ≤ r ∧ r ≤ hi :=
  between_pack rfl (Denotes.add hx hy) hlo hhi hle hge

/-- So is a difference. -/
theorem HasValue.sub_between (hle : lo ≤ p - q) (hge : p - q ≤ hi) :
    ∃ r, HasValue (x - y) r ∧ lo ≤ r ∧ r ≤ hi :=
  between_pack rfl (Denotes.sub hx hy) hlo hhi hle hge

end

/-! ## Lengths -/

/-- A length is no negative zero, and so it stays as it is when nothing is added. -/
theorem abs_add_zero (x : Float) : x.abs + 0 = x.abs := by
  -- Adding a positive zero changes nothing but a negative zero, which a length is not.
  have hadd {u : UnpackedFloat} (hu : Fits u) :
      UnpackedFloat.add .binary64 u.abs (.zero .positive) = u.abs ∧ Fits u.abs := by
    cases hu with
    | notANumber => exact ⟨rfl, .notANumber⟩
    | infinity => exact ⟨rfl, .infinity⟩
    | zero => exact ⟨rfl, .zero⟩
    | finite hcanonical hmost => exact ⟨rfl, .finite hcanonical hmost⟩
  obtain ⟨hsame, hfits⟩ := hadd (fits_unpack x.toBits.toBitVec)
  have hlength : x.abs.toModel.unpack = x.toModel.unpack.abs := hfits.unpack_pack
  have hzero : (0 : Float).toModel.unpack = .zero .positive := rfl
  calc x.abs + 0 = Float.ofModel
        (.pack (UnpackedFloat.add .binary64 x.abs.toModel.unpack (0 : Float).toModel.unpack)) := rfl
    _ = Float.ofModel (.pack x.toModel.unpack.abs) := by
        rw [hlength, hzero]
        exact congrArg (fun u => Float.ofModel (.pack u)) hsame
    _ = x.abs := rfl

end Artillery.Quantity
