import Artillery.Placement
import Artillery.Proofs.Number.Value
import Artillery.Proofs.Room
import Mathlib.Tactic.Choose

/-!
# The columns of placed actors

Each actor gets an equal share of the columns between the margins and stands in the middle of its
share.  The shares are computed with floats, which can put an actor one column to the left of its
place only where that place is a column exactly; where the columns can be shared without a rest,
nothing is rounded.

## Key results

- `middle_floor`: how far floats can miss the column of a middle
- `column_central`: the column of an actor lies in the middle of its share
- `Lineup.mono`: columns do not decrease
- `Lineup.clear_iff`: when neighbours have the same column or room for their tanks side by side
-/

namespace Artillery.Placement

open Quantity (HasValue hasValue_half hasValue_ofNat hasValue_ofInt)

/-! ## The middle of a share -/

/-- Column `x` is the middle of the share of actor `i` of `n`, rounded down.  A middle that is a
column itself may have been missed by one, unless nothing had to be rounded. -/
structure Central (width n i : Nat) (x : Int) : Prop where
  le : 2 * n * (x - 20) ≤ ((width : Int) - 40) * (2 * i + 1)
  ge : ((width : Int) - 40) * (2 * i + 1) ≤ 2 * n * (x - 19)
  exact : (n : Int) ∣ (width : Int) - 40 → ((width : Int) - 40) * (2 * i + 1) < 2 * n * (x - 19)

/-- How many shares lie to the left of the middle of one. -/
theorem shares_value {i : Nat} (hi : i < 10) :
    HasValue (Float.ofNat i + 0.5) ((2 * i + 1) / 2) := by
  have hadd := (hasValue_ofNat (n := i) (by omega)).add hasValue_half
  rw [show (i : ℚ) + 1 / 2 = ((2 * i + 1 : Int) : ℚ) / 2 by push_cast; ring] at hadd
  have hsum := hadd.half (by omega)
  push_cast at hsum
  exact hsum

/-- The middle of share `i` of `n` in a stretch of `k` columns. -/
def middle (k : Int) (n i : Nat) : Float :=
  Quantity.ofInt k / Float.ofNat n * (Float.ofNat i + 0.5)

section

variable {k : Int} {n i : Nat} (hk : 0 < k ∧ k < 2 ^ 31) (hn : n ≤ 10) (hi : i < n)
include hk hn hi

/-- A whole number of columns for each actor is exact, and so are the halves of its multiples. -/
theorem middle_exact (hdvd : (n : Int) ∣ k) :
    ∃ p, HasValue (middle k n i) p ∧ 2 * n * p = k * (2 * i + 1) := by
  obtain ⟨q, rfl⟩ := hdvd
  have hpos : (n : ℚ) ≠ 0 := by exact_mod_cast (show n ≠ 0 by omega)
  have hspacing := (hasValue_ofInt (n := n * q) (by omega)).div
    (hasValue_ofNat (n := n) (by omega)) hpos
  have hq : 0 < q ∧ q < 2 ^ 31 := by
    constructor <;> nlinarith
  rw [show ((n * q : Int) : ℚ) / n = q by push_cast; field_simp] at hspacing
  -- Numbers of this size and their halves are floats, so that nothing is rounded.
  have hproduct := (hspacing.int (by omega)).mul (shares_value (i := i) (by omega))
  rw [show (q : ℚ) * ((2 * i + 1) / 2) = ((q * (2 * i + 1) : Int) : ℚ) / 2 by
    push_cast; ring] at hproduct
  refine ⟨_, hproduct.half ?_, ?_⟩
  · have hmost : q * (2 * i + 1) ≤ 2 ^ 31 * 20 := by nlinarith
    have hleast : 0 ≤ q * (2 * i + 1) := mul_nonneg hq.1.le (by omega)
    omega
  · push_cast
    ring

/-- Two roundings move the middle of a share by less than the least distance of such a middle to a
column it does not lie on. -/
theorem middle_near : ∃ p, HasValue (middle k n i) p ∧ |2 * n * p - k * (2 * i + 1)| < 1 := by
  have hpos : (0 : ℚ) < n := by exact_mod_cast (show 0 < n by omega)
  have hspacing := (hasValue_ofInt (n := k) (by omega)).div (hasValue_ofNat (n := n) (by omega))
    hpos.ne'
  have hn' : (n : ℚ) ≤ 10 := by exact_mod_cast hn
  have hk0 : (0 : ℚ) ≤ k := by exact_mod_cast hk.1.le
  have hk1 : (k : ℚ) ≤ 2 ^ 31 := by exact_mod_cast hk.2.le
  -- A middle lies within the stretch, whose columns are numbers of 32 bits.
  have hhalf : ((2 * i + 1) / 2 : ℚ) ≤ n := by
    rw [div_le_iff₀ two_pos]
    exact_mod_cast (show 2 * i + 1 ≤ n * 2 by omega)
  have hlarge : (k : ℚ) / n * ((2 * i + 1) / 2) ≤ 2 ^ 31 :=
    calc (k : ℚ) / n * ((2 * i + 1) / 2) ≤ k / n * n :=
          mul_le_mul_of_nonneg_left hhalf (by positivity)
      _ = k := div_mul_cancel₀ _ hpos.ne'
      _ ≤ 2 ^ 31 := hk1
  have hshare : (k : ℚ) / n ≤ 2 ^ 31 :=
    (div_le_self hk0 (by exact_mod_cast (show 1 ≤ n by omega))).trans hk1
  obtain ⟨p, hp, hnear⟩ := hspacing.near_mul (shares_value (i := i) (by omega))
    ⟨by positivity, hshare⟩ ⟨by positivity, hhalf.trans hn'⟩ hlarge
  refine ⟨p, hp, ?_⟩
  have hmiddle : 2 * n * (k / n * ((2 * i + 1) / 2)) = (k : ℚ) * (2 * i + 1) := by field_simp
  rw [← hmiddle, ← mul_sub, abs_mul, abs_of_pos (by positivity)]
  calc 2 * (n : ℚ) * |p - k / n * ((2 * i + 1) / 2)| ≤ 20 * (11 / 2 ^ 20) :=
        mul_le_mul (by linarith) hnear (abs_nonneg _) (by norm_num)
    _ < 1 := by norm_num

/-- The column in which the middle of a share is found: the integer below it, or the one below that
where the middle is an integer and has been rounded. -/
theorem middle_floor : ∃ c : Int, Quantity.floor (middle k n i) = Quantity.saturate c ∧
    2 * n * c ≤ k * (2 * i + 1) ∧ k * (2 * i + 1) ≤ 2 * n * (c + 1) ∧
      ((n : Int) ∣ k → k * (2 * i + 1) < 2 * n * (c + 1)) := by
  have hpos : (0 : ℚ) < 2 * n := by exact_mod_cast (show 0 < 2 * n by omega)
  have hbounds {p : ℚ} : 2 * n * (⌊p⌋ : ℚ) ≤ 2 * n * p ∧ 2 * n * p < 2 * n * ((⌊p⌋ : ℚ) + 1) :=
    ⟨mul_le_mul_of_nonneg_left (Int.floor_le p) hpos.le,
      mul_lt_mul_of_pos_left (Int.lt_floor_add_one p) hpos⟩
  by_cases hdvd : (n : Int) ∣ k
  · obtain ⟨p, hp, hexact⟩ := middle_exact hk hn hi hdvd
    obtain ⟨hbelow, habove⟩ := hexact ▸ hbounds (p := p)
    have hlt : k * (2 * i + 1) < 2 * n * (⌊p⌋ + 1) := by exact_mod_cast habove
    exact ⟨⌊p⌋, Quantity.floor_eq hp, by exact_mod_cast hbelow, hlt.le, fun _ => hlt⟩
  · obtain ⟨p, hp, hnear⟩ := middle_near hk hn hi
    obtain ⟨hlow, hhigh⟩ := abs_lt.1 hnear
    obtain ⟨hbelow, habove⟩ := hbounds (p := p)
    have hlt : 2 * n * (⌊p⌋ : ℚ) < k * (2 * i + 1) + 1 := by linarith
    have hlt' : (k : ℚ) * (2 * i + 1) < 2 * n * (⌊p⌋ + 1) + 1 := by linarith
    -- These are integers, so that what is less than one more is no more.
    exact ⟨⌊p⌋, Quantity.floor_eq hp, Int.lt_add_one_iff.1 (by exact_mod_cast hlt),
      Int.lt_add_one_iff.1 (by exact_mod_cast hlt'), fun h => absurd h hdvd⟩

end

section

variable {width n i : Nat} (hwidth : Config.minWidth ≤ width) (hw : width < 2 ^ 31) (hn : n ≤ 10)
  (hi : i < n)
include hwidth hw hn hi

omit hw in
/-- The middle of a share lies between the margins. -/
theorem Central.bounds {x : Int} (h : Central width n i x) : 20 ≤ x ∧ x ≤ (width : Int) - 21 := by
  have hmin : Config.minWidth = 41 := rfl
  have hpos : 0 < 2 * (n : Int) := by omega
  have hk : 0 < (width : Int) - 40 := by omega
  have hmiddle : 0 < ((width : Int) - 40) * (2 * i + 1) := mul_pos hk (by omega)
  have hlast : ((width : Int) - 40) * (2 * i + 1) < ((width : Int) - 40) * (2 * n) :=
    mul_lt_mul_of_pos_left (by omega) hk
  have hleft : 0 < x - 19 := pos_of_mul_pos_right (hmiddle.trans_le h.ge) hpos.le
  have hright : x - 20 < (width : Int) - 40 := by
    refine lt_of_mul_lt_mul_left ?_ hpos.le
    have := h.le
    linarith
  omega

/-- Whatever is rounded, an actor stands in the middle of its share. -/
theorem column_central : ∃ x, column width n i = .ok x ∧ Central width n i x := by
  have hmin : Config.minWidth = 41 := rfl
  obtain ⟨k, hk⟩ : ∃ k : Int, (width : Int) - 40 = k := ⟨_, rfl⟩
  obtain ⟨c, hfloor, hle, hge, hexact⟩ := middle_floor (k := k) (by omega) hn hi
  have hcentral : Central width n i (20 + c) := by
    subst hk
    refine ⟨?_, ?_, fun hdvd => ?_⟩
    · rwa [add_sub_cancel_left]
    · rwa [show 20 + c - 19 = c + 1 by ring]
    · rw [show 20 + c - 19 = c + 1 by ring]
      exact hexact hdvd
  obtain ⟨hleft, hright⟩ := hcentral.bounds hwidth hn hi
  refine ⟨20 + c, ?_, hcentral⟩
  -- The middle lies between the margins and within 32 bits, so that nothing moves it.
  have hmiddle : Quantity.floor (middle k n i) = c := by
    rw [hfloor]
    unfold Quantity.saturate Quantity.least Quantity.greatest
    omega
  subst hk
  show clampInt 20 ((width : Int) - 20 - 1) (20 + Quantity.floor (middle (width - 40) n i)) = _
  rw [hmiddle, clampInt_of_le _ (by omega)]
  congr 1
  omega

end

/-! ## Neighbours -/

/-- Two columns, from left to right, are the same, or tanks have room on them side by side. -/
def Clear (x x' : Int) : Prop := x = x' ∨ 2 * Actor.halfWidth < x' - x

/-- Who is clear of one that is clear of a third is clear of the third. -/
theorem Clear.trans {x x' x'' : Int} (h : Clear x x') (h' : Clear x' x'') : Clear x x'' := by
  have hhalf : Actor.halfWidth = 3 := rfl
  unfold Clear at *
  omega

section

variable {width n i : Nat} {x x' : Int} (h : Central width n i x) (h' : Central width n (i + 1) x')
include h h'

/-- The columns of neighbours are at least a share apart, rounded down. -/
theorem Central.gap_ge : (width : Int) - 40 ≤ n * (x' - x + 1) := by
  have hright := h'.ge
  push_cast at hright
  linarith [h.le]

/-- They are at most a share apart, rounded up. -/
theorem Central.gap_le : n * (x' - x - 1) ≤ (width : Int) - 40 := by
  have hright := h'.le
  push_cast at hright
  linarith [h.ge]

/-- Where nothing has to be rounded they are more than that apart. -/
theorem Central.gap_gt (hdvd : (n : Int) ∣ (width : Int) - 40) :
    (width : Int) - 40 < n * (x' - x + 1) := by
  have hright := h'.exact hdvd
  push_cast at hright
  linarith [h.le]

theorem Central.mono (hwidth : Config.minWidth ≤ width) : x ≤ x' := by
  have hmin : Config.minWidth = 41 := rfl
  have hgap : 0 < n * (x' - x + 1) := lt_of_lt_of_le (by omega) (h.gap_ge h')
  have hpos : 0 < x' - x + 1 := pos_of_mul_pos_right hgap (by omega)
  omega

/-- Shares that are as wide as a tank leave room for both. -/
theorem Central.clear (hwide : 40 + 7 * n ≤ width) (hn : 0 < n) : Clear x x' := by
  have hhalf : Actor.halfWidth = 3 := rfl
  have hgap : n * 7 < n * (x' - x + 1) := by
    obtain hexact | hwider := Nat.eq_or_lt_of_le hwide
    · have hshare : (width : Int) - 40 = n * 7 := by omega
      rw [← hshare]
      exact h.gap_gt h' ⟨7, hshare⟩
    · exact lt_of_lt_of_le (by omega) (h.gap_ge h')
  have := lt_of_mul_lt_mul_left hgap (by omega)
  unfold Clear
  omega

/-- Where shares are narrower than a tank, neighbours that are clear of each other have the same
column, in shares of less than one column, or are seven columns apart, in shares of at least six. -/
theorem Central.clear_cases (hnarrow : width < 40 + 7 * n) (hclear : Clear x x') :
    (x' = x ∧ width < 40 + n) ∨ (x' = x + 7 ∧ 40 + 6 * n ≤ width) := by
  have hhalf : Actor.halfWidth = 3 := rfl
  have hle := h.gap_le h'
  obtain hsame | hfar := hclear
  · refine .inl ⟨hsame.symm, ?_⟩
    have hge := h.gap_ge h'
    rw [hsame, sub_self, zero_add, mul_one] at hge
    by_contra hwide
    -- A share of exactly one column is not rounded, so that neighbours differ.
    have hone : (width : Int) - 40 = n := by omega
    have hgt := h.gap_gt h' ⟨1, by rw [hone, mul_one]⟩
    rw [hsame, sub_self, zero_add, mul_one] at hgt
    omega
  · -- Seven columns are the most that such shares, rounded up, are apart.
    right
    have hlt : n * (x' - x - 1) < n * (7 : Int) := by omega
    have hmost : x' - x - 1 < 7 := lt_of_mul_lt_mul_left hlt (by omega)
    obtain rfl : x' = x + 7 := by omega
    rw [show x + 7 - x - 1 = 6 by ring] at hle
    omega

end

/-! ## All actors -/

/-- The columns of all actors, each in the middle of its share. -/
structure Lineup (width n : Nat) (xs : Nat → Int) : Prop where
  wide : Config.minWidth ≤ width
  few : n ≤ 10
  column : ∀ i < n, column width n i = .ok (xs i)
  central : ∀ i < n, Central width n i (xs i)

/-- There is a lineup for every count up to ten. -/
theorem exists_lineup {width n : Nat} (hwidth : Config.minWidth ≤ width) (hw : width < 2 ^ 31)
    (hn : n ≤ 10) : ∃ xs, Lineup width n xs := by
  have hcolumns : ∀ i, i < n → ∃ x, column width n i = .ok x ∧ Central width n i x :=
    fun i hi => column_central hwidth hw hn hi
  choose! xs hxs using hcolumns
  exact ⟨xs, hwidth, hn, fun i hi => (hxs i hi).1, fun i hi => (hxs i hi).2⟩

namespace Lineup

variable {width n : Nat} {xs : Nat → Int} (h : Lineup width n xs)
include h

theorem bounds {i : Nat} (hi : i < n) : 20 ≤ xs i ∧ xs i ≤ (width : Int) - 21 :=
  (h.central i hi).bounds h.wide h.few hi

/-- Columns do not decrease. -/
theorem mono {i j : Nat} (hij : i ≤ j) (hj : j < n) : xs i ≤ xs j := by
  induction j, hij using Nat.le_induction with
  | base => exact le_rfl
  | succ j hij ih =>
    exact (ih (by omega)).trans ((h.central j (by omega)).mono (h.central (j + 1) hj) h.wide)

/-- Where shares are narrower than a tank, neighbours that are clear are all so in the same way. -/
theorem evenly_apart (hn : 2 ≤ n) (hnarrow : width < 40 + 7 * n)
    (hclear : ∀ i, i + 1 < n → Clear (xs i) (xs (i + 1))) :
    (width < 40 + n ∧ ∀ i < n, xs i = xs 0) ∨
      (40 + 6 * n ≤ width ∧ ∀ i < n, xs i = xs 0 + 7 * i) := by
  -- Neighbours are in the same column or seven apart, and which of them the width decides for all.
  have hgap (i : Nat) (hi : i + 1 < n) :=
    (h.central i (by omega)).clear_cases (h.central (i + 1) hi) hnarrow (hclear i hi)
  obtain ⟨_, hshare⟩ | ⟨_, hshare⟩ := hgap 0 (by omega)
  · refine .inl ⟨hshare, fun i hi => ?_⟩
    induction i with
    | zero => rfl
    | succ i ih =>
      have := ih (by omega)
      have := hgap i hi
      omega
  · refine .inr ⟨hshare, fun i hi => ?_⟩
    induction i with
    | zero => simp
    | succ i ih =>
      have := ih (by omega)
      have := hgap i hi
      push_cast
      omega

/-- Several actors do not all stand in one column, unless there is only one. -/
theorem not_all_same (hn : 2 ≤ n) (hwidth : Config.minWidth < width) (hshare : width < 40 + n) :
    ¬∀ i < n, xs i = xs 0 := by
  have hmin : Config.minWidth = 41 := rfl
  intro hsame
  have hfirst := (h.central 0 (by omega)).le
  have hlast := (h.central (n - 1) (by omega)).ge
  rw [hsame (n - 1) (by omega), Nat.cast_sub (by omega)] at hlast
  -- The middle of the first share lies in the first column, that of the last one beyond it.
  have hleft : xs 0 - 20 < 1 := by
    refine lt_of_mul_lt_mul_left (a := 2 * (n : Int)) ?_ (by omega)
    omega
  have hbeyond : 2 * (2 * (n : Int) - 1) ≤ ((width : Int) - 40) * (2 * n - 1) :=
    mul_le_mul_of_nonneg_right (by omega) (by omega)
  have hwithin : 2 * (n : Int) * (xs 0 - 19) ≤ 2 * n * 1 :=
    mul_le_mul_of_nonneg_left (by omega) (by omega)
  push_cast at hlast
  linarith

/-- Nor can they stand exactly as far apart as a tank is wide on shares that are narrower. -/
theorem not_all_seven (hn : 2 ≤ n) (hshare : 40 + 6 * n ≤ width) (hnarrow : width < 40 + 7 * n) :
    ¬∀ i < n, xs i = xs 0 + 7 * i := by
  intro hsteps
  have hfirst := h.central 0 (by omega)
  have hlast := (h.central (n - 1) (by omega)).le
  rw [hsteps (n - 1) (by omega), Nat.cast_sub (by omega)] at hlast
  -- The middle of the first share is beyond the third column, and the steps from there go too far.
  have hleft : 3 < xs 0 - 19 := by
    refine lt_of_mul_lt_mul_left (a := 2 * (n : Int)) ?_ (by omega)
    have hge := hfirst.ge
    by_cases hsix : width = 40 + 6 * n
    · have := hfirst.exact ⟨6, by omega⟩
      omega
    · omega
  have hfar : 2 * (n : Int) * (7 * n - 4) ≤ 2 * n * (xs 0 + 7 * (n - 1) - 20) :=
    mul_le_mul_of_nonneg_left (by omega) (by omega)
  have hmiddle : ((width : Int) - 40) * (2 * n - 1) ≤ (7 * n - 1) * (2 * n - 1) :=
    mul_le_mul_of_nonneg_right (by omega) (by omega)
  push_cast at hlast
  linarith

/-- All neighbours have the same column or room side by side exactly where there is one actor, one
column, or a share as wide as a tank for each. -/
theorem clear_iff : (∀ i, i + 1 < n → Clear (xs i) (xs (i + 1))) ↔
    n ≤ 1 ∨ width = Config.minWidth ∨ 40 + 7 * n ≤ width := by
  have hmin : Config.minWidth = 41 := rfl
  have hwidth := h.wide
  constructor
  · intro hclear
    by_contra hnone
    obtain ⟨hshare, hsame⟩ | ⟨hshare, hsteps⟩ := h.evenly_apart (by omega) (by omega) hclear
    · exact h.not_all_same (by omega) (by omega) hshare hsame
    · exact h.not_all_seven (by omega) hshare (by omega) hsteps
  · intro hroom i hi
    -- One actor has no neighbour, in the smallest arena there is one column, and else there is
    -- room.
    obtain hone | hleast | hwide := hroom
    · omega
    · have hfirst := h.bounds (i := i) (by omega)
      have hsecond := h.bounds hi
      exact .inl (by omega)
    · exact (h.central i (by omega)).clear (h.central (i + 1) hi) hwide (by omega)

end Lineup

/-- Whoever stands further right is clear of everyone to the left if neighbours are. -/
theorem clear_of_le {n : Nat} {xs : Nat → Int}
    (hclear : ∀ i, i + 1 < n → Clear (xs i) (xs (i + 1))) {i j : Nat} (hij : i ≤ j) (hj : j < n) :
    Clear (xs i) (xs j) := by
  induction j, hij using Nat.le_induction with
  | base => exact .inl rfl
  | succ j hij ih => exact (ih (by omega)).trans (hclear j hj)

end Artillery.Placement
