import Artillery.Proofs.Number.Remainder
import Artillery.Wall

/-!
# What the walls keep in

Every policy that has walls answers for every position, and never that a projectile is lost.  It
leaves the projectile between the walls, with three exceptions: a concrete wall passes NaN on, an
infinite position has no place in an arena that wraps around, and in an arena that is wider than
`2 ^ 53` two columns from the wall can still be at the wall.

## Key results

- `apply_bounces`, `apply_strikes`, `apply_wraps`: what each kind of walls does outside of them
- `sub_two_lt`: two columns from the wall is off the wall
- `apply_keeps`: what the walls leave alone, what they answer, and what exactly they keep in
-/

namespace Artillery

open Quantity

/-- In arenas of at most `2 ^ 53` columns there are two columns to step back. -/
theorem Quantity.HasValue.sub_two_lt {width : Float} {q : ℚ} (hwidth : HasValue width q)
    (hleast : 2 ≤ q) (hmost : q ≤ 2 ^ 53) : width - 2 < width := by
  have hsize : |q - 2| ≤ 2 ^ 1023 := by
    rw [abs_of_nonneg (by linarith)]
    exact (show q - 2 ≤ 2 ^ 53 by linarith).trans (pow_le_pow_right₀ one_le_two (by omega))
  obtain ⟨r, hr, hround⟩ := hwidth.sub hasValue_two hsize
  -- One column from the wall there is a float that rounding does not pass.
  have hcolumn := hwidth.representable.sub_one (by linarith) hmost
  have hbelow : r ≤ q - 1 := (hround _ hcolumn).1 (by linarith)
  exact (hr.lt_iff hwidth).2 (by linarith)

theorem Quantity.hasValue_two_pow : HasValue 9007199254740992 (2 ^ 53) :=
  hasValue_two_zpow (e := 1) (by decide) rfl

namespace WallPolicy

/-- A projectile is where the walls say that it is: between them, or at the one it has struck. -/
def Kept (width : Float) : WallOutcome → Float → Prop
  | .inside, x => 0 ≤ x ∧ x < width
  | .hit, x => 0 ≤ x ∧ x ≤ width - 1
  | .beyond, _ => False
  | .offscreen, _ => False

/-- What a policy keeps between walls of some distance. -/
def Keeps (policy : WallPolicy) (width x : Float) : Prop :=
  match policy with
  | concrete => x.isNaN = false
  | wrap => x.isFinite = true
  | _ => x < width ∨ width - 2 < width

/-- A reflecting wall keeps a projectile if it was left of the wall, or if the float arithmetic can
tell the wall from two columns before it. -/
theorem keeps_of_reflection {policy : WallPolicy} {factor : Float}
    (h : policy.reflection = some factor) (width x : Float) :
    policy.Keeps width x ↔ x < width ∨ width - 2 < width := by
  cases policy with
  | rubber | spring | padded => exact Iff.rfl
  | concrete | wrap | none => exact nomatch h

variable {policy : WallPolicy} {width x : Float} {q : ℚ}

/-- A position between the walls is a number. -/
theorem keeps_between (hwidth : HasValue width q) (hleft : 0 ≤ x) (hright : x < width)
    (policy : WallPolicy) : policy.Keeps width x := by
  have hnumber : x.isFinite = true ∧ x.isNaN = false := by
    cases kind x with
    | finite value => exact ⟨isFinite_iff.2 ⟨_, value⟩, value.isNaN⟩
    | below _ _ lt => exact absurd hleft (lt hasValue_zero).2
    | above _ _ gt => exact absurd (le_of_lt hright) (gt hwidth).2
    | nan _ _ apart => exact absurd hright (apart width).1
  cases policy with
  | concrete => exact hnumber.2
  | wrap => exact hnumber.1
  | rubber | spring | padded | none => exact .inl hright

section

variable (hwidth : HasValue width q) (hwide : 2 ≤ q) (hout : ¬(0 ≤ x ∧ x < width))
include hwidth hwide hout

/-- Outside of the walls, what lies left of the right wall lies left of both. -/
theorem lt_width_iff : x < width ↔ x < 0 := by
  cases kind x with
  | finite value =>
    rw [hasValue_zero.le_iff value, value.lt_iff hwidth] at hout
    rw [value.lt_iff hwidth, value.lt_iff hasValue_zero]
    refine ⟨fun hlt => not_le.1 fun hle => hout ⟨hle, hlt⟩, fun hlt => ?_⟩
    linarith
  | below _ _ lt => exact iff_of_true (lt hwidth).1 (lt hasValue_zero).1
  | above _ _ gt =>
    exact iff_of_false (fun h => (gt hwidth).2 (le_of_lt h)) fun h =>
      (gt hasValue_zero).2 (le_of_lt h)
  | nan _ _ apart => exact iff_of_false (apart width).1 (apart 0).1

/-- A projectile that bounces is put before the wall that it has struck, unless that is too far
away. -/
theorem apply_bounces {factor : Float} (h : policy.reflection = some factor) (vx : Float) :
    ∃ x', policy.apply width x vx = .ok (.inside, x', -vx * factor) ∧
      (Kept width .inside x' ↔ x < width ∨ width - 2 < width) := by
  have happly : policy.apply width x vx =
      .ok (.inside, if x < 0 then 1 else width - 2, -vx * factor) := by
    unfold apply
    rw [if_neg hout, h]
  refine ⟨_, happly, ?_⟩
  rw [lt_width_iff hwidth hwide hout]
  -- On the left it is put on column one, which is in every arena; on the right two columns back.
  by_cases hneg : x < 0
  · have hzero : (0 : Float) ≤ 1 := (hasValue_zero.le_iff hasValue_one).2 zero_le_one
    have hright : 1 < width := (hasValue_one.lt_iff hwidth).2 (by linarith)
    rw [if_pos hneg]
    exact iff_of_true ⟨hzero, hright⟩ (.inl hneg)
  · -- That this is off the wall cannot be said in general, only that it is not left of the other.
    obtain ⟨r, hr, hr0, _⟩ :=
      hwidth.sub_between hasValue_two hasValue_zero hwidth (by linarith) (by linarith)
    have hleft : 0 ≤ width - 2 := (hasValue_zero.le_iff hr).2 hr0
    rw [if_neg hneg]
    exact ⟨fun hkept => .inr hkept.2, fun h => ⟨hleft, h.resolve_left hneg⟩⟩

/-- A projectile that strikes concrete is put at the wall, if it is on one side of it. -/
theorem apply_strikes (vx : Float) :
    ∃ x', concrete.apply width x vx = .ok (.hit, x', vx) ∧
      (Kept width .hit x' ↔ x.isNaN = false) := by
  obtain ⟨r, hr, hr0, _⟩ :=
    hwidth.sub_between hasValue_one hasValue_zero hwidth (by linarith) (by linarith)
  have hroom : 0 ≤ width - 1 := (hasValue_zero.le_iff hr).2 hr0
  have hself : 0 ≤ (0 : Float) := (hasValue_zero.le_iff hasValue_zero).2 le_rfl
  have hself' : width - 1 ≤ width - 1 := (hr.le_iff hr).2 le_rfl
  have happly : concrete.apply width x vx = .ok (.hit, restrict 0 (width - 1) x hroom, vx) := by
    unfold apply Quantity.clamp
    rw [if_neg hout, dif_pos hroom]
    rfl
  refine ⟨_, happly, ?_⟩
  unfold Kept restrict
  -- Every float is a number, one of the infinities, or not a number.
  cases kind x with
  | @finite p value =>
    refine iff_of_true ?_ value.isNaN
    by_cases hneg : x < 0
    · rw [if_pos hneg]
      exact ⟨hself, hroom⟩
    · have hpos : ¬p < 0 := fun h => hneg ((value.lt_iff hasValue_zero).2 h)
      rw [if_neg hneg]
      by_cases hfar : width - 1 < x
      · rw [if_pos hfar]
        exact ⟨hroom, hself'⟩
      · have hnear : ¬r < p := fun h => hfar ((hr.lt_iff value).2 h)
        rw [if_neg hfar]
        exact ⟨(hasValue_zero.le_iff value).2 (not_lt.1 hpos), (value.le_iff hr).2 (not_lt.1 hnear)⟩
  | below _ number lt =>
    rw [if_pos (lt hasValue_zero).1]
    exact iff_of_true ⟨hself, hroom⟩ number
  | above _ number gt =>
    rw [if_neg fun h => (gt hasValue_zero).2 (le_of_lt h), if_pos (gt hr).1]
    exact iff_of_true ⟨hroom, hself'⟩ number
  | nan _ nan apart =>
    rw [if_neg (apart 0).1, if_neg (apart (width - 1)).2.1]
    refine iff_of_false (fun h => (apart 0).2.2.2 h.1) fun h => ?_
    exact nomatch nan.symm.trans h

/-- A projectile that leaves an arena that wraps around comes in again, if it has got anywhere. -/
theorem apply_wraps (vx : Float) :
    ∃ x', wrap.apply width x vx = .ok (.inside, x', vx) ∧
      (Kept width .inside x' ↔ x.isFinite = true) := by
  have happly : wrap.apply width x vx =
      .ok (.inside, if width ≤ Quantity.wrap x width then 0 else Quantity.wrap x width, vx) := by
    unfold apply
    rw [if_neg hout]
    rfl
  refine ⟨_, happly, ?_⟩
  unfold Kept
  cases hfinite : x.isFinite with
  | true =>
    -- Rounding may take a place to the very end, which is the beginning again.
    obtain ⟨p, hp⟩ := isFinite_iff.1 hfinite
    obtain ⟨r, hr, hr0, hrq⟩ := wrap_within hp hwidth (by linarith)
    refine iff_of_true ?_ rfl
    by_cases hend : width ≤ Quantity.wrap x width
    · rw [if_pos hend]
      exact ⟨(hasValue_zero.le_iff hasValue_zero).2 le_rfl,
        (hasValue_zero.lt_iff hwidth).2 (by linarith)⟩
    · have hbefore : ¬q ≤ r := fun h => hend ((hwidth.le_iff hr).2 h)
      rw [if_neg hend]
      exact ⟨(hasValue_zero.le_iff hr).2 hr0, (hr.lt_iff hwidth).2 (not_le.1 hbefore)⟩
  | false =>
    have hapart := apart_of_isNaN (wrap_of_infinite hfinite width)
    rw [if_neg (hapart width).2.2.2]
    exact iff_of_false (fun h => (hapart 0).2.2.2 h.1) Bool.false_ne_true

end

/-- Between the walls nothing happens.  Outside of them every policy that has walls puts the
projectile somewhere, and that is where it says under just one condition, which the bouncing policies
fulfil in every arena of at most `2 ^ 53` columns. -/
theorem apply_keeps {policy : WallPolicy} (walls : policy ≠ .none) {width : Float}
    (finite : width.isFinite = true) (wide : 2 ≤ width) (x vx : Float) :
    (∃ outcome x' vx', policy.apply width x vx = .ok (outcome, x', vx') ∧
      (outcome = .inside ∨ outcome = .hit) ∧
      (0 ≤ x ∧ x < width → outcome = .inside ∧ x' = x ∧ vx' = vx) ∧
      (Kept width outcome x' ↔ policy.Keeps width x)) ∧
    (width ≤ 9007199254740992 → width - 2 < width) := by
  obtain ⟨q, hwidth⟩ := isFinite_iff.1 finite
  have hwide : 2 ≤ q := (hasValue_two.le_iff hwidth).1 wide
  refine ⟨?_, fun hle => hwidth.sub_two_lt hwide ((hwidth.le_iff hasValue_two_pow).1 hle)⟩
  by_cases hbetween : 0 ≤ x ∧ x < width
  · have happly : policy.apply width x vx = .ok (.inside, x, vx) := by
      unfold apply
      rw [if_pos hbetween]
    exact ⟨_, _, _, happly, .inl rfl, fun _ => ⟨rfl, rfl, rfl⟩,
      iff_of_true hbetween (keeps_between hwidth hbetween.1 hbetween.2 policy)⟩
  · have outside {outcome : WallOutcome} {x' vx' : Float} :
        0 ≤ x ∧ x < width → outcome = .inside ∧ x' = x ∧ vx' = vx := fun h => absurd h hbetween
    -- The walls that reflect differ in their factor only.
    cases hfactor : policy.reflection with
    | some factor =>
      obtain ⟨x', happly, hkept⟩ := apply_bounces hwidth hwide hbetween hfactor vx
      exact ⟨_, x', _, happly, .inl rfl, outside,
        hkept.trans (keeps_of_reflection hfactor width x).symm⟩
    | none =>
      cases policy with
      | concrete =>
        obtain ⟨x', happly, hkept⟩ := apply_strikes hwidth hwide hbetween vx
        exact ⟨_, x', _, happly, .inr rfl, outside, hkept⟩
      | wrap =>
        obtain ⟨x', happly, hkept⟩ := apply_wraps hwidth hwide hbetween vx
        exact ⟨_, x', _, happly, .inl rfl, outside, hkept⟩
      | none => exact absurd rfl walls
      | rubber | spring | padded => exact nomatch hfactor

/-- A projectile that leaves at the left comes in at the right. -/
theorem apply_keeps_wrap :
    wrap ≠ .none ∧ (100 : Float).isFinite = true ∧ (2 : Float) ≤ 100 ∧
      ∃ outcome x' vx', wrap.apply 100 (-3) 1 = .ok (outcome, x', vx') ∧
        Kept 100 outcome x' := by
  have hwalls : wrap ≠ .none := by decide
  have hfinite : (100 : Float).isFinite = true := by decide
  have hwide : (2 : Float) ≤ 100 := by decide
  obtain ⟨⟨outcome, x', vx', happly, _, _, hkept⟩, _⟩ := apply_keeps hwalls hfinite hwide (-3) 1
  exact ⟨hwalls, hfinite, hwide, outcome, x', vx', happly,
    hkept.2 (show (-3 : Float).isFinite = true by decide)⟩

/-- A projectile at infinity is said to be between the walls, but it has no place there. -/
theorem apply_keeps_infinite :
    wrap ≠ .none ∧ (100 : Float).isFinite = true ∧ (2 : Float) ≤ 100 ∧
      ∃ x', wrap.apply 100 (1 / 0) 1 = .ok (.inside, x', 1) ∧ ¬(0 ≤ x' ∧ x' < 100) :=
  ⟨by decide, by decide, by decide, 0 / 0, rfl, by decide⟩

end WallPolicy

end Artillery
