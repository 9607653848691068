import Artillery.Arena

/-!
# Progress of a projectile

A projectile in the air is moved by its flight, which counts its age; one that rolls is moved by the
behavior of a roller, which counts the steps it has rolled.  Flight leaves everything alone that
rolls, whether or not it has that behavior; what rolls without it is stranded.

## Key results

- `stepProjectile_flying`: a step makes a projectile in the air a step older
- `stepProjectile_rolling`: a step ends a roller or rolls it one step on
- `stepProjectile_stranded`: a step does nothing to a stranded projectile
-/

namespace Artillery

namespace Projectile

/-- The steps that a projectile has rolled. -/
def framesRolled (p : Projectile) : Nat :=
  match p.maneuver with
  | .rolling _ _ frames => frames
  | _ => 0

/-- A projectile rolls, but as a bomb or with a weapon that is unknown or no roller. -/
def Stranded (p : Projectile) (arsenal : Arsenal) : Prop :=
  p.isRolling = true ∧
    (p.isBomb = true ∨ ∀ w, arsenal.get? p.weapon = some w → w.behavior ≠ .roller)

/-- A projectile in the air is as old and as active as it was. -/
structure Hovers (p q : Projectile) : Prop where
  age : q.age = p.age
  active : q.active = p.active
  flying : q.isRolling = false

/-- A projectile rolls by its maneuver. -/
theorem isRolling_iff {p : Projectile} :
    p.isRolling = true ↔ ∃ direction speed frames, p.maneuver = .rolling direction speed frames := by
  unfold isRolling
  cases p.maneuver <;> simp

end Projectile

open Projectile

/-- Drawing an effect for a projectile leaves the projectile alone. -/
theorem Draw.run_beside {α : Type} (d : Draw α) (p : Projectile) (k : Keystream) :
    ((do return (← d, p) : Draw (α × Projectile)).run k).1.2 = p := rfl

/-! ## Behaviors -/

/-- A particle hovers. -/
theorem Particle.fly_hovers (p : Projectile) (life : Nat) (soil : Bool) (terrain : Raster)
    (config : Config) : p.Hovers (Particle.fly p life soil terrain config).2 := by
  unfold Particle.fly
  dsimp only
  split
  · exact ⟨rfl, rfl, rfl⟩
  · split <;> exact ⟨rfl, rfl, rfl⟩

/-- So does a splitting warhead. -/
theorem Mirv.fly_hovers {p : Projectile} (hp : p.isRolling = false) (weapon : Weapon) :
    p.Hovers (Mirv.fly p weapon).2 := by
  unfold Mirv.fly
  split
  · dsimp only
    split <;> exact ⟨rfl, rfl, rfl⟩
  · exact ⟨rfl, rfl, hp⟩

/-- A splitting warhead that rolls is left alone. -/
theorem Mirv.fly_rolling {p : Projectile} (hp : p.isRolling = true) (weapon : Weapon) :
    Mirv.fly p weapon = (.nothing, p) := by
  obtain ⟨direction, speed, frames, hm⟩ := isRolling_iff.1 hp
  unfold Mirv.fly
  rw [hm]

/-- A roller in the air does nothing yet. -/
theorem Roller.fly_flying {p : Projectile} (hp : p.isRolling = false) (weapon : Weapon)
    (terrain : Raster) (config : Config) :
    Roller.fly p weapon terrain config = .ok (.nothing, p) := by
  unfold Roller.fly
  split
  · rename_i direction speed frames hm
    rw [isRolling_iff.2 ⟨direction, speed, frames, hm⟩] at hp
    exact nomatch hp
  · rfl

section Rolling

variable {p q : Projectile} {weapon : Weapon} {terrain : Raster} {config : Config}
  {effect : FlightEffect}

/-- A roller that is put down on the surface goes off or rolls on. -/
theorem Roller.settle_cases {oldHeight : Int} {x vx : Float} {frames : Nat}
    (h : Roller.settle p terrain oldHeight x vx frames weapon = .ok (effect, q)) :
    (effect = .detonate weapon.param ∨ effect = .nothing) ∧ ∃ row direction speed,
      q = { p with position := ⟨x, row⟩, maneuver := .rolling direction speed frames } := by
  -- It goes off where it is slow or touches a tank, and that is all the effect depends on.
  have asks (ends : Prop) [Decidable ends] :
      (if ends then .detonate weapon.param else FlightEffect.nothing) = .detonate weapon.param ∨
        (if ends then .detonate weapon.param else FlightEffect.nothing) = .nothing := by
    split
    · exact .inl rfl
    · exact .inr rfl
  obtain ⟨column, _, h⟩ := Fault.bind_ok h
  obtain ⟨rfl, rfl⟩ := Prod.mk.inj (Except.ok.inj h)
  exact ⟨asks _, _, _, _, rfl⟩

/-- A roller that has come to its end, to an edge or to a wall asks for its removal; everywhere else
the walls leave it at a place and it is put down there. -/
theorem Roller.fly_cases {direction speed : Float} {frames : Nat}
    (hm : p.maneuver = .rolling direction speed frames)
    (h : Roller.fly p weapon terrain config = .ok (effect, q)) :
    (effect = .detonate weapon.param ∨ effect = .vanish) ∧ (∃ position, q = { p with position }) ∨
      ∃ outcome x vx, config.wall.apply (Float.ofNat terrain.width)
          (p.position.x + direction * Quantity.atMost Roller.maxStep speed) (direction * speed) =
            .ok (outcome, x, vx) ∧
        Roller.settle p terrain (terrain.heightAt p.pixel.x) x vx (frames + 1) weapon =
          .ok (effect, q) := by
  -- Where it ends it is only moved, if at all.
  have ends {e : FlightEffect} {position : Vec2} (he : e = .detonate weapon.param ∨ e = .vanish)
      (h : (.ok (e, { p with position }) : Except Fault _) = .ok (effect, q)) :
      (effect = .detonate weapon.param ∨ effect = .vanish) ∧ ∃ position, q = { p with position } := by
    obtain ⟨rfl, rfl⟩ := Prod.mk.inj (Except.ok.inj h)
    exact ⟨he, _, rfl⟩
  unfold Roller.fly at h
  rw [hm] at h
  dsimp only at h
  split at h
  · exact .inl (ends (.inl rfl) h)
  · unfold Roller.roll at h
    dsimp only at h
    split at h
    · exact .inl (ends (.inr rfl) h)
    · obtain ⟨⟨outcome, x, vx⟩, hwall, h⟩ := Fault.bind_ok h
      cases outcome with
      | hit => exact .inl (ends (.inl rfl) h)
      | offscreen => exact .inl (ends (.inr rfl) h)
      | inside => exact .inr ⟨_, x, vx, hwall, h⟩
      | beyond => exact .inr ⟨_, x, vx, hwall, h⟩

/-- The behavior of a roller ends it or rolls it one step on. -/
theorem Roller.fly_rolled (hp : p.isRolling = true)
    (h : Roller.fly p weapon terrain config = .ok (effect, q)) :
    effect.remove = true ∨
      q.active = p.active ∧ q.isRolling = true ∧ q.framesRolled = p.framesRolled + 1 := by
  obtain ⟨direction, speed, frames, hm⟩ := isRolling_iff.1 hp
  have hframes : p.framesRolled = frames := by
    unfold framesRolled
    rw [hm]
  rw [hframes]
  -- It ends in the flight, or it is put down with one frame more.
  obtain ⟨rfl | rfl, _⟩ | ⟨_, x, vx, _, h⟩ := Roller.fly_cases hm h
  · exact .inl rfl
  · exact .inl rfl
  · obtain ⟨_, _, _, _, rfl⟩ := Roller.settle_cases h
    exact .inr ⟨rfl, rfl, rfl⟩

end Rolling

namespace Projectile

section Fly

variable {p q : Projectile} {s : Surroundings} {effect : FlightEffect}

/-- In the air a behavior changes neither age nor life, and lets nothing roll. -/
theorem fly_hovers (hp : p.isRolling = false) (h : p.fly s = .ok (effect, q)) : p.Hovers q := by
  -- Every branch answers with what its behavior has made of the projectile.
  have answer {r : FlightEffect × Projectile} (hr : (.ok r : Except Fault _) = .ok (effect, q))
      (hh : p.Hovers r.2) : p.Hovers q := by
    obtain rfl := Except.ok.inj hr
    exact hh
  have same : p.Hovers p := ⟨rfl, rfl, hp⟩
  unfold fly at h
  split at h
  · exact answer h same
  · split at h
    · exact answer h (Particle.fly_hovers ..)
    · split at h
      · unfold flyAs at h
        split at h
        · rw [Roller.fly_flying hp] at h
          exact answer h same
        · exact answer h (Mirv.fly_hovers hp _)
        · exact answer h same
      · exact answer h same

/-- A stranded projectile is left alone by its behavior. -/
theorem fly_stranded (hp : p.Stranded s.arsenal) : p.fly s = .ok (.nothing, p) := by
  obtain ⟨hr, hbomb | hweapon⟩ := hp
  · unfold fly
    rw [if_pos (.inr hbomb)]
  · -- Of the behaviors, only that of a roller and that of a splitting warhead act in flight.
    obtain ⟨direction, speed, frames, hm⟩ := isRolling_iff.1 hr
    unfold fly
    rw [hm]
    dsimp only
    split
    · rfl
    · split
      · rename_i weapon hw
        unfold flyAs
        split
        · rename_i hroller
          exact absurd hroller (hweapon weapon hw)
        · rw [Mirv.fly_rolling hr]
        · rfl
      · rfl

/-- What rolls and is not stranded does what a roller does. -/
theorem fly_roller (active : p.active = true) (hp : p.isRolling = true)
    (hs : ¬p.Stranded s.arsenal) : ∃ w, p.fly s = Roller.fly p w s.terrain s.config := by
  have hbomb : ¬p.isBomb = true := fun hbomb => hs ⟨hp, .inl hbomb⟩
  -- Without such a weapon it would be stranded.
  obtain ⟨w, hw, hroller⟩ : ∃ w, s.arsenal.get? p.weapon = some w ∧ w.behavior = .roller :=
    Classical.byContradiction fun hnone =>
      hs ⟨hp, .inr fun w hw hroller => hnone ⟨w, hw, hroller⟩⟩
  obtain ⟨direction, speed, frames, hm⟩ := isRolling_iff.1 hp
  refine ⟨w, ?_⟩
  unfold fly
  rw [if_neg fun hc => hc.elim (fun ha => ha active) hbomb, hm]
  dsimp only
  rw [hw]
  dsimp only
  unfold flyAs
  rw [hroller]

/-- What rolls and is not stranded is ended or rolled one step on. -/
theorem fly_rolled (active : p.active = true) (hp : p.isRolling = true)
    (hs : ¬p.Stranded s.arsenal) (h : p.fly s = .ok (effect, q)) :
    effect.remove = true ∨
      q.active = true ∧ q.isRolling = true ∧ q.framesRolled = p.framesRolled + 1 := by
  obtain ⟨w, hfly⟩ := fly_roller active hp hs
  rw [hfly] at h
  obtain hends | ⟨ha, hrolled⟩ := Roller.fly_rolled hp h
  · exact .inl hends
  · exact .inr ⟨ha.trans active, hrolled⟩

end Fly

/-! ## Guidance, flight and impacts -/

/-- Guidance turns a projectile and changes nothing else about its course. -/
theorem guide_frame (p : Projectile) (actors : List Actor) :
    (p.guide actors).2.age = p.age ∧ (p.guide actors).2.active = p.active ∧
      (p.guide actors).2.maneuver = p.maneuver := by
  unfold guide
  split
  · split
    · exact ⟨rfl, rfl, rfl⟩
    · split <;> exact ⟨rfl, rfl, rfl⟩
    · exact ⟨rfl, rfl, rfl⟩
  · exact ⟨rfl, rfl, rfl⟩

/-- A roller is not guided. -/
theorem guide_rolling {p : Projectile} (hp : p.isRolling = true) (actors : List Actor) :
    p.guide actors = (none, p) := by
  unfold guide
  rw [if_neg]
  unfold isGuidable
  simp [hp]

/-- A step of flight makes a projectile in the air a step older. -/
theorem advance_flying {p q : Projectile} {terrain : Raster} {config : Config} {wind : Float}
    {status : FlightStatus} (active : p.active = true) (hp : p.isRolling = false)
    (h : p.advance terrain config wind = .ok (status, q)) : q.age = p.age + 1 := by
  unfold advance at h
  rw [if_neg fun hc => hc active, if_neg (by rw [hp]; exact Bool.false_ne_true)] at h
  obtain ⟨⟨outcome, x, vx⟩, _, h⟩ := Fault.bind_ok h
  cases outcome with
  | _ =>
    obtain ⟨_, rfl⟩ := Prod.mk.inj (Except.ok.inj h)
    rfl

/-- Nor does flight move it. -/
theorem advance_rolling {p : Projectile} (active : p.active = true) (hp : p.isRolling = true)
    (terrain : Raster) (config : Config) (wind : Float) :
    p.advance terrain config wind = .ok (.flying, p) := by
  unfold advance
  rw [if_neg fun hc => hc active, if_pos hp]

/-- Where a projectile strikes, its behavior gives it another course and another maneuver, and changes
nothing else about it. -/
theorem strike_course (p : Projectile) (hit : Hit) (s : Surroundings) (k : Keystream) :
    ∃ position velocity maneuver,
      ((p.strike hit s).run k).1.2 = { p with position, velocity, maneuver } := by
  have same : ∃ position velocity maneuver, p = { p with position, velocity, maneuver } :=
    ⟨p.position, p.velocity, p.maneuver, rfl⟩
  unfold strike
  split
  · exact same
  · exact same
  · split
    · rename_i weapon _
      unfold strikeAs
      -- Rollers and leapfrogs set a course; the others ask for effects only.
      cases weapon.behavior with
      | roller =>
        show ∃ position velocity maneuver,
          (Roller.strike p hit weapon s.terrain).2 = { p with position, velocity, maneuver }
        unfold Roller.strike
        split
        · exact ⟨_, _, _, rfl⟩
        · exact same
      | bounce =>
        show ∃ position velocity maneuver,
          (Bounce.strike p hit weapon).2 = { p with position, velocity, maneuver }
        simp only [Bounce.strike]
        split
        · split <;> exact ⟨_, _, _, rfl⟩
        · exact same
      | napalm | liquidDirt | scatter =>
        dsimp only
        rw [Draw.run_beside]
        exact same
      | _ => exact same
    · exact same

/-- Striking something takes no time. -/
theorem strike_age (p : Projectile) (hit : Hit) (s : Surroundings) (k : Keystream) :
    ((p.strike hit s).run k).1.2.age = p.age := by
  obtain ⟨_, _, _, h⟩ := p.strike_course hit s k
  rw [h]

end Projectile

/-- A projectile that is thrown back gets another course, and nothing else. -/
theorem Actor.deflect_course {a a' : Actor} {p p' : Projectile} {depleted : Bool}
    {k k' : Keystream} (h : (a.deflect p).run k = (some (a', p', depleted), k')) :
    p' = { p with position := p'.position, velocity := p'.velocity } := by
  unfold Actor.deflect at h
  split at h
  · exact nomatch congrArg Prod.fst h
  · have hres : (_, _, _) = (a', p', depleted) := Option.some.inj (congrArg Prod.fst h)
    obtain ⟨_, hrest⟩ := Prod.mk.inj hres
    obtain ⟨rfl, _⟩ := Prod.mk.inj hrest
    rfl

namespace Arena

variable {a a' : Arena} {p p' : Projectile}

/-- Carrying out an effect of flight only decides whether the projectile ends. -/
theorem applyFlight_fst (a : Arena) (p : Projectile) (effect : FlightEffect) :
    (a.applyFlight p effect).1 = if effect.remove then { p with active := false } else p := rfl

/-- No effect changes nothing. -/
theorem applyFlight_nothing (a : Arena) (p : Projectile) :
    a.applyFlight p .nothing = (p, a) := rfl

/-- Carrying out an impact only decides whether the projectile goes on. -/
theorem applyImpact_fst (a : Arena) (p : Projectile) (effect : ImpactEffect) :
    (a.applyImpact p effect).1 = if effect.keepAlive then p else { p with active := false } := rfl

/-- Carrying out an effect takes no time. -/
theorem applyImpact_age (a : Arena) (p : Projectile) (effect : ImpactEffect) :
    (a.applyImpact p effect).1.age = p.age := by
  rw [applyImpact_fst]
  split <;> rfl

/-- Nor does striking. -/
theorem impact_age (a : Arena) (p : Projectile) (hit : Hit) :
    (a.impact p hit).1.age = p.age :=
  (applyImpact_age _ _ _).trans (p.strike_age hit _ _)

/-- A shield that throws a projectile back changes its course, the table of the actors and the
keystream, and tells of it. -/
theorem deflect?_cases {id : ActorId} (h : a.deflect? p id = some (p', a')) :
    p' = { p with position := p'.position, velocity := p'.velocity } ∧
      ∃ keystream actors, ∃ depleted : Bool,
        a' = { a with keystream := keystream, actors := actors }.tell
          (.shieldDeflected id :: if depleted then [.shieldDepleted id] else []) := by
  simp only [deflect?, Option.bind_eq_bind, Option.bind_eq_some_iff] at h
  obtain ⟨i, _, target, _, ⟨target', q, depleted⟩, hd, h⟩ := h
  obtain ⟨rfl, rfl⟩ := Prod.mk.inj (Option.some.inj h)
  exact ⟨Actor.deflect_course (Prod.ext hd rfl), _, _, depleted, rfl⟩

/-- What comes of a step of flight takes no more time. -/
theorem resolve_age (a : Arena) (p : Projectile) (status : FlightStatus) :
    (a.resolve p status).1.age = p.age := by
  cases status with
  | flying => rfl
  | offscreen => rfl
  | hitTerrain => exact a.impact_age p .terrain
  | hitWall => exact a.impact_age p .wall
  | hitTank id =>
    unfold resolve
    dsimp only
    split
    · rename_i hd
      -- A shield sets a new course, and counts no step.
      rw [(deflect?_cases hd).1]
    · exact a.impact_age p (.tank id)

/-! ## Steps -/

/-- A step of an active projectile is what its behavior does, and unless that ends it, a step of
flight after guidance and what comes of it. -/
theorem stepProjectile_cases (active : p.active = true) (h : a.stepProjectile p = .ok (p', a')) :
    ∃ effect q, p.fly a.surroundings = .ok (effect, q) ∧
      ((a.applyFlight q effect).1.active = false ∧ p' = (a.applyFlight q effect).1 ∨
        (a.applyFlight q effect).1.active = true ∧
        ∃ (b : Arena) (status : FlightStatus) (r : Projectile),
          ((a.applyFlight q effect).1.guide (a.applyFlight q effect).2.actors).2.advance
            b.terrain b.config b.wind = .ok (status, r) ∧ p' = (b.resolve r status).1) := by
  unfold stepProjectile at h
  rw [if_neg fun hc => hc active] at h
  obtain ⟨⟨effect, q⟩, hf, h⟩ := Fault.bind_ok h
  refine ⟨effect, q, hf, ?_⟩
  dsimp only at h
  -- What its behavior has removed goes no further.
  split at h
  · rename_i hends
    obtain ⟨rfl, _⟩ := Prod.mk.inj (Except.ok.inj h)
    exact .inl ⟨Bool.eq_false_iff.2 hends, rfl⟩
  · rename_i hon
    obtain ⟨⟨status, r⟩, hm, h⟩ := Fault.bind_ok h
    have hp' := congrArg Prod.fst (Except.ok.inj h)
    exact .inr ⟨Decidable.not_not.1 hon, _, status, r, hm, hp'.symm⟩

/-- A step makes a projectile in the air a step older, unless its behavior ends it before. -/
theorem stepProjectile_flying (active : p.active = true) (hp : p.isRolling = false)
    (h : a.stepProjectile p = .ok (p', a')) : p'.active = false ∨ p'.age = p.age + 1 := by
  obtain ⟨effect, q, hf, ⟨hends, rfl⟩ | ⟨hon, b, status, r, hm, rfl⟩⟩ :=
    stepProjectile_cases active h
  · exact .inl hends
  · right
    have hq := Projectile.fly_hovers hp hf
    -- Behavior, effect and guidance leave the age alone, so that flight counts it from where it was.
    have hkept : (a.applyFlight q effect).1.age = q.age ∧
        (a.applyFlight q effect).1.isRolling = q.isRolling := by
      rw [applyFlight_fst]
      split <;> exact ⟨rfl, rfl⟩
    obtain ⟨hage, hactive, hmaneuver⟩ :=
      (a.applyFlight q effect).1.guide_frame (a.applyFlight q effect).2.actors
    have hflying : ((a.applyFlight q effect).1.guide
        (a.applyFlight q effect).2.actors).2.isRolling = false := by
      unfold Projectile.isRolling at hkept hq ⊢
      rw [hmaneuver]
      exact hkept.2.trans hq.flying
    calc (b.resolve r status).1.age = r.age := b.resolve_age r status
      _ = ((a.applyFlight q effect).1.guide (a.applyFlight q effect).2.actors).2.age + 1 :=
          Projectile.advance_flying (hactive.trans hon) hflying hm
      _ = p.age + 1 := by rw [hage, hkept.1, hq.age]

/-- A step ends what rolls and is not stranded, or rolls it one step on. -/
theorem stepProjectile_rolling (active : p.active = true) (hp : p.isRolling = true)
    (hs : ¬p.Stranded a.arsenal) (h : a.stepProjectile p = .ok (p', a')) :
    p'.active = false ∨ p'.isRolling = true ∧ p'.framesRolled = p.framesRolled + 1 := by
  obtain ⟨effect, q, hf, ⟨hends, rfl⟩ | ⟨hon, b, status, r, hm, rfl⟩⟩ :=
    stepProjectile_cases active h
  · exact .inl hends
  · right
    cases hremove : effect.remove with
    | true =>
      rw [applyFlight_fst, if_pos hremove] at hon
      exact nomatch hon
    | false =>
      have hq : (a.applyFlight q effect).1 = q := by
        rw [applyFlight_fst, if_neg (by rw [hremove]; exact Bool.false_ne_true)]
      obtain hends | ⟨hactive, hrolls, hframes⟩ := Projectile.fly_rolled active hp hs hf
      · rw [hremove] at hends
        exact nomatch hends
      · -- Neither guidance nor flight touches it any more.
        rw [hq, Projectile.guide_rolling hrolls, Projectile.advance_rolling hactive hrolls] at hm
        obtain ⟨rfl, rfl⟩ := Prod.mk.inj (Except.ok.inj hm)
        exact ⟨hrolls, hframes⟩

/-- A step does nothing to a stranded projectile, nor does that do anything to the arena. -/
theorem stepProjectile_stranded (active : p.active = true) (hp : p.Stranded a.arsenal) :
    a.stepProjectile p = .ok (p, a) := by
  have hfly : p.fly a.surroundings = .ok (.nothing, p) := Projectile.fly_stranded hp
  unfold stepProjectile
  rw [if_neg fun hc => hc active, hfly]
  simp only [bind, Except.bind, applyFlight_nothing, active, not_true_eq_false, if_false,
    Projectile.guide_rolling hp.1, Projectile.advance_rolling active hp.1]
  rfl

end Arena

end Artillery
