import Artillery.Proofs.Arena.Progress
import Artillery.Proofs.Battle.Conservation
import Artillery.Proofs.Draw

/-!
# Broods

New projectiles come from the behavior of a weapon.  Bombs and particles do not follow it, whatever
their weapon is, so that the brood of a projectile has no brood of its own; and who has a brood ends
with it.

## Key results

- `fly_brood`, `strike_brood`: what behaviors ask for, in flight and where a projectile strikes
- `stepProjectile_brood`: a step of a projectile makes one brood at most, and that is its end
-/

namespace Artillery

/-! ## Who can have a brood -/

namespace Projectile

/-- Whether a projectile does what its weapon says: neither bombs nor particles do. -/
def Fertile (p : Projectile) : Prop := p.warhead = .weapon ∧ p.isParticle = false

instance (p : Projectile) : Decidable p.Fertile := inferInstanceAs (Decidable (_ ∧ _))

/-- A projectile keeps its weapon and its warhead, and a particle stays one. -/
structure SameStock (p q : Projectile) : Prop where
  weapon : q.weapon = p.weapon
  warhead : q.warhead = p.warhead
  particle : p.isParticle = true → q.isParticle = true

namespace SameStock

variable {p q r : Projectile}

/-- An arena that stays as it is has borne nothing. -/
theorem refl (p : Projectile) : SameStock p p := ⟨rfl, rfl, id⟩

theorem trans (h₁ : SameStock p q) (h₂ : SameStock q r) : SameStock p r :=
  ⟨h₂.weapon.trans h₁.weapon, h₂.warhead.trans h₁.warhead,
    fun h => h₂.particle (h₁.particle h)⟩

/-- Only who was fertile before is fertile afterwards. -/
theorem fertile (h : SameStock p q) (hq : q.Fertile) : p.Fertile := by
  refine ⟨h.warhead.symm.trans hq.1, ?_⟩
  cases hp : p.isParticle with
  | false => rfl
  | true => exact (h.particle hp).symm.trans hq.2

/-- What changes neither weapon nor warhead nor maneuver changes nothing about the stock. -/
theorem of_eq (hi : q.weapon = p.weapon) (hw : q.warhead = p.warhead)
    (hm : q.maneuver = p.maneuver) : SameStock p q := by
  refine ⟨hi, hw, fun h => ?_⟩
  unfold isParticle at h ⊢
  rw [hm]
  exact h

/-- What is no particle has its maneuvers free. -/
theorem of_flying (hi : q.weapon = p.weapon) (hw : q.warhead = p.warhead)
    (hp : p.isParticle = false) : SameStock p q :=
  ⟨hi, hw, fun h => absurd h (by rw [hp]; exact Bool.false_ne_true)⟩

end SameStock

/-- A projectile is a particle by its maneuver. -/
theorem isParticle_eq_true_iff {p : Projectile} :
    p.isParticle = true ↔ ∃ life soil, p.maneuver = .particle life soil := by
  unfold isParticle
  cases p.maneuver <;> simp

/-- A projectile with any other maneuver is none. -/
theorem isParticle_eq_false {p : Projectile}
    (h : ∀ life soil, p.maneuver ≠ .particle life soil) : p.isParticle = false := by
  rw [Bool.eq_false_iff, ne_eq, isParticle_eq_true_iff]
  rintro ⟨life, soil, heq⟩
  exact h life soil heq

end Projectile

namespace ProjectileSpec

/-- Whether what is made can have no brood. -/
def Barren (s : ProjectileSpec) : Prop := ¬(Projectile.ofSpec s).Fertile

/-- A bomb goes off wherever it strikes, and bears nothing. -/
theorem bomb_barren (p : Projectile) (position velocity : Vec2) (radius : Int) :
    (bomb p position velocity radius).Barren := fun h => nomatch h.1

/-- A particle bears nothing, whatever threw it. -/
theorem particle_barren (p : Projectile) (velocity : Vec2) (life : Nat) (soil : Bool) :
    (particle p velocity life soil).Barren := fun h => nomatch h.2

end ProjectileSpec

/-- The most projectiles of a brood. -/
def maxBrood : Nat := 20

/-- Some new projectiles are a brood: there are not too many, and they can have none themselves. -/
structure IsBrood (specs : List ProjectileSpec) : Prop where
  length_le : specs.length ≤ maxBrood
  barren : ∀ s ∈ specs, s.Barren

open Projectile

/-- Drawing an effect for a projectile gives the effect. -/
theorem Draw.run_beside_fst {α : Type} (d : Draw α) (p : Projectile) (k : Keystream) :
    ((do return (← d, p) : Draw (α × Projectile)).run k).1.1 = (d.run k).1 := rfl

/-! ## Behaviors -/

/-- A spray throws as many particles as it is asked for. -/
theorem Particle.throwAll_brood (s : Particle.Spray) (p : Projectile) (n : Nat) (k : Keystream) :
    ((s.throwAll p n).run k).1.length = n ∧ ∀ x ∈ ((s.throwAll p n).run k).1, x.Barren := by
  induction n generalizing k with
  | zero => exact ⟨rfl, List.forall_mem_nil _⟩
  | succ n ih =>
    obtain ⟨hlength, hbarren⟩ := ih ((s.throw p).run k).2
    exact ⟨congrArg (· + 1) hlength,
      List.forall_mem_cons.2 ⟨ProjectileSpec.particle_barren p _ _ _, hbarren⟩⟩

/-- A scattering weapon drops as many bombs as it is asked for. -/
theorem Scatter.dropAll_brood (p : Projectile) (width : Nat) (spread n : Nat) (k : Keystream) :
    ((Scatter.dropAll p width spread n).run k).1.length = n ∧
      ∀ x ∈ ((Scatter.dropAll p width spread n).run k).1, x.Barren := by
  induction n generalizing k with
  | zero => exact ⟨rfl, List.forall_mem_nil _⟩
  | succ n ih =>
    obtain ⟨hlength, hbarren⟩ := ih ((Scatter.drop p width spread).run k).2
    exact ⟨congrArg (· + 1) hlength,
      List.forall_mem_cons.2 ⟨ProjectileSpec.bomb_barren p _ _ _, hbarren⟩⟩

/-- A canister of napalm throws out a brood and is gone. -/
theorem Particle.napalm_brood (p : Projectile) (weapon : Weapon) (k : Keystream) :
    ((Particle.napalm p weapon).run k).1.keepAlive = false ∧
      IsBrood ((Particle.napalm p weapon).run k).1.spawn := by
  obtain ⟨hlength, hbarren⟩ := Particle.throwAll_brood (Particle.napalmSpray (weapon.param < 0)) p
    (min weapon.param.natAbs Particle.maxNapalm) k
  exact ⟨rfl, Nat.le_trans (Nat.le_of_eq hlength) (Nat.min_le_right _ _), hbarren⟩

/-- So does liquid dirt. -/
theorem Particle.liquidDirt_brood (p : Projectile) (k : Keystream) :
    ((Particle.liquidDirt p).run k).1.keepAlive = false ∧
      IsBrood ((Particle.liquidDirt p).run k).1.spawn := by
  have hcount : Particle.liquidCount ≤ maxBrood := by decide
  unfold Particle.liquidDirt
  -- Their number is all that matters; a known one would be thrown in the proof.
  generalize Particle.liquidCount = n at hcount ⊢
  obtain ⟨hlength, hbarren⟩ := Particle.throwAll_brood Particle.liquidSpray p n k
  exact ⟨rfl, Nat.le_trans (Nat.le_of_eq hlength) hcount, hbarren⟩

/-- So does a scattering weapon; it drops ten bombs at most. -/
theorem Scatter.strike_brood (p : Projectile) (weapon : Weapon) (terrain : Raster)
    (k : Keystream) :
    ((Scatter.strike p weapon terrain).run k).1.keepAlive = false ∧
      IsBrood ((Scatter.strike p weapon terrain).run k).1.spawn := by
  -- The number of bombs is drawn below a bound of its own, which is less than that of all broods.
  have hmost : Scatter.minCount + Scatter.countRange ≤ maxBrood := by decide
  have hdrawn := Draw.belowWide_lt Scatter.countRange_pos k
  obtain ⟨hlength, hbarren⟩ := Scatter.dropAll_brood p terrain.width
    weapon.param.natAbs
    (Scatter.minCount + ((Draw.belowWide Scatter.countRange Scatter.countRange_pos).run k).1)
    ((Draw.belowWide Scatter.countRange Scatter.countRange_pos).run k).2
  refine ⟨rfl, Nat.le_trans (Nat.le_of_eq hlength) ?_, hbarren⟩
  omega

/-- The six bombs of a fan are a brood. -/
theorem Mirv.fan_brood (p : Projectile) (weapon : Weapon) : IsBrood (Mirv.fan p weapon) := by
  constructor
  · show ((List.range Mirv.bombCount).map _).length ≤ maxBrood
    rw [List.length_map, List.length_range]
    decide
  · intro x hx
    obtain ⟨i, _, rfl⟩ := List.mem_map.1 hx
    exact ProjectileSpec.bomb_barren p _ _ _

/-- A roller has no brood. -/
theorem Roller.fly_stock {p q : Projectile} {weapon : Weapon} {terrain : Raster} {config : Config}
    {effect : FlightEffect} (hp : p.isParticle = false)
    (h : Roller.fly p weapon terrain config = .ok (effect, q)) :
    effect.spawn = [] ∧ p.SameStock q := by
  cases hrolls : p.isRolling with
  | false =>
    rw [Roller.fly_flying hrolls] at h
    obtain ⟨rfl, rfl⟩ := Prod.mk.inj (Except.ok.inj h)
    exact ⟨rfl, .refl p⟩
  | true =>
    -- Rolling ends at a wall or beyond it, or goes on to where the roller is put down.
    obtain ⟨_, _, _, hm⟩ := isRolling_iff.1 hrolls
    obtain ⟨rfl | rfl, _, rfl⟩ | ⟨_, x, vx, _, h⟩ := Roller.fly_cases hm h
    · exact ⟨rfl, .of_eq rfl rfl rfl⟩
    · exact ⟨rfl, .of_eq rfl rfl rfl⟩
    · obtain ⟨rfl | rfl, _, _, _, rfl⟩ := Roller.settle_cases h
      · exact ⟨rfl, .of_flying rfl rfl hp⟩
      · exact ⟨rfl, .of_flying rfl rfl hp⟩

/-- Of the weapons only a splitting warhead has a brood in flight, at its end. -/
theorem Mirv.fly_brood {p : Projectile} (hp : p.Fertile) (weapon : Weapon) :
    p.SameStock (Mirv.fly p weapon).2 ∧
      ((Mirv.fly p weapon).1.spawn = [] ∨
        (Mirv.fly p weapon).1.remove = true ∧ IsBrood (Mirv.fly p weapon).1.spawn) := by
  -- It is hidden behind whether the warhead is one that watches its velocity, and whether it has
  -- split.
  unfold Mirv.fly
  split
  · dsimp only
    split
    · exact ⟨.of_flying rfl rfl hp.2, .inr ⟨rfl, Mirv.fan_brood p weapon⟩⟩
    · exact ⟨.of_flying rfl rfl hp.2, .inl rfl⟩
  · exact ⟨.refl p, .inl rfl⟩

/-- A particle bears nothing, neither while it drifts nor where it burns out. -/
theorem Particle.fly_spawn (p : Projectile) (life : Nat) (soil : Bool) (terrain : Raster)
    (config : Config) : (Particle.fly p life soil terrain config).1.spawn = [] := by
  -- It can burn out in two places, which ask for the same.
  have expires (q : Projectile) : (Particle.expire q soil terrain).spawn = [] := by
    unfold Particle.expire
    split
    · rfl
    · split <;> rfl
  unfold Particle.fly
  dsimp only
  split
  · exact expires _
  · split
    · exact expires _
    · rfl

/-- A particle that drifts is a particle. -/
theorem Particle.fly_stock (p : Projectile) (life : Nat) (soil : Bool) (terrain : Raster)
    (config : Config) : p.SameStock (Particle.fly p life soil terrain config).2 := by
  unfold Particle.fly
  dsimp only
  split
  · exact ⟨rfl, rfl, fun _ => rfl⟩
  · split <;> exact ⟨rfl, rfl, fun _ => rfl⟩

namespace Projectile

/-- A projectile that is fertile and no bomb is told apart by its maneuver alone. -/
theorem fertile_of_not_bomb {p : Projectile} (hb : ¬p.isBomb = true) (hp : p.isParticle = false) :
    p.Fertile := by
  refine ⟨?_, hp⟩
  unfold isBomb at hb
  split at hb
  · exact absurd rfl hb
  · rename_i hw
    exact hw

/-- What a behavior asks for in flight. -/
theorem fly_brood {p q : Projectile} {s : Surroundings} {effect : FlightEffect}
    (h : p.fly s = .ok (effect, q)) :
    p.SameStock q ∧
      (effect.spawn = [] ∨ p.Fertile ∧ effect.remove = true ∧ IsBrood effect.spawn) := by
  -- All behaviors give their answer in the same form, so that it is enough to look at that.
  have answer {r : FlightEffect × Projectile} (h : (.ok r : Except Fault _) = .ok (effect, q))
      (hr : p.SameStock r.2)
      (hs : r.1.spawn = [] ∨ p.Fertile ∧ r.1.remove = true ∧ IsBrood r.1.spawn) :
      p.SameStock q ∧
        (effect.spawn = [] ∨ p.Fertile ∧ effect.remove = true ∧ IsBrood effect.spawn) := by
    obtain rfl := Except.ok.inj h
    exact ⟨hr, hs⟩
  have nothing (h : (.ok (.nothing, p) : Except Fault _) = .ok (effect, q)) :=
    answer h (.refl p) (.inl rfl)
  unfold fly at h
  split at h
  · exact nothing h
  · rename_i hgoes
    split at h
    · exact answer h (Particle.fly_stock ..) (.inl (Particle.fly_spawn ..))
    · rename_i hm
      -- Neither a bomb nor a particle goes on to here.
      have hp := isParticle_eq_false hm
      have hfertile : p.Fertile := fertile_of_not_bomb (fun hb => hgoes (.inr hb)) hp
      split at h
      · unfold flyAs at h
        split at h
        · obtain ⟨hs, hq⟩ := Roller.fly_stock hp h
          exact ⟨hq, .inl hs⟩
        · obtain ⟨hq, hs⟩ := Mirv.fly_brood hfertile _
          exact answer h hq (hs.imp_right fun hs => ⟨hfertile, hs⟩)
        · exact nothing h
      · exact nothing h

/-- What a weapon asks for where its projectile strikes.  Three behaviors throw out a brood, and
each of them ends the projectile. -/
theorem strikeAs_brood {p : Projectile} (hp : p.isParticle = false) (weapon : Weapon) (hit : Hit)
    (terrain : Raster) (k : Keystream) :
    p.SameStock ((p.strikeAs weapon hit terrain).run k).1.2 ∧
      (((p.strikeAs weapon hit terrain).run k).1.1.spawn = [] ∨
        ((p.strikeAs weapon hit terrain).run k).1.1.keepAlive = false ∧
          IsBrood ((p.strikeAs weapon hit terrain).run k).1.1.spawn) := by
  unfold strikeAs
  -- Three of the behaviors draw at random, which hides their answers behind the source of
  -- randomness.
  cases weapon.behavior with
  | roller =>
    show p.SameStock (Roller.strike p hit weapon terrain).2 ∧
      ((Roller.strike p hit weapon terrain).1.spawn = [] ∨ _)
    unfold Roller.strike
    split
    · exact ⟨.of_flying rfl rfl hp, .inl rfl⟩
    · exact ⟨.refl p, .inl rfl⟩
  | bounce =>
    show p.SameStock (Bounce.strike p hit weapon).2 ∧
      ((Bounce.strike p hit weapon).1.spawn = [] ∨ _)
    simp only [Bounce.strike]
    split
    · split <;> exact ⟨.of_flying rfl rfl hp, .inl rfl⟩
    · exact ⟨.refl p, .inl rfl⟩
  | napalm =>
    dsimp only
    rw [Draw.run_beside, Draw.run_beside_fst]
    exact ⟨.refl p, .inr (Particle.napalm_brood p weapon k)⟩
  | liquidDirt =>
    dsimp only
    rw [Draw.run_beside, Draw.run_beside_fst]
    exact ⟨.refl p, .inr (Particle.liquidDirt_brood p k)⟩
  | scatter =>
    dsimp only
    rw [Draw.run_beside, Draw.run_beside_fst]
    exact ⟨.refl p, .inr (Scatter.strike_brood p weapon terrain k)⟩
  | _ => exact ⟨.refl p, .inl rfl⟩

/-- What a projectile asks for where it strikes. -/
theorem strike_brood (p : Projectile) (hit : Hit) (s : Surroundings) (k : Keystream) :
    p.SameStock ((p.strike hit s).run k).1.2 ∧
      (((p.strike hit s).run k).1.1.spawn = [] ∨
        p.Fertile ∧ ((p.strike hit s).run k).1.1.keepAlive = false ∧
          IsBrood ((p.strike hit s).run k).1.1.spawn) := by
  unfold strike
  split
  · exact ⟨.refl p, .inl rfl⟩
  · rename_i soil _ _
    -- Particles leave soil or fire behind them, and no projectiles.
    refine ⟨.refl p, .inl ?_⟩
    show (Particle.strike soil hit).spawn = []
    unfold Particle.strike
    split
    · rfl
    · split <;> rfl
  · rename_i hw hm
    have hp := isParticle_eq_false hm
    split
    · obtain ⟨hq, hs⟩ := strikeAs_brood hp _ hit s.terrain k
      exact ⟨hq, hs.imp_right fun hs => ⟨⟨hw, hp⟩, hs⟩⟩
    · exact ⟨.refl p, .inl rfl⟩

end Projectile

/-! ## Guidance and flight -/

namespace Projectile

/-- Guidance changes where a projectile is headed, not what it is. -/
theorem guide_stock (p : Projectile) (actors : List Actor) : p.SameStock (p.guide actors).2 := by
  unfold guide
  split
  · split
    · exact .of_eq rfl rfl rfl
    · split <;> exact .of_eq rfl rfl rfl
    · exact .refl p
  · exact .refl p

/-- Nor does a step of its motion change what it is. -/
theorem advance_stock {p q : Projectile} {terrain : Raster} {config : Config} {wind : Float}
    {status : FlightStatus} (h : p.advance terrain config wind = .ok (status, q)) :
    p.SameStock q := by
  unfold advance at h
  split at h
  · obtain ⟨_, rfl⟩ := Prod.mk.inj (Except.ok.inj h)
    exact .refl p
  split at h
  · obtain ⟨_, rfl⟩ := Prod.mk.inj (Except.ok.inj h)
    exact .refl p
  · obtain ⟨⟨outcome, x, vx⟩, _, h⟩ := Fault.bind_ok h
    -- Whatever the walls say, only position and velocity are set.
    cases outcome with
    | _ =>
      obtain ⟨_, rfl⟩ := Prod.mk.inj (Except.ok.inj h)
      exact .of_eq rfl rfl rfl

end Projectile

/-! ## The broods that events tell of -/

namespace Event

/-- How many projectiles were made, if an event tells that some were. -/
def brood? : Event → Option Nat
  | spawned _ count => some count
  | _ => none

/-- The sizes of the broods that some events tell of. -/
def broods (es : List Event) : List Nat := es.filterMap brood?

/-- The broods of two runs of events follow one another. -/
theorem broods_append (es fs : List Event) : broods (es ++ fs) = broods es ++ broods fs :=
  List.filterMap_append

/-- Events of other kinds tell of no brood. -/
theorem broods_eq_nil {es : List Event} (h : ∀ e ∈ es, e.brood? = none) : broods es = [] :=
  List.filterMap_eq_nil_iff.2 h

/-- The broods of events that are told part by part are told part by part. -/
theorem broods_flatMap {α : Type} (f : α → List Event) (l : List α) :
    broods (l.flatMap f) = l.flatMap fun x => broods (f x) := by
  induction l with
  | nil => rfl
  | cons x l ih => rw [List.flatMap_cons, List.flatMap_cons, broods_append, ih]

end Event

open Event

/-- The report of a blast tells of no brood. -/
theorem DamageReport.broods_events (r : DamageReport) (attacker : ActorId) :
    broods (r.events attacker) = [] := by
  refine broods_eq_nil fun e he => ?_
  obtain ⟨_, _, _, rfl⟩ | ⟨_, rfl⟩ | ⟨_, rfl⟩ := mem_events he <;> rfl

/-! ## Effects -/

namespace Arena

/-- The arena goes on and asks for some new projectiles, which are told of as one brood. -/
def Bears (a : Arena) (specs : List ProjectileSpec) (a' : Arena) : Prop :=
  ∃ es, a'.events.toList = a.events.toList ++ es ∧
    broods es = (if specs = [] then [] else [specs.length]) ∧ a'.spawns = a.spawns ++ specs

namespace Bears

variable {a b c : Arena} {specs : List ProjectileSpec}

theorem refl (a : Arena) : a.Bears [] a :=
  ⟨[], (List.append_nil _).symm, rfl, (Array.append_empty).symm⟩

/-- Nor has one that is told of other things. -/
theorem of_told {es : List Event} (he : b.events.toList = a.events.toList ++ es)
    (hb : ∀ e ∈ es, e.brood? = none) (hs : b.spawns = a.spawns) : a.Bears [] b :=
  ⟨es, he, broods_eq_nil hb, by rw [hs]; simp⟩

/-- What comes before a brood is no brood. -/
theorem trans (h₁ : a.Bears [] b) (h₂ : b.Bears specs c) : a.Bears specs c := by
  obtain ⟨es, hes, hnone, hs⟩ := h₁
  obtain ⟨fs, hfs, hone, hs'⟩ := h₂
  refine ⟨es ++ fs, ?_, ?_, ?_⟩
  · rw [hfs, hes, List.append_assoc]
  · rw [broods_append, hnone, hone]
    rfl
  · rw [hs', hs]
    simp

end Bears

/-- An explosion digs and is queued, and bears nothing. -/
theorem blow_bears (a : Arena) (b : Blast) : a.Bears [] (a.blow b) :=
  .of_told (Array.toList_appendList ..) (List.forall_mem_singleton.2 rfl) rfl

/-- A blast tells of hits and deaths only. -/
theorem strikeActors_bears (a : Arena) (s : Shock) (carried : Option Vec2) :
    a.Bears [] (a.strikeActors s carried).2 :=
  ⟨_, Array.toList_appendList .., DamageReport.broods_events _ _, by simp; rfl⟩

/-- So a whole explosion bears nothing. -/
theorem explode_bears (a : Arena) (b : Blast) : a.Bears [] (a.explode b).2 := by
  rw [explode_eq]
  split
  · exact a.blow_bears b
  · exact (a.blow_bears b).trans (strikeActors_bears _ _ _)

/-- Nor does an earthwork. -/
theorem dig_bears (a : Arena) (center : Pixel) (work : Earthwork) :
    a.Bears [] (a.dig center work) := by
  unfold dig
  split
  · exact .refl a
  · exact .of_told (Array.toList_appendList ..) (List.forall_mem_singleton.2 rfl) rfl

/-- All that is asked for at once is one brood. -/
theorem queue_bears (a : Arena) (weapon : WeaponId) (spawn : List ProjectileSpec) :
    a.Bears spawn (a.queue weapon spawn) := by
  unfold queue
  split
  · rename_i hs
    -- Nothing is told where nothing is asked for.
    rw [List.isEmpty_iff] at hs
    subst hs
    exact .refl a
  · rename_i hs
    rw [List.isEmpty_iff] at hs
    refine ⟨_, Array.toList_appendList .., ?_, rfl⟩
    rw [if_neg hs]
    rfl

/-- What an effect in flight asks for is borne. -/
theorem applyFlight_bears (a : Arena) (p : Projectile) (effect : FlightEffect) :
    a.Bears effect.spawn (a.applyFlight p effect).2 := by
  simp only [applyFlight]
  refine .trans ?_ (queue_bears _ _ _)
  refine .trans ?_ (dig_bears _ _ _)
  split
  · split
    · exact explode_bears _ _
    · exact .refl a
  · exact .refl a

/-- So is what an effect where a projectile strikes asks for. -/
theorem applyImpact_bears (a : Arena) (p : Projectile) (effect : ImpactEffect) :
    a.Bears effect.spawn (a.applyImpact p effect).2 := by
  simp only [applyImpact]
  refine .trans ?_ (queue_bears _ _ _)
  refine .trans ?_ (dig_bears _ _ _)
  split
  · exact explode_bears _ _
  · exact .refl a

/-! ## Steps -/

/-- Something that happens to a projectile makes one brood at most, and that is the end of the
projectile. -/
def BearsOnce (a : Arena) (p : Projectile) (result : Projectile × Arena) : Prop :=
  ∃ specs, a.Bears specs result.2 ∧ p.SameStock result.1 ∧
    (specs = [] ∨ p.Fertile ∧ result.1.active = false ∧ IsBrood specs)

/-- A projectile that is left alone has borne nothing. -/
theorem BearsOnce.refl (a : Arena) (p : Projectile) : a.BearsOnce p (p, a) :=
  ⟨[], .refl a, .refl p, .inl rfl⟩

/-- What happens first may be anything without a brood. -/
theorem BearsOnce.after {a b : Arena} {p q : Projectile} {result : Projectile × Arena}
    (hb : a.Bears [] b) (hq : p.SameStock q) (h : b.BearsOnce q result) : a.BearsOnce p result := by
  obtain ⟨specs, hspecs, hstock, hends⟩ := h
  refine ⟨specs, hb.trans hspecs, hq.trans hstock, ?_⟩
  exact hends.imp_right fun hends => ⟨hq.fertile hends.1, hends.2⟩

/-- An impact asks for what the projectile throws out there. -/
theorem impact_bears (a : Arena) (p : Projectile) (hit : Hit) :
    a.Bears ((p.strike hit a.surroundings).run a.keystream).1.1.spawn (a.impact p hit).2 := by
  rw [impact_eq]
  have htold : a.Bears [] { a.tell [.impact p.pixel.x p.pixel.y hit] with
      keystream := ((p.strike hit a.surroundings).run a.keystream).2 } :=
    .of_told (Array.toList_appendList ..) (List.forall_mem_singleton.2 rfl) rfl
  exact htold.trans (applyImpact_bears _ _ _)

/-- A projectile that strikes bears one brood at most, at its end. -/
theorem impact_bearsOnce (a : Arena) (p : Projectile) (hit : Hit) :
    a.BearsOnce p (a.impact p hit) := by
  have hbears := a.impact_bears p hit
  obtain ⟨hstock, hspawn⟩ := p.strike_brood hit a.surroundings a.keystream
  rw [impact_eq] at hbears ⊢
  -- From here on only the effect matters, and not how it has come about.
  generalize (p.strike hit a.surroundings).run a.keystream = r at hbears hstock hspawn ⊢
  obtain ⟨⟨effect, q⟩, k⟩ := r
  refine ⟨effect.spawn, hbears, hstock.trans ?_, ?_⟩
  · rw [applyImpact_fst]
    split <;> exact .of_eq rfl rfl rfl
  · refine hspawn.imp_right fun ⟨hfertile, hends, hbrood⟩ => ⟨hfertile, ?_, hbrood⟩
    rw [applyImpact_fst, if_neg (by rw [hends]; exact Bool.false_ne_true)]

/-- A shield that turns a projectile away lets it bear nothing. -/
theorem deflect?_bearsOnce {a : Arena} {p : Projectile} {id : ActorId}
    {result : Projectile × Arena} (h : a.deflect? p id = some result) : a.BearsOnce p result := by
  obtain ⟨hcourse, keystream, actors, depleted, harena⟩ := deflect?_cases h
  refine ⟨[], ?_, .of_eq (by rw [hcourse]) (by rw [hcourse]) (by rw [hcourse]), .inl rfl⟩
  rw [harena]
  refine .of_told (Array.toList_appendList ..) (fun e he => ?_) rfl
  -- The shield is named, and that it is used up if it is.
  obtain rfl | he := List.mem_cons.1 he
  · rfl
  · split at he
    · exact List.mem_singleton.1 he ▸ rfl
    · exact absurd he List.not_mem_nil

/-- Whatever comes of a step of flight, a projectile bears one brood at most. -/
theorem resolve_bearsOnce (a : Arena) (p : Projectile) (status : FlightStatus) :
    a.BearsOnce p (a.resolve p status) := by
  cases status with
  | flying => exact .refl a p
  | offscreen => exact ⟨[], .refl a, .of_eq rfl rfl rfl, .inl rfl⟩
  | hitTerrain => exact a.impact_bearsOnce p .terrain
  | hitWall => exact a.impact_bearsOnce p .wall
  | hitTank id =>
    simp only [resolve]
    split
    · rename_i hd
      exact deflect?_bearsOnce hd
    · exact a.impact_bearsOnce p (.tank id)

/-- A step of a projectile makes one brood at most, and that is the end of the projectile.  In
flight a brood leaves no room for more: only who has had none goes on to where it may strike. -/
theorem stepProjectile_brood {a a' : Arena} {p p' : Projectile}
    (h : a.stepProjectile p = .ok (p', a')) : a.BearsOnce p (p', a') := by
  unfold stepProjectile at h
  split at h
  · obtain ⟨rfl, rfl⟩ := Prod.mk.inj (Except.ok.inj h)
    exact .refl a p
  · obtain ⟨⟨effect, q⟩, hf, h⟩ := Fault.bind_ok h
    obtain ⟨hq, hspawn⟩ := Projectile.fly_brood hf
    have hflown : q.SameStock (a.applyFlight q effect).1 := by
      rw [applyFlight_fst]
      split <;> exact .of_eq rfl rfl rfl
    have hbears := a.applyFlight_bears q effect
    dsimp only at h
    split at h
    · -- It has come to its end in flight, with a brood or without.
      rename_i hends
      obtain ⟨rfl, rfl⟩ := Prod.mk.inj (Except.ok.inj h)
      refine ⟨effect.spawn, hbears, hq.trans hflown, ?_⟩
      obtain hnone | ⟨hfertile, _, hbrood⟩ := hspawn
      · exact .inl hnone
      · exact .inr ⟨hfertile, Bool.eq_false_iff.2 hends, hbrood⟩
    · -- It goes on, so that it has had no brood yet, and may have one where it strikes.
      rename_i hon
      have hnone : effect.spawn = [] := by
        obtain hnone | ⟨_, hremove, _⟩ := hspawn
        · exact hnone
        · rw [applyFlight_fst, if_pos hremove] at hon
          exact absurd Bool.false_ne_true hon
      rw [hnone] at hbears
      obtain ⟨⟨status, r⟩, hm, h⟩ := Fault.bind_ok h
      obtain ⟨rfl, rfl⟩ := Prod.mk.inj (Except.ok.inj h)
      refine BearsOnce.after (hbears.trans ?_) ?_ (resolve_bearsOnce _ r status)
      · split
        · exact .of_told (Array.toList_appendList ..) (List.forall_mem_singleton.2 rfl)
            rfl
        · exact .refl _
      · exact ((hq.trans hflown).trans (Projectile.guide_stock _ _)).trans
          (Projectile.advance_stock hm)

end Arena

end Artillery
