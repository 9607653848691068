import Artillery.Proofs.Arena.Budgets

/-!
# Guidance in a step

Many things happen to a projectile in a step, and only one of them has to do with its guidance.  There
guidance waits, locks, or adds the correction that it has locked to.

## Key results

- `SameAim`: what everything else in a step leaves alone
- `ComesToGuidance`: what a projectile and the arena are when guidance acts in a step
- `ComesToGuidance.stepProjectile_eq`: from there on the guided projectile flies
- `stepProjectile_guides`: what a step does to the aim of a projectile, and the locks that it tells of
- `guide_turn`: guidance takes one of four turns
-/

namespace Artillery

/-! ## What a projectile aims at -/

namespace Projectile

/-- A projectile keeps its owner, its guidance, and all that decides whether it can be guided but for
rolling. -/
structure SameAim (p q : Projectile) : Prop where
  owner : q.owner = p.owner
  guidance : q.guidance = p.guidance
  warhead : q.warhead = p.warhead
  particle : q.isParticle = p.isParticle

namespace SameAim

variable {p q r : Projectile}

theorem refl (p : Projectile) : SameAim p p := ⟨rfl, rfl, rfl, rfl⟩

/-- What has kept its aim twice has kept it. -/
theorem trans (h₁ : SameAim p q) (h₂ : SameAim q r) : SameAim p r :=
  ⟨h₂.owner.trans h₁.owner, h₂.guidance.trans h₁.guidance, h₂.warhead.trans h₁.warhead,
    h₂.particle.trans h₁.particle⟩

/-- It is enough that nothing that the aim depends on has changed. -/
theorem of_eq (ho : q.owner = p.owner) (hg : q.guidance = p.guidance) (hw : q.warhead = p.warhead)
    (hm : q.maneuver = p.maneuver) : SameAim p q := by
  refine ⟨ho, hg, hw, ?_⟩
  unfold isParticle
  rw [hm]

/-- A projectile of the same aim bears what it bore. -/
theorem fertile (h : SameAim p q) (hp : p.Fertile) : q.Fertile :=
  ⟨h.warhead.trans hp.1, h.particle.trans hp.2⟩

end SameAim

end Projectile

open Projectile

/-! ## Behaviors -/

/-- A particle drifts on as a particle, or burns out as one. -/
theorem Particle.fly_aim {p : Projectile} {life : Nat} {soil : Bool}
    (hm : p.maneuver = .particle life soil) (terrain : Raster) (config : Config) :
    p.SameAim (Particle.fly p life soil terrain config).2 := by
  have hp : p.isParticle = true := isParticle_eq_true_iff.2 ⟨life, soil, hm⟩
  unfold Particle.fly
  dsimp only
  split
  · exact ⟨rfl, rfl, rfl, hp.symm⟩
  · split <;> exact ⟨rfl, rfl, rfl, hp.symm⟩

/-- A splitting warhead changes what it has seen, never its aim. -/
theorem Mirv.fly_aim {p : Projectile} (hp : p.isParticle = false) (weapon : Weapon) :
    p.SameAim (Mirv.fly p weapon).2 := by
  unfold Mirv.fly
  split
  · dsimp only
    split <;> exact ⟨rfl, rfl, rfl, hp.symm⟩
  · exact .refl p

/-- A roller changes its place and its speed, never its aim. -/
theorem Roller.fly_aim {p q : Projectile} {weapon : Weapon} {terrain : Raster} {config : Config}
    {effect : FlightEffect} (hp : p.isParticle = false)
    (h : Roller.fly p weapon terrain config = .ok (effect, q)) : p.SameAim q := by
  cases hrolls : p.isRolling with
  | false =>
    rw [Roller.fly_flying hrolls] at h
    obtain ⟨_, rfl⟩ := Prod.mk.inj (Except.ok.inj h)
    exact .refl p
  | true =>
    obtain ⟨_, _, _, hm⟩ := Projectile.isRolling_iff.1 hrolls
    -- Where it ends it keeps its maneuver, and where it is put down it rolls on.
    obtain ⟨_, position, rfl⟩ | ⟨_, x, vx, _, h⟩ := Roller.fly_cases hm h
    · exact .of_eq rfl rfl rfl rfl
    · obtain ⟨_, _, _, _, rfl⟩ := Roller.settle_cases h
      exact ⟨rfl, rfl, rfl, hp.symm⟩

namespace Projectile

/-- No behavior changes the aim of its projectile in flight. -/
theorem fly_aim {p q : Projectile} {s : Surroundings} {effect : FlightEffect}
    (h : p.fly s = .ok (effect, q)) : p.SameAim q := by
  have answer {r : FlightEffect × Projectile} (hr : p.SameAim r.2)
      (h : (.ok r : Except Fault _) = .ok (effect, q)) : p.SameAim q := by
    obtain rfl := Except.ok.inj h
    exact hr
  unfold fly at h
  split at h
  · exact answer (.refl p) h
  · split at h
    · rename_i hm
      exact answer (Particle.fly_aim hm s.terrain s.config) h
    · -- Only what is no particle has a weapon that decides how it flies.
      rename_i hm
      have hp := isParticle_eq_false hm
      split at h
      · unfold flyAs at h
        split at h
        · exact Roller.fly_aim hp h
        · exact answer (Mirv.fly_aim hp _) h
        · exact answer (.refl p) h
      · exact answer (.refl p) h

/-- Nor where that strikes. -/
theorem strike_aim (p : Projectile) (hit : Hit) (s : Surroundings) (k : Keystream) :
    p.SameAim ((p.strike hit s).run k).1.2 := by
  unfold strike
  split
  · exact .refl p
  · exact .refl p
  · rename_i _ hm
    have hp := isParticle_eq_false hm
    split
    · rename_i weapon _
      unfold strikeAs
      -- Rollers and leapfrogs change their maneuver, and neither becomes a particle by it.
      cases weapon.behavior with
      | roller =>
        show p.SameAim (Roller.strike p hit weapon s.terrain).2
        unfold Roller.strike
        split
        · exact ⟨rfl, rfl, rfl, hp.symm⟩
        · exact .refl p
      | bounce =>
        show p.SameAim (Bounce.strike p hit weapon).2
        simp only [Bounce.strike]
        split
        · split <;> exact ⟨rfl, rfl, rfl, hp.symm⟩
        · exact .refl p
      | napalm | liquidDirt | scatter =>
        dsimp only
        rw [Draw.run_beside]
        exact .refl p
      | _ => exact .refl p
    · exact .refl p

/-- A step of motion keeps the aim. -/
theorem advance_aim {p q : Projectile} {terrain : Raster} {config : Config} {wind : Float}
    {status : FlightStatus} (h : p.advance terrain config wind = .ok (status, q)) :
    p.SameAim q := by
  unfold advance at h
  split at h
  · obtain ⟨_, rfl⟩ := Prod.mk.inj (Except.ok.inj h)
    exact .refl p
  split at h
  · obtain ⟨_, rfl⟩ := Prod.mk.inj (Except.ok.inj h)
    exact .refl p
  · obtain ⟨⟨outcome, x, vx⟩, _, h⟩ := Fault.bind_ok h
    -- Whatever the walls say, only position and velocity are set.
    cases outcome with
    | _ =>
      obtain ⟨_, rfl⟩ := Prod.mk.inj (Except.ok.inj h)
      exact .of_eq rfl rfl rfl rfl

end Projectile

/-! ## The locks that are told of -/

namespace Event

/-- Whether an event tells that guidance has locked. -/
def isLock : Event → Bool
  | guidanceLocked .. => true
  | _ => false

/-- The events of some that tell of locks. -/
def locks (es : List Event) : List Event := es.filter isLock

/-- The locks of two runs of events follow one another. -/
theorem locks_append (es fs : List Event) : locks (es ++ fs) = locks es ++ locks fs :=
  List.filter_append ..

/-- Events of other kinds tell of no lock. -/
theorem locks_eq_nil {es : List Event} (h : ∀ e ∈ es, e.isLock = false) : locks es = [] :=
  List.filter_eq_nil_iff.2 fun e he => ne_true_of_eq_false (h e he)

/-- The locks of events that are told part by part are told part by part. -/
theorem locks_flatMap {α : Type} (f : α → List Event) (l : List α) :
    locks (l.flatMap f) = l.flatMap fun x => locks (f x) := List.filter_flatMap ..

/-- The events of earthworks and blasts tell of none. -/
theorem isLock_of_isWork {e : Event} (h : e.isWork = true) : e.isLock = false := by
  cases e with
  | guidanceLocked => exact nomatch h
  | _ => rfl

end Event

open Event

namespace Arena

/-- The arena goes on, and tells of some locks and of anything else. -/
def Locks (a : Arena) (ls : List Event) (a' : Arena) : Prop :=
  ∃ es, a'.events.toList = a.events.toList ++ es ∧ locks es = ls

namespace Locks

variable {a b c : Arena} {ls ms : List Event}

/-- Nothing is told where nothing happens. -/
theorem refl (a : Arena) : a.Locks [] a := ⟨[], (List.append_nil _).symm, rfl⟩

/-- What is told of two phases is told of the first and then of the second. -/
theorem trans (h₁ : a.Locks ls b) (h₂ : b.Locks ms c) : a.Locks (ls ++ ms) c := by
  obtain ⟨es, hes, hls⟩ := h₁
  obtain ⟨fs, hfs, hms⟩ := h₂
  exact ⟨es ++ fs, by rw [hfs, hes, List.append_assoc], by rw [locks_append, hls, hms]⟩

/-- An effect that is carried out locks nothing. -/
theorem of_work (h : Tells isWork a b) : a.Locks [] b := by
  obtain ⟨es, hes, hwork⟩ := h
  exact ⟨es, hes, locks_eq_nil fun e he => isLock_of_isWork (hwork e he)⟩

end Locks

/-- An effect in flight digs, blows and bears. -/
theorem applyFlight_tells (a : Arena) (p : Projectile) (effect : FlightEffect) :
    Tells isWork a (a.applyFlight p effect).2 := by
  simp only [applyFlight]
  refine .trans ?_ (queue_tells _ _ _)
  refine .trans ?_ (dig_tells _ _ _)
  split
  · split
    · exact explode_tells _ _
    · exact .refl a
  · exact .refl a

/-- The lock that guidance answers with is the one that is told of. -/
theorem tellLock_eq (a : Arena) (owner : ActorId) (locked : Option GuidanceKind) :
    a.tellLock owner locked = a.tell (locked.toList.map (.guidanceLocked owner)) := by
  cases locked with
  | none => simp [tellLock, tell]
  | some kind => rfl

/-- Guidance tells of its lock and of nothing else. -/
theorem tell_locks (a : Arena) (owner : ActorId) (locked : Option GuidanceKind) :
    a.Locks (locked.toList.map (.guidanceLocked owner))
      (a.tell (locked.toList.map (.guidanceLocked owner))) := by
  refine ⟨_, Array.toList_appendList .., ?_⟩
  cases locked <;> rfl

variable {a a' b : Arena} {p p' q : Projectile}

/-- An effect in flight keeps the aim. -/
theorem applyFlight_aim (a : Arena) (p : Projectile) (effect : FlightEffect) :
    p.SameAim (a.applyFlight p effect).1 := by
  rw [applyFlight_fst]
  split <;> exact .of_eq rfl rfl rfl rfl

/-- So does one where the projectile strikes. -/
theorem applyImpact_aim (a : Arena) (p : Projectile) (effect : ImpactEffect) :
    p.SameAim (a.applyImpact p effect).1 := by
  rw [applyImpact_fst]
  split <;> exact .of_eq rfl rfl rfl rfl

/-- An impact has nothing to do with guidance. -/
theorem impact_aim (a : Arena) (p : Projectile) (hit : Hit) :
    p.SameAim (a.impact p hit).1 ∧ a.Locks [] (a.impact p hit).2 := by
  rw [impact_eq]
  refine ⟨(p.strike_aim hit _ _).trans (applyImpact_aim _ _ _), ?_⟩
  have htold : a.Locks [] { a.tell [.impact p.pixel.x p.pixel.y hit] with
      keystream := ((p.strike hit a.surroundings).run a.keystream).2 } :=
    ⟨_, Array.toList_appendList .., rfl⟩
  exact htold.trans (.of_work (applyImpact_tells _ _ _))

/-- Nor has anything else that comes of a step of flight. -/
theorem resolve_aim (a : Arena) (p : Projectile) (status : FlightStatus) :
    p.SameAim (a.resolve p status).1 ∧ a.Locks [] (a.resolve p status).2 := by
  cases status with
  | flying => exact ⟨.refl p, .refl a⟩
  | offscreen => exact ⟨.of_eq rfl rfl rfl rfl, .refl a⟩
  | hitTerrain => exact a.impact_aim p .terrain
  | hitWall => exact a.impact_aim p .wall
  | hitTank id =>
    simp only [resolve]
    split
    · rename_i result hd
      -- A shield tells of itself and turns the projectile, which is no matter of guidance.
      obtain ⟨hcourse, keystream, actors, depleted, harena⟩ := deflect?_cases hd
      rw [hcourse, harena]
      refine ⟨.of_eq rfl rfl rfl rfl, _, Array.toList_appendList .., ?_⟩
      cases depleted <;> rfl
    · exact a.impact_aim p (.tank id)

/-! ## Where guidance acts -/

/-- In a step over an arena `a` a projectile `p` comes to guidance as `q`, over an arena `b`: its
behavior has answered, the answer has been carried out, and the projectile is still in flight. -/
structure ComesToGuidance (a : Arena) (p q : Projectile) (b : Arena) : Prop where
  begins : p.active = true
  flies : ∃ effect flown, p.fly a.surroundings = .ok (effect, flown) ∧
    a.applyFlight flown effect = (q, b)
  goesOn : q.active = true

namespace ComesToGuidance

/-- Whatever comes before guidance keeps the aim and tells of no lock. -/
theorem aim (h : a.ComesToGuidance p q b) : p.SameAim q ∧ a.Locks [] b := by
  obtain ⟨effect, flown, hf, happlied⟩ := h.flies
  have haim := (fly_aim hf).trans (a.applyFlight_aim flown effect)
  have htold := a.applyFlight_tells flown effect
  rw [happlied] at haim htold
  exact ⟨haim, .of_work htold⟩

/-- What comes to guidance is known from the arena and the projectile before. -/
theorem unique {q' : Projectile} {b' : Arena} (h : a.ComesToGuidance p q b)
    (h' : a.ComesToGuidance p q' b') : q' = q ∧ b' = b := by
  obtain ⟨effect, flown, hf, happlied⟩ := h.flies
  obtain ⟨effect', flown', hf', happlied'⟩ := h'.flies
  obtain ⟨rfl, rfl⟩ := Prod.mk.inj (Except.ok.inj (hf.symm.trans hf'))
  exact Prod.mk.inj (happlied'.symm.trans happlied)

/-- From guidance on the step tells of the lock, if there is one, flies the guided projectile, and
acts on what has become of it. -/
theorem stepProjectile_eq (h : a.ComesToGuidance p q b) :
    a.stepProjectile p = ((q.guide b.actors).2.advance b.terrain b.config b.wind).map fun s =>
      (b.tell ((q.guide b.actors).1.toList.map
        (.guidanceLocked (q.guide b.actors).2.owner))).resolve s.2 s.1 := by
  obtain ⟨effect, flown, hf, happlied⟩ := h.flies
  rw [stepProjectile_of_fly h.begins hf, happlied, flyOn, if_neg fun hc => hc h.goesOn]
  dsimp only
  rw [tellLock_eq]
  rfl

end ComesToGuidance

/-- A step that ends before guidance has nothing to do with it. -/
theorem stepProjectile_unguided (hends : ∀ q b, ¬a.ComesToGuidance p q b)
    (h : a.stepProjectile p = .ok (p', a')) : p.SameAim p' ∧ a.Locks [] a' := by
  rw [stepProjectile_eq] at h
  split at h
  · obtain ⟨rfl, rfl⟩ := Prod.mk.inj (Except.ok.inj h)
    exact ⟨.refl p, .refl a⟩
  · rename_i hactive
    obtain ⟨⟨effect, flown⟩, hf, h⟩ := Fault.bind_ok h
    -- Had the projectile gone on after its effect, it would have come to guidance.
    have hended : (a.applyFlight flown effect).1.active = false := Bool.eq_false_iff.2 fun hon =>
      hends _ _ ⟨Decidable.not_not.1 hactive, ⟨effect, flown, hf, rfl⟩, hon⟩
    rw [flyOn_ended hended] at h
    obtain ⟨rfl, rfl⟩ := Prod.mk.inj (Except.ok.inj h)
    exact ⟨(fly_aim hf).trans (applyFlight_aim _ _ _), .of_work (applyFlight_tells _ _ _)⟩

/-- In a step the aim of a projectile changes in guidance only, and nothing but that is told of
locks. -/
theorem stepProjectile_guides (h : a.stepProjectile p = .ok (p', a')) :
    ((∀ q b, ¬a.ComesToGuidance p q b) ∧ p.SameAim p' ∧ a.Locks [] a') ∨
      ∃ q b, a.ComesToGuidance p q b ∧ p.SameAim q ∧ (q.guide b.actors).2.SameAim p' ∧
        a.Locks ((q.guide b.actors).1.toList.map
          (.guidanceLocked (q.guide b.actors).2.owner)) a' := by
  by_cases hcomes : ∃ q b, a.ComesToGuidance p q b
  · obtain ⟨q, b, hcomes⟩ := hcomes
    obtain ⟨haim, hquiet⟩ := hcomes.aim
    rw [hcomes.stepProjectile_eq] at h
    refine .inr ⟨q, b, hcomes, haim, ?_⟩
    -- Only the result of guidance matters for what follows.
    generalize q.guide b.actors = guided at h ⊢
    cases hm : guided.2.advance b.terrain b.config b.wind with
    | error f =>
      rw [hm] at h
      exact nomatch h
    | ok s =>
      rw [hm] at h
      obtain ⟨status, flown⟩ := s
      have htell := b.tell_locks guided.2.owner guided.1
      generalize b.tell (guided.1.toList.map (.guidanceLocked guided.2.owner)) = told at h htell
      have hresult : told.resolve flown status = (p', a') := Except.ok.inj h
      obtain ⟨hflown, hresolved⟩ := told.resolve_aim flown status
      rw [hresult] at hflown hresolved
      -- What comes of the flight tells of no locks, nor did what led to guidance.
      have hlocks := hquiet.trans (htell.trans hresolved)
      rw [List.nil_append, List.append_nil] at hlocks
      exact ⟨(advance_aim hm).trans hflown, hlocks⟩
  · have hends (q : Projectile) (b : Arena) : ¬a.ComesToGuidance p q b := fun hc =>
      hcomes ⟨q, b, hc⟩
    exact .inl ⟨hends, stepProjectile_unguided hends h⟩

end Arena

/-! ## The turns of guidance -/

/-- What guidance does in a step. -/
inductive Turn where
  /-- There is none. -/
  | rests
  /-- It goes on waiting. -/
  | waits (kind : GuidanceKind)
  /-- It locks to a correction. -/
  | locks (kind : GuidanceKind) (correction : Vec2)
  /-- It keeps to the correction that it has locked to. -/
  | holds (kind : GuidanceKind) (correction : Vec2)
  deriving DecidableEq

namespace Turn

/-- The guidance of the projectile before the step. -/
def before : Turn → Option Guidance
  | rests => none
  | waits kind => some (.armed kind)
  | locks kind _ => some (.armed kind)
  | holds kind correction => some (.locked kind correction)

/-- The guidance of the projectile after the step. -/
def after : Turn → Option Guidance
  | rests => none
  | waits kind => some (.armed kind)
  | locks kind correction => some (.locked kind correction)
  | holds kind correction => some (.locked kind correction)

/-- The lock that is told of. -/
def told (owner : ActorId) : Turn → List Event
  | locks kind _ => [.guidanceLocked owner kind]
  | _ => []

/-- What becomes of the projectile in guidance.  A locked correction is added once, unless the
projectile rolls; before it has locked, guidance leaves the projectile as it is. -/
def steer (p : Projectile) : Turn → Projectile
  | rests => p
  | waits _ => p
  | locks kind correction => { p with
      guidance := some (.locked kind correction)
      velocity := p.velocity + correction }
  | holds _ correction =>
    if p.isRolling then p else { p with velocity := p.velocity + correction }

section Holds

variable {p : Projectile} (kind : GuidanceKind) (correction : Vec2)

/-- A roller is not steered. -/
theorem steer_rolling (h : p.isRolling = true) : (holds kind correction).steer p = p := if_pos h

/-- What is locked adds its correction in every step in the air. -/
theorem steer_flying (h : p.isRolling = false) :
    (holds kind correction).steer p = { p with velocity := p.velocity + correction } :=
  if_neg (ne_true_of_eq_false h)

end Holds

/-- Guidance changes a projectile in its guidance and its velocity only. -/
theorem steer_frame (p : Projectile) (t : Turn) :
    (t.steer p).owner = p.owner ∧ (t.steer p).warhead = p.warhead ∧
      (t.steer p).isParticle = p.isParticle := by
  -- Only a turn that holds asks whether the projectile rolls; the others set fields at once.
  cases t with
  | holds =>
    cases hrolls : p.isRolling with
    | true =>
      rw [steer_rolling _ _ hrolls]
      exact ⟨rfl, rfl, rfl⟩
    | false =>
      rw [steer_flying _ _ hrolls]
      exact ⟨rfl, rfl, rfl⟩
  | _ => exact ⟨rfl, rfl, rfl⟩

/-- A turn is known from the guidance before and after it. -/
theorem eq_of {t u : Turn} (hb : t.before = u.before) (ha : t.after = u.after) : t = u := by
  cases t <;> cases u <;> simp_all [before, after]

/-- There is a turn in which the guidance stays as it is. -/
theorem exists_stays (g : Option Guidance) :
    ∃ t : Turn, t.before = g ∧ t.after = g ∧ ∀ owner, t.told owner = [] := by
  cases g with
  | none => exact ⟨rests, rfl, rfl, fun _ => rfl⟩
  | some g =>
    cases g with
    | armed kind => exact ⟨waits kind, rfl, rfl, fun _ => rfl⟩
    | locked kind correction => exact ⟨holds kind correction, rfl, rfl, fun _ => rfl⟩

end Turn

/-- Guidance takes a turn.  For this a projectile has to be no bomb and no particle. -/
theorem Projectile.guide_turn {p : Projectile} (hp : p.Fertile) (actors : List Actor) :
    ∃ t : Turn, p.guidance = t.before ∧ (p.guide actors).2 = t.steer p ∧
      (t.steer p).guidance = t.after ∧
      (p.guide actors).1.toList.map (.guidanceLocked p.owner) = t.told p.owner := by
  have hguidable : p.isGuidable = true ↔ p.isRolling = false := by
    have hbomb := Bool.eq_false_iff.2 (not_isBomb hp.1)
    simp [isGuidable, hp.2, hbomb]
  obtain ⟨t, hbefore, hafter, htold⟩ := Turn.exists_stays p.guidance
  unfold guide
  cases hrolls : p.isRolling with
  | true =>
    -- A projectile that rolls is not guided.
    have hstays : t.steer p = p := by
      cases t with
      | locks => exact nomatch hbefore.trans hafter.symm
      | holds => exact Turn.steer_rolling _ _ hrolls
      | _ => rfl
    rw [if_neg fun hc => nomatch hrolls.symm.trans (hguidable.1 hc)]
    exact ⟨t, hbefore.symm, hstays.symm, by rw [hstays, hafter], (htold _).symm⟩
  | false =>
    rw [if_pos (hguidable.2 hrolls)]
    -- The guidance that it has decides the turn, and the target that is found whether it locks.
    split
    · rename_i kind correction hg
      have hsteer := Turn.steer_flying kind correction hrolls
      exact ⟨.holds kind correction, hg, hsteer.symm, by rw [hsteer]; exact hg, rfl⟩
    · rename_i kind hg
      split
      · rename_i correction _
        exact ⟨.locks kind correction, hg, rfl, rfl, rfl⟩
      · exact ⟨.waits kind, hg, rfl, hg, rfl⟩
    · rename_i hg
      exact ⟨.rests, hg, rfl, hg, rfl⟩

end Artillery
