import Artillery.Proofs.Arena.Moves

/-!
# Steady arenas

Chance comes into a battle through the weapons that throw things about and through the shields that
flicker or throw projectiles back.  Where there are none, nothing is drawn, and an arena does the
same for every keystream.

## Key results

- `strike_steady`, `deflect_steady`: what would draw is a plain value
- `Moves.steady`: a steady arena stays steady
- `stepProjectile_reseed`: a step of a projectile does not depend on the keystream
-/

namespace Artillery

/-- An actor has no shield that depends on chance. -/
def Actor.Steady (a : Actor) : Prop :=
  a.shield ≠ .flicker ∧ a.shield ≠ .force ∧ a.shield ≠ .heavy

instance (a : Actor) : Decidable a.Steady := inferInstanceAs (Decidable (_ ∧ _))

/-- A weapon does not throw things about. -/
def Weapon.Steady (w : Weapon) : Prop :=
  w.behavior ≠ .napalm ∧ w.behavior ≠ .liquidDirt ∧ w.behavior ≠ .scatter

instance (w : Weapon) : Decidable w.Steady := inferInstanceAs (Decidable (_ ∧ _))

/-- A catalogue has no weapon that throws things about. -/
def Arsenal.Steady (s : Arsenal) : Prop := ∀ w ∈ s.weapons, w.Steady

instance (s : Arsenal) : Decidable s.Steady := inferInstanceAs (Decidable (∀ w ∈ s.weapons, _))

/-- Nothing in an arena depends on chance. -/
structure Arena.Steady (a : Arena) : Prop where
  arsenal : a.arsenal.Steady
  actors : ∀ x ∈ a.actors, x.Steady

/-! ## What draws nothing -/

namespace Actor

variable {a : Actor}

/-- What keeps the shield, or takes it off, keeps an actor steady. -/
theorem Steady.congr {a' : Actor} (h : a.Steady) (hs : a'.shield = a.shield ∨ a'.shield = .none) :
    a'.Steady := by
  unfold Steady
  obtain hs | hs := hs <;> rw [hs]
  · exact h
  · decide

/-- Damage to an actor leaves its shield. -/
theorem hurt_shield (a : Actor) (damage : Int) : (a.hurt damage).shield = a.shield := by
  unfold hurt
  split <;> rfl

/-- Draining the shield of a steady actor leaves it steady. -/
theorem drainShield_steady (h : a.Steady) (damage : Int) : (a.drainShield damage).1.Steady := by
  unfold drainShield
  split
  · exact h.congr (.inl rfl)
  · exact h.congr (.inr rfl)

/-- Only a flicker shield tosses a coin. -/
theorem absorb_steady (h : a.Steady) (damage : Int) :
    ∃ r, a.absorb damage = pure r ∧ r.1.Steady := by
  unfold absorb
  split
  · exact ⟨_, rfl, h⟩
  · rw [if_neg h.1]
    exact ⟨_, rfl, drainShield_steady h damage⟩

/-- A steady actor throws nothing back. -/
theorem deflect_steady (h : a.Steady) (p : Projectile) : a.deflect p = pure none := by
  -- Only two kinds of shields throw anything back, and it has neither.
  have hshield : a.shield.deflects = false := by
    unfold ShieldKind.deflects
    split
    · rename_i hforce
      exact absurd hforce h.2.1
    · rename_i hheavy
      exact absurd hheavy h.2.2
    · rfl
  unfold deflect
  rw [if_pos (.inr (.inl (by rw [hshield]; exact Bool.false_ne_true)))]

end Actor

namespace Shock

/-- A hit on a steady actor draws nothing and leaves it steady. -/
theorem hit_steady {a : Actor} (h : a.Steady) (raw : Int) :
    ∃ r, hit a raw = pure r ∧ r.1.Steady := by
  obtain ⟨⟨b, damage, absorbed, depleted⟩, hb, hsteady⟩ := Actor.absorb_steady h raw
  unfold hit
  rw [hb]
  exact ⟨_, rfl, hsteady.congr (.inl (b.hurt_shield damage))⟩

/-- A blast among steady actors is no matter of chance. -/
theorem strike_steady (s : Shock) {as : List Actor} (h : ∀ a ∈ as, a.Steady)
    (carried : Option Vec2) : ∃ r, s.strike as carried = pure r ∧ ∀ a ∈ r.1, a.Steady := by
  induction as generalizing carried with
  | nil => exact ⟨_, rfl, List.forall_mem_nil _⟩
  | cons a as ih =>
    obtain ⟨ha, has⟩ := List.forall_mem_cons.1 h
    unfold strike
    split
    · -- Whoever is hit may absorb some; that and the rest of the list draw nothing.
      dsimp only
      obtain ⟨⟨b, noted⟩, hb, hsteady⟩ := hit_steady ha (s.rawDamage carried a).1
      obtain ⟨⟨rest, report⟩, hrest, hothers⟩ := ih has (s.rawDamage carried a).2
      rw [hb, hrest]
      split
      · exact ⟨_, rfl, List.forall_mem_cons.2 ⟨hsteady, hothers⟩⟩
      · exact ⟨_, rfl, List.forall_mem_cons.2 ⟨ha, hothers⟩⟩
    · obtain ⟨⟨rest, report⟩, hrest, hothers⟩ := ih has carried
      rw [hrest]
      exact ⟨_, rfl, List.forall_mem_cons.2 ⟨ha, hothers⟩⟩

end Shock

/-- What a projectile does where it strikes is a matter of chance only for the weapons that throw
things about. -/
theorem Projectile.strike_steady (p : Projectile) (hit : Hit) {s : Surroundings}
    (h : s.arsenal.Steady) : ∃ r, p.strike hit s = pure r := by
  unfold strike
  split
  · exact ⟨_, rfl⟩
  · exact ⟨_, rfl⟩
  · split
    · rename_i weapon hw
      obtain ⟨hnapalm, hliquid, hscatter⟩ := h weapon (List.mem_of_getElem? hw)
      unfold strikeAs
      -- The arsenal has none of the three behaviors that draw at random.
      cases hb : weapon.behavior with
      | napalm => exact absurd hb hnapalm
      | liquidDirt => exact absurd hb hliquid
      | scatter => exact absurd hb hscatter
      | _ => exact ⟨_, rfl⟩
    · exact ⟨_, rfl⟩

namespace Arena

variable {a a' : Arena}

/-! ## What keeps an arena steady -/

theorem Steady.congr (h : a.Steady) (ha : a'.arsenal = a.arsenal) (hs : a'.actors = a.actors) :
    a'.Steady := ⟨ha ▸ h.arsenal, hs ▸ h.actors⟩

/-- A blast leaves an arena steady. -/
theorem strikeActors_steady (h : a.Steady) (s : Shock) (carried : Option Vec2) :
    (a.strikeActors s carried).2.Steady := by
  obtain ⟨r, hr, hsteady⟩ := s.strike_steady h.actors carried
  unfold strikeActors
  rw [hr]
  exact ⟨h.arsenal, hsteady⟩

/-- Nobody gets a shield in a move. -/
theorem Move.steady {es : List Event} (hm : a.Move es a') (h : a.Steady) : a'.Steady := by
  cases hm with
  | shock s carried => exact strikeActors_steady h s carried
  | dig center work hw => exact h.congr (Move.dig a center work hw).rules.2.1 (dig_actors ..)
  | queue weapon spawn hs =>
    exact h.congr (Move.queue a weapon spawn hs).rules.2.1 (queue_actors ..)
  | deflect hi ht hd =>
    rw [Actor.deflect_steady (h.actors _ (List.mem_of_getElem? ht))] at hd
    exact nomatch congrArg Prod.fst hd
  | _ => exact h.congr rfl rfl

/-- So does everything that projectiles do to it. -/
theorem Moves.steady {es : List Event} (hm : a.Moves es a') (h : a.Steady) : a'.Steady := by
  induction hm with
  | nil => exact h
  | cons hm _ ih => exact ih (hm.steady h)

/-! ## Another keystream -/

/-- The arena with another keystream. -/
def reseed (a : Arena) (k : Keystream) : Arena := { a with keystream := k }

/-- A result with another keystream in its arena. -/
def reseeded {α : Type} (k : Keystream) (r : α × Arena) : α × Arena := (r.1, r.2.reseed k)

/-- The keystream makes no difference to it. -/
theorem Steady.reseed (h : a.Steady) (k : Keystream) : (a.reseed k).Steady := h.congr rfl rfl

section Reseed

variable (h : a.Steady) (k : Keystream)

/-- Earthworks do not look at the keystream. -/
theorem dig_reseed (a : Arena) (k : Keystream) (center : Pixel) (work : Earthwork) :
    (a.reseed k).dig center work = (a.dig center work).reseed k := by
  unfold dig
  split <;> rfl

/-- Nor does adding projectiles. -/
theorem queue_reseed (a : Arena) (k : Keystream) (weapon : WeaponId)
    (spawn : List ProjectileSpec) :
    (a.reseed k).queue weapon spawn = (a.queue weapon spawn).reseed k := by
  unfold queue
  split <;> rfl

/-- Nor does telling of a lock. -/
theorem tellLock_reseed (a : Arena) (k : Keystream) (owner : ActorId)
    (locked : Option GuidanceKind) :
    (a.reseed k).tellLock owner locked = (a.tellLock owner locked).reseed k := by
  cases locked <;> rfl

include h

/-- An arena that tells of a lock stays steady. -/
theorem tellLock_steady (owner : ActorId) (locked : Option GuidanceKind) :
    (a.tellLock owner locked).Steady := by
  cases locked with
  | none => exact h
  | some kind => exact h.congr rfl rfl

/-- A blast over a steady arena is the same for every keystream. -/
theorem strikeActors_reseed (s : Shock) (carried : Option Vec2) :
    (a.reseed k).strikeActors s carried = reseeded k (a.strikeActors s carried) := by
  obtain ⟨r, hr, _⟩ := s.strike_steady h.actors carried
  unfold strikeActors
  rw [show s.strike (a.reseed k).actors carried = _ from hr, hr]
  rfl

/-- So is an explosion. -/
theorem explode_reseed (b : Blast) :
    ((a.reseed k).explode b).2 = (a.explode b).2.reseed k := by
  rw [explode_eq, explode_eq]
  split
  · rfl
  · have hblown : (a.blow b).Steady := h.congr rfl rfl
    exact congrArg Prod.snd (strikeActors_reseed hblown k _ _)

/-- Nor does it matter whether there is an explosion. -/
theorem explode_if_reseed (c : Prop) [Decidable c] (b : Blast) :
    (if c then ((a.reseed k).explode b).2 else a.reseed k) =
      (if c then (a.explode b).2 else a).reseed k := by
  split
  · exact explode_reseed h k b
  · rfl

/-- So is what a projectile does where it strikes. -/
theorem applyImpact_reseed (p : Projectile) (effect : ImpactEffect) :
    (a.reseed k).applyImpact p effect = reseeded k (a.applyImpact p effect) := by
  unfold applyImpact reseeded
  dsimp only
  rw [← queue_reseed, ← dig_reseed, ← explode_if_reseed h k]
  rfl

/-- So is what it does in flight. -/
theorem applyFlight_reseed (p : Projectile) (effect : FlightEffect) :
    (a.reseed k).applyFlight p effect = reseeded k (a.applyFlight p effect) := by
  unfold applyFlight reseeded
  dsimp only
  rw [← queue_reseed, ← dig_reseed, show (a.reseed k).config = a.config from rfl]
  cases (effect.scaled a.config.explosionScale).explodeHere with
  | none => rfl
  | some radius =>
    dsimp only
    rw [explode_if_reseed h k]

/-- So is the whole impact. -/
theorem impact_reseed (p : Projectile) (hit : Hit) :
    (a.reseed k).impact p hit = reseeded k (a.impact p hit) := by
  have htold : (a.tell [.impact p.pixel.x p.pixel.y hit]).Steady := h.congr rfl rfl
  obtain ⟨⟨effect, q⟩, hr⟩ := p.strike_steady hit (s := a.surroundings) h.arsenal
  -- The effect depends on the surroundings alone, which know no keystream.
  have himpact (b : Arena) (hb : b.surroundings = a.surroundings) : b.impact p hit =
      (b.tell [.impact p.pixel.x p.pixel.y hit]).applyImpact q effect := by
    unfold impact
    dsimp only
    rw [show (b.tell [.impact p.pixel.x p.pixel.y hit]).surroundings = a.surroundings from hb, hr]
    rfl
  rw [himpact (a.reseed k) rfl, himpact a rfl]
  exact applyImpact_reseed htold k q effect

/-- No shield of a steady arena throws a projectile back. -/
theorem deflect?_steady (p : Projectile) (id : ActorId) : a.deflect? p id = none := by
  rw [Option.eq_none_iff_forall_ne_some]
  intro r hr
  simp only [deflect?, Option.bind_eq_bind, Option.bind_eq_some_iff] at hr
  obtain ⟨i, _, target, ht, _, hd, _⟩ := hr
  rw [Actor.deflect_steady (h.actors _ (List.mem_of_getElem? ht))] at hd
  cases hd

/-- So whatever comes of a step of flight is the same for every keystream. -/
theorem resolve_reseed (p : Projectile) (status : FlightStatus) :
    (a.reseed k).resolve p status = reseeded k (a.resolve p status) := by
  cases status with
  | flying => rfl
  | offscreen => rfl
  | hitTerrain => exact impact_reseed h k p .terrain
  | hitWall => exact impact_reseed h k p .wall
  | hitTank id =>
    -- A tank that is struck could only draw at random for its shield.
    have hstruck (b : Arena) (hb : b.Steady) :
        b.resolve p (.hitTank id) = b.impact p (.tank id) := by
      simp only [resolve, deflect?_steady hb p id]
    rw [hstruck a h, hstruck _ (h.reseed k)]
    exact impact_reseed h k p (.tank id)

/-- The second half of a step does not look at the keystream either. -/
theorem flyOn_reseed (p : Projectile) :
    (a.reseed k).flyOn p = (a.flyOn p).map (reseeded k) := by
  unfold flyOn
  split
  · rfl
  · dsimp only
    generalize hg : p.guide a.actors = guided
    have hagain : p.guide (a.reseed k).actors = guided := hg
    have htold := tellLock_reseed a k guided.2.owner guided.1
    have hsteady := tellLock_steady h guided.2.owner guided.1
    rw [hagain, htold]
    -- Guidance and motion are functions of what both arenas have in common.
    generalize a.tellLock guided.2.owner guided.1 = b at hsteady
    show (guided.2.advance b.terrain b.config b.wind).map _ = _
    cases guided.2.advance b.terrain b.config b.wind with
    | error f => rfl
    | ok r => exact congrArg Except.ok (resolve_reseed hsteady k r.2 r.1)

/-- A step of a projectile over a steady arena is the same for every keystream, and takes nothing
from it. -/
theorem stepProjectile_reseed (p : Projectile) :
    (a.reseed k).stepProjectile p = (a.stepProjectile p).map (reseeded k) := by
  rw [stepProjectile_eq, stepProjectile_eq]
  split
  · rfl
  · show (p.fly a.surroundings >>= _) = (p.fly a.surroundings >>= _).map _
    cases p.fly a.surroundings with
    | error f => rfl
    | ok r =>
      obtain ⟨es, hmoves⟩ := applyFlight_moves a r.2 r.1
      have hflown := flyOn_reseed (hmoves.steady h) k (a.applyFlight r.2 r.1).1
      show ((a.reseed k).applyFlight r.2 r.1).2.flyOn _ = _
      -- The first half is the same for both, and leaves a steady arena to the second.
      rw [applyFlight_reseed h k]
      exact hflown

end Reseed

end Arena

end Artillery
