import Artillery.Proofs.Arena.Broods

/-!
# Budgets of a projectile

Three kinds of projectiles count down to their end: a roller the steps that it rolls, a particle the
steps of its life, and a leapfrog its bounces.  A step uses up a part of what is left or is the last
one, whatever happens to the projectile on the way.

## Key results

- `flyOn_cases`: the second half of a step flies a projectile on, and may let it strike once
- `stepProjectile_rolls`, `stepProjectile_drifts`: a step ends a roller or a particle, or it uses up
  a step of what that has left
- `stepProjectile_hops`: a step ends a leapfrog before it strikes the terrain, flies it on, or is one
  bounce
-/

namespace Artillery

/-! ## What is told in flight -/

namespace Event

/-- Whether an event tells of guidance, or of a shield that throws a projectile back. -/
def isEnRoute : Event → Bool
  | guidanceLocked .. | shieldDeflected .. | shieldDepleted .. => true
  | _ => false

/-- Whether an event tells of something that an effect does. -/
def isWork : Event → Bool
  | explosion .. | terrainChanged .. | spawned .. | actorDamaged .. | shieldDepleted ..
  | actorKilled .. => true
  | _ => false

/-- Whether an event tells that a projectile has struck the terrain. -/
def isTouchdown : Event → Bool
  | impact _ _ .terrain => true
  | impact .. | launched .. | explosion .. | terrainChanged .. | spawned .. | guidanceLocked ..
  | shieldDeflected .. | shieldDepleted .. | actorDamaged .. | actorKilled .. | actorLanded ..
  | windChanged .. => false

/-- How often projectiles have struck the terrain. -/
def touchdowns (es : List Event) : Nat := es.countP isTouchdown

/-- The touchdowns of two runs of events are added up. -/
theorem touchdowns_append (es fs : List Event) :
    touchdowns (es ++ fs) = touchdowns es + touchdowns fs := List.countP_append

/-- Events of other kinds are no touchdowns. -/
theorem touchdowns_eq_zero {es : List Event} (h : ∀ e ∈ es, e.isTouchdown = false) :
    touchdowns es = 0 :=
  List.countP_eq_zero.2 fun e he => ne_true_of_eq_false (h e he)

/-- What is told of a flight is none. -/
theorem isTouchdown_of_isEnRoute {e : Event} (h : e.isEnRoute = true) :
    e.isTouchdown = false := by
  cases e with
  | impact => exact nomatch h
  | _ => rfl

/-- Nor is what is told of earthworks and blasts. -/
theorem isTouchdown_of_isWork {e : Event} (h : e.isWork = true) : e.isTouchdown = false := by
  cases e with
  | impact => exact nomatch h
  | _ => rfl

end Event

namespace Arena

/-- The arena goes on, and tells of nothing but events of one kind. -/
def Tells (kind : Event → Bool) (a a' : Arena) : Prop :=
  ∃ es, a'.events.toList = a.events.toList ++ es ∧ ∀ e ∈ es, kind e = true

namespace Tells

variable {kind : Event → Bool} {a b c : Arena}

theorem refl (a : Arena) : Tells kind a a := ⟨[], (List.append_nil _).symm, List.forall_mem_nil _⟩

/-- What is told of two phases in turn is of the kind if both parts are. -/
theorem trans (h₁ : Tells kind a b) (h₂ : Tells kind b c) : Tells kind a c := by
  obtain ⟨es, hes, hkind⟩ := h₁
  obtain ⟨fs, hfs, hkind'⟩ := h₂
  refine ⟨es ++ fs, by rw [hfs, hes, List.append_assoc], fun e he => ?_⟩
  exact (List.mem_append.1 he).elim (hkind e) (hkind' e)

end Tells

open Event

/-- An explosion tells of its blast, its hits and its crater. -/
theorem explode_tells (a : Arena) (b : Blast) : Tells isWork a (a.explode b).2 := by
  have hblow : Tells isWork a (a.blow b) :=
    ⟨_, Array.toList_appendList .., List.forall_mem_singleton.2 rfl⟩
  rw [explode_eq]
  split
  · exact hblow
  · refine hblow.trans ⟨_, Array.toList_appendList .., fun e he => ?_⟩
    obtain ⟨_, _, _, rfl⟩ | ⟨_, rfl⟩ | ⟨_, rfl⟩ := DamageReport.mem_events he <;> rfl

/-- An earthwork tells of itself. -/
theorem dig_tells (a : Arena) (center : Pixel) (work : Earthwork) :
    Tells isWork a (a.dig center work) := by
  unfold dig
  split
  · exact .refl a
  · exact ⟨_, Array.toList_appendList .., List.forall_mem_singleton.2 rfl⟩

/-- New projectiles are told of as a brood. -/
theorem queue_tells (a : Arena) (weapon : WeaponId) (spawn : List ProjectileSpec) :
    Tells isWork a (a.queue weapon spawn) := by
  unfold queue
  split
  · exact .refl a
  · exact ⟨_, Array.toList_appendList .., List.forall_mem_singleton.2 rfl⟩

/-- An effect where a projectile strikes tells of these only. -/
theorem applyImpact_tells (a : Arena) (p : Projectile) (effect : ImpactEffect) :
    Tells isWork a (a.applyImpact p effect).2 := by
  simp only [applyImpact]
  refine .trans ?_ (queue_tells _ _ _)
  refine .trans ?_ (dig_tells _ _ _)
  split
  · exact explode_tells _ _
  · exact .refl a

/-- An impact on the terrain is one touchdown, and every other is none. -/
theorem impact_touchdowns (a : Arena) (p : Projectile) (hit : Hit) :
    ∃ es, (a.impact p hit).2.events.toList = a.events.toList ++ es ∧
      touchdowns es = if hit = .terrain then 1 else 0 := by
  rw [impact_eq]
  -- What it strikes with does not matter: the impact has been told before that.
  generalize (p.strike hit a.surroundings).run a.keystream = r
  obtain ⟨es, hes, hwork⟩ := applyImpact_tells
    { a.tell [.impact p.pixel.x p.pixel.y hit] with keystream := r.2 } r.1.2 r.1.1
  have htold : (a.tell [.impact p.pixel.x p.pixel.y hit]).events.toList =
      a.events.toList ++ [.impact p.pixel.x p.pixel.y hit] := Array.toList_appendList ..
  refine ⟨.impact p.pixel.x p.pixel.y hit :: es, ?_, ?_⟩
  · rw [hes, htold, List.append_assoc]
    rfl
  · have hnone := touchdowns_eq_zero fun e he => isTouchdown_of_isWork (hwork e he)
    rw [touchdowns] at hnone ⊢
    rw [List.countP_cons, hnone]
    cases hit <;> rfl

end Arena

/-! ## The second half of a step -/

/-- A step of motion changes neither what a projectile is up to nor whether it goes on. -/
theorem Projectile.advance_frame {p q : Projectile} {terrain : Raster} {config : Config}
    {wind : Float} {status : FlightStatus} (h : p.advance terrain config wind = .ok (status, q)) :
    q.maneuver = p.maneuver ∧ q.active = p.active := by
  unfold Projectile.advance at h
  split at h
  · obtain ⟨_, rfl⟩ := Prod.mk.inj (Except.ok.inj h)
    exact ⟨rfl, rfl⟩
  split at h
  · obtain ⟨_, rfl⟩ := Prod.mk.inj (Except.ok.inj h)
    exact ⟨rfl, rfl⟩
  · obtain ⟨⟨outcome, x, vx⟩, _, h⟩ := Fault.bind_ok h
    -- Whatever the walls say, only position and velocity are set.
    cases outcome with
    | _ =>
      obtain ⟨_, rfl⟩ := Prod.mk.inj (Except.ok.inj h)
      exact ⟨rfl, rfl⟩

namespace Arena

variable {a a' : Arena} {p p' : Projectile}

/-- A projectile flies on over the arena: it may have got another course, and stays what it is. -/
structure FliesOn (a : Arena) (p : Projectile) (b : Arena) (q : Projectile) : Prop where
  told : Tells Event.isEnRoute a b
  arsenal : b.arsenal = a.arsenal
  stock : p.SameStock q
  maneuver : q.maneuver = p.maneuver

/-- A flight can be made in parts. -/
theorem FliesOn.trans {b c : Arena} {q r : Projectile} (h₁ : a.FliesOn p b q)
    (h₂ : b.FliesOn q c r) : a.FliesOn p c r :=
  ⟨h₁.told.trans h₂.told, h₂.arsenal.trans h₁.arsenal, h₁.stock.trans h₂.stock,
    h₂.maneuver.trans h₁.maneuver⟩

/-- A projectile that a shield throws back flies on. -/
theorem deflect?_fliesOn {id : ActorId} (h : a.deflect? p id = some (p', a')) :
    a.FliesOn p a' p' := by
  obtain ⟨hcourse, keystream, actors, depleted, rfl⟩ := deflect?_cases h
  -- The shield is named, and that it is used up if it is.
  have htold : ∀ e ∈ Event.shieldDeflected id :: (if depleted then [.shieldDepleted id] else []),
      e.isEnRoute = true := by
    refine List.forall_mem_cons.2 ⟨rfl, fun e he => ?_⟩
    split at he
    · exact List.mem_singleton.1 he ▸ rfl
    · exact absurd he List.not_mem_nil
  rw [hcourse]
  exact ⟨⟨_, Array.toList_appendList .., htold⟩, rfl, .of_eq rfl rfl rfl, rfl⟩

/-- What comes of a step of flight lets a projectile strike, or it flies on, is lost or is thrown
back. -/
theorem resolve_cases (a : Arena) (p : Projectile) (status : FlightStatus) :
    (∃ hit, a.resolve p status = a.impact p hit) ∨
      a.FliesOn p (a.resolve p status).2 (a.resolve p status).1 := by
  cases status with
  | flying => exact .inr ⟨.refl a, rfl, .refl p, rfl⟩
  | offscreen => exact .inr ⟨.refl a, rfl, .of_eq rfl rfl rfl, rfl⟩
  | hitTerrain => exact .inl ⟨.terrain, rfl⟩
  | hitWall => exact .inl ⟨.wall, rfl⟩
  | hitTank id =>
    simp only [resolve]
    -- A shot at a tank may be thrown back, and then flies on.
    split
    · rename_i hd
      exact .inr (deflect?_fliesOn hd)
    · exact .inl ⟨.tank id, rfl⟩

/-- The second half of a step flies a projectile on, and may let it strike something where it has
come to. -/
theorem flyOn_cases (active : p.active = true) (h : a.flyOn p = .ok (p', a')) :
    ∃ b q, a.FliesOn p b q ∧ (p' = q ∧ a' = b ∨
      q.active = true ∧ ∃ hit, p' = (b.impact q hit).1 ∧ a' = (b.impact q hit).2) := by
  unfold flyOn at h
  rw [if_neg fun hc => hc active] at h
  dsimp only at h
  have hstock := p.guide_stock a.actors
  obtain ⟨_, hactive, hmaneuver⟩ := p.guide_frame a.actors
  generalize p.guide a.actors = guided at h hstock hactive hmaneuver
  obtain ⟨locked, g⟩ := guided
  -- Guidance tells of a lock or of nothing, and changes the course only.
  have hguided : a.FliesOn p (a.tellLock g.owner locked) g := by
    cases locked with
    | none => exact ⟨.refl a, rfl, hstock, hmaneuver⟩
    | some kind =>
      exact ⟨⟨_, Array.toList_appendList .., List.forall_mem_singleton.2 rfl⟩, rfl, hstock,
        hmaneuver⟩
  generalize a.tellLock g.owner locked = told at h hguided
  cases hm : g.advance told.terrain told.config told.wind with
  | error f =>
    rw [hm] at h
    exact nomatch h
  | ok r =>
    obtain ⟨status, r⟩ := r
    rw [hm] at h
    have hr : told.resolve r status = (p', a') := Except.ok.inj h
    obtain ⟨hkept, hon⟩ := Projectile.advance_frame hm
    -- The motion keeps on what guidance has left, so that both are parts of one flight.
    have hflown : a.FliesOn p told r :=
      hguided.trans ⟨.refl told, rfl, Projectile.advance_stock hm, hkept⟩
    obtain ⟨hit, hhit⟩ | hfar := told.resolve_cases r status
    · rw [hhit] at hr
      exact ⟨told, r, hflown, .inr ⟨hon.trans (hactive.trans active), hit,
        (congrArg Prod.fst hr).symm, (congrArg Prod.snd hr).symm⟩⟩
    · rw [hr] at hfar
      exact ⟨a', p', hflown.trans hfar, .inl ⟨rfl, rfl⟩⟩

/-- What has ended before flies nowhere. -/
theorem flyOn_ended (ended : p.active = false) : a.flyOn p = .ok (p, a) := by
  unfold flyOn
  rw [if_pos (ne_true_of_eq_false ended)]

/-- A step carries out what the behavior of a projectile asks for, and flies it on. -/
theorem stepProjectile_of_fly {r : FlightEffect × Projectile} (active : p.active = true)
    (hf : p.fly a.surroundings = .ok r) :
    a.stepProjectile p = (a.applyFlight r.2 r.1).2.flyOn (a.applyFlight r.2 r.1).1 := by
  rw [stepProjectile_eq, if_neg fun hc => hc active, hf]
  rfl

/-- A projectile that is removed does not get any farther. -/
theorem stepProjectile_removed {r : FlightEffect × Projectile} (active : p.active = true)
    (hf : p.fly a.surroundings = .ok r) (hremove : r.1.remove = true)
    (h : a.stepProjectile p = .ok (p', a')) :
    p' = { r.2 with active := false } ∧ a' = (a.applyFlight r.2 r.1).2 := by
  have hfst : (a.applyFlight r.2 r.1).1 = { r.2 with active := false } := by
    rw [applyFlight_fst, if_pos hremove]
  rw [stepProjectile_of_fly active hf, hfst, flyOn_ended rfl] at h
  obtain ⟨rfl, rfl⟩ := Prod.mk.inj (Except.ok.inj h)
  exact ⟨rfl, rfl⟩

/-- A projectile that asks for nothing only flies on. -/
theorem stepProjectile_nothing {r : FlightEffect × Projectile} (active : p.active = true)
    (hf : p.fly a.surroundings = .ok r) (hr : r.1 = .nothing) : a.stepProjectile p = a.flyOn r.2 := by
  rw [stepProjectile_of_fly active hf, hr, applyFlight_nothing]

/-- Where a projectile strikes for good, that is its end. -/
theorem impact_ends {hit : Hit}
    (h : ((p.strike hit a.surroundings).run a.keystream).1.1.keepAlive = false) :
    (a.impact p hit).1.active = false := by
  rw [impact_eq, applyImpact_fst, if_neg (ne_true_of_eq_false h)]

end Arena

open Arena

/-! ## Rollers -/

namespace Projectile

variable {p q : Projectile} {arsenal : Arsenal} {n : Nat}

/-- A projectile with its own warhead is no bomb. -/
theorem not_isBomb (h : p.warhead = .weapon) : ¬p.isBomb = true := by
  unfold isBomb
  rw [h]
  exact Bool.false_ne_true

end Projectile

namespace Arena

variable {a a' : Arena} {p p' : Projectile} {n : Nat}

end Arena

/-! ## Particles -/

/-- A projectile is a particle, and has some steps left. -/
structure Projectile.Drifts (p : Projectile) (life : Nat) : Prop where
  warhead : p.warhead = .weapon
  particle : ∃ soil, p.maneuver = .particle life soil

namespace Projectile

variable {p : Projectile} {n : Nat}

/-- In flight a particle drifts. -/
theorem Drifts.fly (hp : p.Drifts n) (active : p.active = true) (s : Surroundings) :
    ∃ soil, p.fly s = .ok (Particle.fly p n soil s.terrain s.config) := by
  obtain ⟨soil, hm⟩ := hp.particle
  refine ⟨soil, ?_⟩
  unfold Projectile.fly
  rw [if_neg fun hc => hc.elim (fun ha => ha active) (not_isBomb hp.warhead), hm]

/-- Whatever a particle strikes, that is its end. -/
theorem Drifts.strike (hp : p.Drifts n) (hit : Hit) (s : Surroundings) (k : Keystream) :
    ((p.strike hit s).run k).1.1.keepAlive = false := by
  obtain ⟨soil, hm⟩ := hp.particle
  unfold Projectile.strike
  rw [hp.warhead, hm]
  show (Particle.strike soil hit).keepAlive = false
  unfold Particle.strike
  split
  · rfl
  · split <;> rfl

end Projectile

namespace Arena

variable {a a' : Arena} {p p' : Projectile} {n : Nat}

end Arena

/-! ## Leapfrogs -/

/-- A projectile with the warhead of a leapfrog has made some bounces. -/
structure Projectile.Hops (p : Projectile) (arsenal : Arsenal) (w : Weapon) (bounces : Nat) :
    Prop where
  warhead : p.warhead = .weapon
  weapon : arsenal.get? p.weapon = some w
  bounce : w.behavior = .bounce
  maneuver : p.maneuver = .bouncing bounces

/-- A leapfrog that strikes anything but the terrain goes off. -/
theorem Bounce.strike_elsewhere (p : Projectile) {hit : Hit} (w : Weapon) (h : hit ≠ .terrain) :
    (Bounce.strike p hit w).1.keepAlive = false := by
  unfold Bounce.strike
  rw [if_neg h]
  rfl

/-- At a bounce a leapfrog goes on while its weapon counts more than it has made. -/
theorem Bounce.strike_terrain {p : Projectile} {n : Nat} (hm : p.maneuver = .bouncing n)
    (w : Weapon) :
    ∃ effect q, Bounce.strike p .terrain w = (effect, q) ∧ q.warhead = p.warhead ∧
      q.weapon = p.weapon ∧ q.active = p.active ∧ q.maneuver = .bouncing (n + 1) ∧
      (effect.keepAlive = true ↔ ((n + 1 : Nat) : Int).bmod 0x100000000 < w.param) := by
  have hcount : Bounce.count p = n + 1 := by
    unfold Bounce.count
    rw [hm]
  unfold Bounce.strike
  rw [if_pos rfl, hcount]
  dsimp only
  -- The bounce that is made is counted first, and then compared.
  split
  · rename_i hlast
    exact ⟨_, _, rfl, rfl, rfl, rfl, rfl, iff_of_false Bool.false_ne_true (Int.not_lt.2 hlast)⟩
  · rename_i hmore
    exact ⟨_, _, rfl, rfl, rfl, rfl, rfl, iff_of_true rfl (Int.not_le.1 hmore)⟩

namespace Projectile

variable {p q : Projectile} {arsenal : Arsenal} {w : Weapon} {n : Nat}

/-- A leapfrog that flies on has made as many bounces. -/
theorem Hops.fliesOn {a b : Arena} (hp : p.Hops arsenal w n) (h : a.FliesOn p b q) :
    q.Hops arsenal w n :=
  ⟨h.stock.warhead.trans hp.warhead, h.stock.weapon ▸ hp.weapon, hp.bounce,
    h.maneuver.trans hp.maneuver⟩

/-- In flight a leapfrog does nothing. -/
theorem Hops.fly {s : Surroundings} (hp : p.Hops s.arsenal w n) : p.fly s = .ok (.nothing, p) := by
  unfold Projectile.fly
  split
  · rfl
  · rw [hp.maneuver]
    dsimp only
    rw [hp.weapon]
    dsimp only
    unfold flyAs
    rw [hp.bounce]

/-- Where a leapfrog strikes its weapon decides. -/
theorem Hops.strike {s : Surroundings} (hp : p.Hops s.arsenal w n) (hit : Hit) (k : Keystream) :
    ((p.strike hit s).run k).1 = Bounce.strike p hit w := by
  unfold Projectile.strike
  rw [hp.warhead, hp.maneuver]
  dsimp only
  rw [hp.weapon]
  dsimp only
  unfold strikeAs
  rw [hp.bounce]
  rfl

end Projectile

namespace Arena

variable {a a' : Arena} {p p' : Projectile} {w : Weapon} {n : Nat}

/-- A leapfrog that strikes the terrain has made a bounce more, and goes on while its weapon counts
more than it has made; wherever else it strikes, it ends. -/
theorem impact_hops (hp : p.Hops a.arsenal w n) (active : p.active = true) (hit : Hit) :
    if hit = .terrain then
      (a.impact p hit).1.Hops a.arsenal w (n + 1) ∧
        ((a.impact p hit).1.active = true ↔ ((n + 1 : Nat) : Int).bmod 0x100000000 < w.param)
    else (a.impact p hit).1.active = false := by
  have hstrike := hp.strike (s := a.surroundings) hit a.keystream
  split
  · rename_i hterrain
    rw [hterrain] at hstrike ⊢
    obtain ⟨effect, q, hq, hwarhead, hweapon, hactive, hmaneuver, hlast⟩ :=
      Bounce.strike_terrain hp.maneuver w
    -- Whether it goes on is all that the effect decides about the projectile.
    rw [impact_eq, applyImpact_fst, hstrike, hq, ← hlast]
    have hops : q.Hops a.arsenal w (n + 1) :=
      ⟨hwarhead.trans hp.warhead, hweapon ▸ hp.weapon, hp.bounce, hmaneuver⟩
    dsimp only
    split
    · rename_i hkeep
      exact ⟨hops, iff_of_true (hactive.trans active) hkeep⟩
    · rename_i hends
      exact ⟨⟨hops.warhead, hops.weapon, hops.bounce, hops.maneuver⟩,
        iff_of_false Bool.false_ne_true hends⟩
  · rename_i helsewhere
    refine impact_ends ?_
    rw [hstrike]
    exact Bounce.strike_elsewhere p w helsewhere

/-- A step of a leapfrog tells of one touchdown at most.  With one it has made a bounce more, and it
goes on while its weapon counts more than it has made; without one it ends or flies on. -/
theorem stepProjectile_hops (active : p.active = true) (hp : p.Hops a.arsenal w n)
    (h : a.stepProjectile p = .ok (p', a')) :
    ∃ told, a'.events.toList = a.events.toList ++ told ∧
      (Event.touchdowns told = 0 ∧ (p'.active = false ∨ p'.Hops a.arsenal w n) ∨
        Event.touchdowns told = 1 ∧ p'.Hops a.arsenal w (n + 1) ∧
          (p'.active = true ↔ ((n + 1 : Nat) : Int).bmod 0x100000000 < w.param)) := by
  rw [stepProjectile_nothing active (hp.fly (s := a.surroundings)) rfl] at h
  obtain ⟨b, q, hflown, hresult⟩ := flyOn_cases active h
  have hq := hp.fliesOn hflown
  obtain ⟨es, hes, henroute⟩ := hflown.told
  have hnone := Event.touchdowns_eq_zero fun e he => Event.isTouchdown_of_isEnRoute (henroute e he)
  -- In flight nothing is a touchdown, so that only the impact can be one.
  obtain ⟨rfl, rfl⟩ | ⟨hon, hit, rfl, rfl⟩ := hresult
  · exact ⟨es, hes, .inl ⟨hnone, .inr hq⟩⟩
  · obtain ⟨fs, hfs, hcount⟩ := b.impact_touchdowns q hit
    rw [← hflown.arsenal] at hq
    have hends := impact_hops hq hon hit
    refine ⟨es ++ fs, by rw [hfs, hes, List.append_assoc], ?_⟩
    rw [Event.touchdowns_append, hnone, hcount, Nat.zero_add]
    by_cases hterrain : hit = .terrain
    · rw [if_pos hterrain] at hends ⊢
      exact .inr ⟨rfl, hflown.arsenal ▸ hends⟩
    · rw [if_neg hterrain] at hends ⊢
      exact .inl ⟨rfl, .inl hends⟩

end Arena

end Artillery
