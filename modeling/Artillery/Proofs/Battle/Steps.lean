import Artillery.Battle
import Artillery.Proofs.Arena.Moves

/-!
# Steps of the battle as runs of moves

A step redraws the tanks, lets the projectiles move the arena, and takes over the projectiles that
have been asked for.  What happens to the arena in between is a run of moves.

## Key results

- `stepEach_moves`: a pass over the projectiles is a run of moves of the arena
- `step_moves`: so is a step, after the tanks have been drawn
- `withProjectile_moves`: and so is what a single projectile is made to do
- `stepFalling_cases` / `tick_cases`: what a frame consists of
- `stepWhileFlying_keeps` / `tick_keeps`: what each part of a frame keeps
-/

namespace Artillery

namespace Battle

/-- A pass over some projectiles is a run of moves; it leaves the clock alone. -/
theorem stepEach_moves {hs : List Nat} {b b' : Battle} (h : stepEach hs b = .ok b') :
    (∃ es, b.arena.Moves es b'.arena) ∧ b'.clock = b.clock := by
  induction hs generalizing b with
  | nil =>
    obtain rfl := Except.ok.inj h
    exact ⟨⟨_, .nil _⟩, rfl⟩
  | cons handle hs ih =>
    rw [stepEach] at h
    -- Who has left the row in the meantime is passed over.
    split at h
    · exact ih h
    · obtain ⟨⟨p, arena⟩, hp, h⟩ := Fault.bind_ok h
      obtain ⟨es, hes⟩ := Arena.stepProjectile_moves hp
      obtain ⟨⟨fs, hfs⟩, hc⟩ := ih h
      exact ⟨⟨_, hes.trans hfs⟩, hc⟩

/-- A step is a run of moves from the redrawn arena; then the asked-for projectiles are taken over
into the row. -/
theorem step_moves {b b' : Battle} (h : b.step = .ok b') :
    ∃ es arena, b.redraw.arena.Moves es arena ∧ b'.arena = { arena with spawns := #[] } ∧
      b'.clock = b.clock.tickStep := by
  obtain ⟨b₁, hb, h⟩ := Fault.bind_ok h
  obtain rfl := Except.ok.inj h
  obtain ⟨⟨es, hes⟩, hc⟩ := stepEach_moves hb
  exact ⟨es, b₁.arena, hes, rfl, congrArg Clock.tickStep hc⟩

/-! ## Single projectiles -/

section Single

variable {b b' : Battle} {handle : Nat}

/-- The arena goes on by moves, and whoever has been asked for has joined the row. -/
def MovesOn (b b' : Battle) : Prop :=
  ∃ es arena, b.arena.Moves es arena ∧ b'.arena = { arena with spawns := b'.arena.spawns }

/-- Letting a projectile of the row move the arena is a run of moves. -/
theorem withProjectile_moves {α : Type} {result : Option α}
    {act : Projectile → Arena → Except Fault (α × Projectile × Arena)}
    (hact : ∀ p v q arena, act p b.arena = .ok (v, q, arena) → ∃ es, b.arena.Moves es arena)
    (h : b.withProjectile handle act = .ok (result, b')) : MovesOn b b' := by
  rw [withProjectile] at h
  split at h
  · obtain ⟨rfl, rfl⟩ := Prod.mk.inj (Except.ok.inj h)
    exact ⟨_, _, .nil _, rfl⟩
  · obtain ⟨⟨v, q, arena⟩, ha, h⟩ := Fault.bind_ok h
    obtain ⟨rfl, rfl⟩ := Prod.mk.inj (Except.ok.inj h)
    obtain ⟨es, hmoves⟩ := hact _ _ _ _ ha
    exact ⟨es, arena, hmoves, rfl⟩

theorem strike_moves {hit : Hit} {effect : Option ImpactEffect}
    (h : b.strike handle hit = .ok (effect, b')) : MovesOn b b' := by
  apply withProjectile_moves _ h
  intro p v q arena ha
  obtain ⟨rfl, hq⟩ := Prod.mk.inj (Except.ok.inj ha)
  obtain ⟨rfl, rfl⟩ := Prod.mk.inj hq
  exact ⟨_, (Arena.Move.draw _ _).moves⟩

theorem applyImpact_moves {effect : ImpactEffect} {result : Option Unit}
    (h : b.applyImpact handle effect = .ok (result, b')) : MovesOn b b' := by
  apply withProjectile_moves _ h
  intro p v q arena ha
  obtain ⟨_, hq⟩ := Prod.mk.inj (Except.ok.inj ha)
  exact (Prod.mk.inj hq).2 ▸ Arena.applyImpact_moves b.arena p effect

theorem fly_moves {effect : Option FlightEffect} (h : b.fly handle = .ok (effect, b')) :
    MovesOn b b' := by
  apply withProjectile_moves _ h
  intro p v q arena ha
  obtain ⟨e, _, ha⟩ := Fault.bind_ok ha
  obtain ⟨_, hq⟩ := Prod.mk.inj (Except.ok.inj ha)
  obtain ⟨_, rfl⟩ := Prod.mk.inj hq
  exact ⟨_, .nil _⟩

theorem applyFlight_moves {effect : FlightEffect} {result : Option Unit}
    (h : b.applyFlight handle effect = .ok (result, b')) : MovesOn b b' := by
  apply withProjectile_moves _ h
  intro p v q arena ha
  obtain ⟨_, hq⟩ := Prod.mk.inj (Except.ok.inj ha)
  exact (Prod.mk.inj hq).2 ▸ Arena.applyFlight_moves b.arena p effect

/-- A flight on its own leaves the arena as it is. -/
theorem advance_arena {status : Option FlightStatus} (h : b.advance handle = .ok (status, b')) :
    b'.arena = b.arena := by
  rw [advance] at h
  split at h
  · obtain ⟨_, rfl⟩ := Prod.mk.inj (Except.ok.inj h)
    rfl
  · obtain ⟨r, _, h⟩ := Fault.bind_ok h
    obtain ⟨_, rfl⟩ := Prod.mk.inj (Except.ok.inj h)
    rfl

end Single

/-! ## Frames -/

/-- A frame of falling does nothing when nobody falls or begins to fall.  Otherwise it lets everyone
fall on, tells of the landings, and draws the tanks anew. -/
theorem stepFalling_cases {b b' : Battle} {falling : Bool}
    (h : b.stepFalling = .ok (falling, b')) :
    (Falling.anyFalling (Falling.check b.arena.actors b.arena.terrain) = false ∧ b' = b) ∨
      Falling.anyFalling (Falling.check b.arena.actors b.arena.terrain) = true ∧
        ∃ actors terrain events,
          Falling.step (Falling.check b.arena.actors b.arena.terrain) b.arena.terrain =
            .ok (actors, terrain, events) ∧
          b' = { b with
            arena := { b.arena with
              actors := actors
              terrain := terrain.stampActors actors
              events := b.arena.events ++ events } } := by
  unfold stepFalling at h
  dsimp only at h
  -- The tanks are drawn again only if somebody falls.
  split at h
  · rename_i hfalls
    right
    obtain ⟨⟨actors, terrain, events⟩, hstep, h⟩ := Fault.bind_ok h
    obtain ⟨_, rfl⟩ := Prod.mk.inj (Except.ok.inj h)
    exact ⟨hfalls, actors, terrain, events, hstep, rfl⟩
  · rename_i hnobody
    left
    obtain ⟨_, rfl⟩ := Prod.mk.inj (Except.ok.inj h)
    exact ⟨Bool.eq_false_iff.2 hnobody, rfl⟩

/-- A frame is steps of flight, a frame of the explosions, and one of falling if nothing flies. -/
theorem tick_cases {b b' : Battle} {es : List Event} (h : b.tick = .ok (es, b')) :
    ∃ flown fallen, stepWhileFlying b.arena.config.stepsPerFrame b = .ok flown ∧
      ((flown.arena.config.fallingActors ∧ ¬flown.roster.anyActive) ∧
          (∃ falling, flown.stepExplosions.stepFalling = .ok (falling, fallen)) ∨
        ¬(flown.arena.config.fallingActors ∧ ¬flown.roster.anyActive) ∧
          fallen = flown.stepExplosions) ∧
      es = fallen.arena.events.toList ∧
      b' = { fallen with
        arena := { fallen.arena with events := #[] }
        clock := fallen.clock.tickFrame } := by
  obtain ⟨flown, hf, h⟩ := Fault.bind_ok h
  dsimp only at h
  -- Nobody falls while a projectile flies, or where the rules are without falls.
  split at h
  · rename_i hc
    obtain ⟨fallen, hd, h⟩ := Fault.bind_ok h
    obtain ⟨rfl, rfl⟩ := Prod.mk.inj (Except.ok.inj h)
    refine ⟨flown, fallen, hf, .inl ⟨hc, ?_⟩, rfl, rfl⟩
    cases hs : flown.stepExplosions.stepFalling with
    | error f =>
      rw [hs] at hd
      exact nomatch hd
    | ok r =>
      rw [hs] at hd
      exact ⟨r.1, by rw [← Except.ok.inj hd]⟩
  · rename_i hc
    obtain ⟨rfl, rfl⟩ := Prod.mk.inj (Except.ok.inj h)
    exact ⟨flown, flown.stepExplosions, hf, .inr ⟨hc, rfl⟩, rfl, rfl⟩

/-! ## What frames keep -/

section Keeps

variable {P : Battle → Prop} (hstep : ∀ {c c' : Battle}, P c → c.step = .ok c' → P c')
include hstep

/-- What a step of flight keeps is kept as long as anything flies. -/
theorem stepWhileFlying_keeps {n : Nat} {b b' : Battle} (hb : P b)
    (h : stepWhileFlying n b = .ok b') : P b' := by
  induction n generalizing b with
  | zero => exact Except.ok.inj h ▸ hb
  | succ n ih =>
    rw [stepWhileFlying] at h
    split at h
    · obtain ⟨b₁, hs, h⟩ := Fault.bind_ok h
      exact ih (hstep hb hs) h
    · exact Except.ok.inj h ▸ hb

/-- What each part of a frame keeps holds at its end, before the events are taken out. -/
theorem tick_keeps (hboom : ∀ {c : Battle}, P c → P c.stepExplosions)
    (hfall : ∀ {c c' : Battle} {falling : Bool}, P c → c.stepFalling = .ok (falling, c') → P c')
    {b b' : Battle} {es : List Event} (hb : P b) (h : b.tick = .ok (es, b')) :
    ∃ c, P c ∧ es = c.arena.events.toList ∧
      b' = { c with arena := { c.arena with events := #[] }, clock := c.clock.tickFrame } := by
  obtain ⟨flown, fallen, hf, hd, hes, hb'⟩ := tick_cases h
  have hflown := hboom (stepWhileFlying_keeps hstep hb hf)
  refine ⟨fallen, ?_, hes, hb'⟩
  obtain ⟨_, falling, hd⟩ | ⟨_, rfl⟩ := hd
  · exact hfall hflown hd
  · exact hflown

end Keeps

end Battle

end Artillery
