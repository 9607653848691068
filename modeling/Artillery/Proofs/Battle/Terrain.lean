import Artillery.Proofs.Arena.Terrain
import Artillery.Proofs.Battle.Steps

/-!
# Changes of the terrain are announced

Whoever follows the events knows which columns may look different: steps and frames change earth only
where a crater, an earthwork or a landing that they tell of reaches.

## Key results

- `Announces.trans`: announced changes one after another are announced
- `step_announces`, `stepFalling_announces`, `tick_announces`: what a step, a frame of falling and a
  frame change is announced
- `terrain_announced`: every change of the terrain is announced
-/

namespace Artillery

/-! ## Landings -/

/-- Where a landing reaches depends on the places of the actors only. -/
theorem Event.Covers.congr {as as' : List Actor} {x : Int} {e : Event} (h : e.Covers as' x)
    (hp : Falling.places as' = Falling.places as) : e.Covers as x := by
  cases e with
  | actorLanded id distance damage parachute =>
    obtain ⟨a', ha', hid, hx⟩ := h
    obtain ⟨i, hi⟩ := List.getElem?_of_mem ha'
    obtain ⟨a, ha, hid', hx'⟩ := Falling.exists_of_places hp.symm hi
    exact ⟨a, List.mem_of_getElem? ha, hid'.trans hid, hx'.symm ▸ hx⟩
  | _ => exact h

/-- A frame of falling changes the earth of a column only under a landing that it tells of. -/
theorem Falling.step_announced {as as' : List Actor} {terrain terrain' : Raster} {es : List Event}
    (h : Falling.step as terrain = .ok (as', terrain', es)) (x : Int) :
    terrain.SameEarth terrain' x ∨ ∃ e ∈ es, e.Covers as x := by
  obtain hsame | ⟨j, c, hc, hcovers, ⟨distance, damage, parachute, hm⟩, _⟩ := step_earth h x
  · exact .inl hsame
  · exact .inr ⟨_, hm, c, List.mem_of_getElem? hc, rfl, hcovers⟩

/-- Beginning to fall moves nobody. -/
theorem Falling.check_places (as : List Actor) (terrain : Raster) :
    places (check as terrain) = places as := by
  unfold places check
  rw [List.map_map]
  apply List.map_congr_left
  intro a _
  show ((a.loseGround terrain).id, (a.loseGround terrain).x) = (a.id, a.x)
  unfold Actor.loseGround
  split <;> rfl

namespace Battle

/-! ## Announced changes -/

/-- The battle goes on with events that cover every column whose earth has changed. -/
structure Announces (b : Battle) (told : List Event) (b' : Battle) : Prop where
  events : b'.arena.events.toList = b.arena.events.toList ++ told
  places : Falling.places b'.arena.actors = Falling.places b.arena.actors
  earth : ∀ x, b.arena.terrain.SameEarth b'.arena.terrain x ∨
    ∃ e ∈ told, e.Covers b.arena.actors x

namespace Announces

variable {b b₁ b' : Battle} {told after : List Event}

theorem trans (h₁ : Announces b told b₁) (h₂ : Announces b₁ after b') :
    Announces b (told ++ after) b' := by
  refine ⟨?_, h₂.places.trans h₁.places, fun x => ?_⟩
  · rw [h₂.events, h₁.events, List.append_assoc]
  · obtain hfirst | ⟨e, he, hc⟩ := h₁.earth x
    · obtain hrest | ⟨e, he, hc⟩ := h₂.earth x
      · exact .inl (hfirst.trans hrest)
      · exact .inr ⟨e, List.mem_append_right _ he, hc.congr h₁.places⟩
    · exact .inr ⟨e, List.mem_append_left _ he, hc⟩

/-- Where no earth has changed there is nothing to tell. -/
theorem quiet (he : b'.arena.events = b.arena.events)
    (hp : Falling.places b'.arena.actors = Falling.places b.arena.actors)
    (ht : ∀ x, b.arena.terrain.SameEarth b'.arena.terrain x) : Announces b [] b' :=
  ⟨by rw [he, List.append_nil], hp, fun x => .inl (ht x)⟩

end Announces

variable {b b' : Battle}

/-- Drawing the tanks again is not to be announced. -/
theorem redraw_announces (b : Battle) : Announces b [] b.redraw :=
  .quiet rfl rfl fun x => b.arena.terrain.stampActors_sameEarth x b.arena.actors

/-- A step announces the columns that it changes. -/
theorem step_announces (h : b.step = .ok b') : ∃ told, Announces b told b' := by
  obtain ⟨es, arena, hmoves, ha, _⟩ := step_moves h
  have hrow : Announces b.redraw es b' := by
    constructor
    · rw [ha]
      exact hmoves.events
    · rw [ha]
      exact hmoves.places
    · intro x
      rw [ha]
      exact hmoves.earth _ x
  exact ⟨es, b.redraw_announces.trans hrow⟩

/-- A frame of falling announces the columns that it changes. -/
theorem stepFalling_announces {falling : Bool} (h : b.stepFalling = .ok (falling, b')) :
    ∃ told, Announces b told b' := by
  obtain ⟨_, rfl⟩ | ⟨_, actors, terrain, events, hstep, rfl⟩ := stepFalling_cases h
  · exact ⟨[], .quiet rfl rfl fun x => .refl _ x⟩
  · have hcheck := Falling.check_places b.arena.actors b.arena.terrain
    refine ⟨events, Array.toList_appendList .., (Falling.step_places hstep).trans hcheck,
      fun x => ?_⟩
    -- The tanks are drawn anew after the landings, around the earth.
    obtain hsame | ⟨e, he, hc⟩ := Falling.step_announced hstep x
    · exact .inl (hsame.trans (terrain.stampActors_sameEarth x actors))
    · exact .inr ⟨e, he, hc.congr hcheck⟩

/-- A tick hands over what announces the columns that it has changed. -/
theorem tick_announces {es : List Event} (h : b.tick = .ok (es, b')) :
    ∃ c told, Announces b told c ∧ es = c.arena.events.toList ∧
      b'.arena.terrain = c.arena.terrain := by
  have hkeeps : ∃ c, (∃ told, Announces b told c) ∧ es = c.arena.events.toList ∧
      b' = { c with arena := { c.arena with events := #[] }, clock := c.clock.tickFrame } := by
    apply tick_keeps _ _ _ ⟨[], .quiet rfl rfl fun x => .refl _ x⟩ h
    · rintro c c' ⟨told, hc⟩ hs
      obtain ⟨after, hc'⟩ := step_announces hs
      exact ⟨_, hc.trans hc'⟩
    · rintro c ⟨told, hc⟩
      -- Explosions that are shown leave the raster alone.
      have hboom : Announces c [] c.stepExplosions := .quiet rfl rfl fun x => .refl _ x
      exact ⟨_, hc.trans hboom⟩
    · rintro c c' falling ⟨told, hc⟩ hs
      obtain ⟨after, hc'⟩ := stepFalling_announces hs
      exact ⟨_, hc.trans hc'⟩
  obtain ⟨c, ⟨told, hc⟩, hes, rfl⟩ := hkeeps
  exact ⟨c, told, hc, hes, rfl⟩

/-- Every change of the terrain is announced.  A column whose earth or whose ground row a step or a
frame has changed is covered by one of the events that it has told; drawing and erasing tanks never
changes either. -/
theorem terrain_announced (b : Battle) :
    (∀ b', b.step = .ok b' →
      ∃ told, b'.arena.events.toList = b.arena.events.toList ++ told ∧
        ∀ x, b.arena.terrain.SameEarth b'.arena.terrain x ∨
          ∃ e ∈ told, e.Covers b.arena.actors x) ∧
    (∀ es b', b.tick = .ok (es, b') →
      ∃ told, es = b.arena.events.toList ++ told ∧
        ∀ x, b.arena.terrain.SameEarth b'.arena.terrain x ∨
          ∃ e ∈ told, e.Covers b.arena.actors x) ∧
    ∀ (r : Raster) (x : Int), r.SameEarth r.eraseActors x ∧
      (∀ id cx ground, r.SameEarth (r.stampActor id cx ground) x) ∧
      ∀ actors, r.SameEarth (r.stampActors actors) x := by
  refine ⟨fun b' h => ?_, fun es b' h => ?_, fun r x =>
    ⟨r.eraseActors_sameEarth x, r.stampActor_sameEarth x, r.stampActors_sameEarth x⟩⟩
  · obtain ⟨told, hevents, _, hearth⟩ := step_announces h
    exact ⟨told, hevents, hearth⟩
  · obtain ⟨c, told, ⟨hevents, _, hearth⟩, rfl, hterrain⟩ := tick_announces h
    rw [hterrain]
    exact ⟨told, hevents, hearth⟩

/-- A shell in a hill. -/
def shelled : Battle :=
  { assemble {} ((Raster.blank 16 24).fillDisc 8 20 3) (.ofSeed 0) with
    roster := {
      entries := #[(0, { Projectile.ofSpec {
        position := ⟨8, 19⟩, velocity := ⟨0, 0⟩, weapon := 0, owner := 0, warhead := .weapon
        maneuver := .none } with age := 3 })]
      next := 1 } }

/-- The hill is blown away, and the step tells of a crater over its middle column. -/
theorem terrain_announced_shelled :
    ∃ b' told, shelled.step = .ok b' ∧ b'.arena.events.toList = told ∧
      shelled.arena.terrain.heightAt 8 = 17 ∧ b'.arena.terrain.heightAt 8 = 24 ∧
      ∃ e ∈ told, e.Covers [] 8 := by
  have run : (shelled.step.toOption.any fun b' => decide (b'.arena.terrain.heightAt 8 = 24)) =
      true := by decide +kernel
  obtain ⟨b', hb, run⟩ := Fault.exists_of_any run
  have hbefore : shelled.arena.terrain.heightAt 8 = 17 := by decide +kernel
  have hafter := of_decide_eq_true run
  obtain ⟨told, htold, hearth⟩ := (terrain_announced shelled).1 b' hb
  refine ⟨b', told, hb, htold, hbefore, hafter, ?_⟩
  -- The ground of the column has moved, so that it has been announced.
  obtain hsame | hcovered := hearth 8
  · have := hsame.ground
    omega
  · exact hcovered

end Battle

end Artillery
