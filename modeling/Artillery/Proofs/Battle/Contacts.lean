import Artillery.Proofs.Arena.Terrain
import Artillery.Proofs.Battle.Steps

/-!
# What projectiles take for tanks

A step draws the living actors before anything moves, and nothing that moves touches a drawn tank.
Whatever a projectile strikes as a tank is therefore a living actor at the place where it stands.

## Key results

- `contacts_sound`: an impact on a tank names a living actor whose silhouette it has hit
-/

namespace Artillery.Battle

/-- Contacts with tanks are sound, whatever the raster shows at the start of the step.  An impact on a
tank names a living actor of the table, and lies within the silhouette of that actor at its place;
and from the drawing on, no blast, earthwork or falling earth makes, moves or removes a pixel of a
tank. -/
theorem contacts_sound (b : Battle) :
    (∀ b', b.step = .ok b' →
      ∃ told, b'.arena.events.toList = b.arena.events.toList ++ told ∧
        (∀ x y id, .impact x y (.tank id) ∈ told →
          ∃ a ∈ b.arena.actors, a.id = id ∧ id < 10 ∧ a.alive = true ∧ a.Occupies x y) ∧
        ∀ x y, Cell.tank (b'.arena.terrain.cell x y) =
          Cell.tank ((b.arena.terrain.stampActors b.arena.actors).cell x y)) ∧
    ∀ (a : Arena) (x y : Nat),
      (∀ blast, Cell.tank ((a.explode blast).2.terrain.cell x y) =
        Cell.tank (a.terrain.cell x y)) ∧
      (∀ center work, Cell.tank ((a.dig center work).terrain.cell x y) =
        Cell.tank (a.terrain.cell x y)) ∧
      ∀ cx radius, Cell.tank ((a.terrain.compact cx radius).cell x y) =
        Cell.tank (a.terrain.cell x y) := by
  refine ⟨fun b' h => ?_, fun a x y => ⟨fun blast => a.explode_tank blast x y,
    fun center work => a.dig_tank center work x y, a.terrain.compact_tank x y⟩⟩
  obtain ⟨told, arena, hmoves, ha, _⟩ := step_moves h
  refine ⟨told, ?_, fun x y id hm => ?_, fun x y => ?_⟩
  · rw [ha]
    exact hmoves.events
  · -- What was struck had been drawn at the start of the step, and so belongs to an actor.
    obtain ⟨n, m, v, rfl, rfl, hv, rfl⟩ := hmoves.struck hm
    obtain ⟨a, hin, alive, hid, hbears, hat⟩ :=
      Raster.stampActors_shows b.arena.terrain b.arena.actors n m v hv
    rw [hbears]
    exact ⟨a, hin, rfl, hid, alive, hat⟩
  · rw [ha]
    exact hmoves.tank x y

/-- A tank in the way of a shell, on a raster with a pixel of a tank that nobody has put there. -/
def ambushed : Battle :=
  let roster : Roster := {
    entries := #[(0, { Projectile.ofSpec {
      position := ⟨8, 16⟩, velocity := ⟨0, 0⟩, weapon := 0, owner := 1, warhead := .weapon
      maneuver := .none } with age := 3 })]
    next := 1 }
  { (assemble {} ((Raster.blank 16 24).write 3 16 17) (.ofSeed 0)).setActors [.fresh 0 8 20] with
    roster := roster }

/-- The shell strikes the tank where it stands; the stray pixel is gone. -/
theorem contacts_sound_ambushed :
    ∃ b' told, ambushed.step = .ok b' ∧ b'.arena.events.toList = told ∧
      .impact 8 16 (.tank 0) ∈ told ∧
      (∃ a ∈ ambushed.arena.actors, a.id = 0 ∧ a.alive = true ∧ a.Occupies 8 16) ∧
      Cell.tank (ambushed.arena.terrain.cell 3 16) = some 17 ∧
      Cell.tank (b'.arena.terrain.cell 3 16) = none := by
  have run : (ambushed.step.toOption.any fun b' => b'.arena.events.toList.any fun e =>
      match e with
      | .impact x y hit => decide (x = 8 ∧ y = 16 ∧ hit = .tank 0)
      | _ => false) = true := by decide +kernel
  obtain ⟨b', hb, run⟩ := Fault.exists_of_any run
  obtain ⟨told, hevents, hcontacts, htanks⟩ := (contacts_sound ambushed).1 b' hb
  have htold : b'.arena.events.toList = told := hevents
  -- The impact that is computed is among the events that the theorem speaks of.
  have hstruck : .impact 8 16 (.tank 0) ∈ told := by
    obtain ⟨e, he, hmatch⟩ := List.any_eq_true.1 run
    split at hmatch
    · obtain ⟨rfl, rfl, rfl⟩ := of_decide_eq_true hmatch
      exact htold ▸ he
    · cases hmatch
  obtain ⟨a, hin, hid, _, alive, hat⟩ := hcontacts 8 16 0 hstruck
  refine ⟨b', told, hb, htold, hstruck, ⟨a, hin, hid, alive, hat⟩, by decide +kernel, ?_⟩
  rw [htanks]
  decide +kernel

end Artillery.Battle
