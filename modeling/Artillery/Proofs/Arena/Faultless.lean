import Artillery.Proofs.Arena.Moves
import Artillery.Proofs.Room

/-!
# Steps without faults

In an arena with room a projectile can always be taken through a step: the walls have a place to put
it in, a roller finds its column, and no move changes the size of the arena.

## Key results

- `Moves.size`: the arena keeps its size
- `Projectile.fly_returns`, `Projectile.advance_returns`: behaviors and flights come to an end
- `stepProjectile_returns`: so does a whole step
-/

namespace Artillery

/-- A concrete wall finds a place between itself and the one opposite; the other walls need none. -/
theorem WallPolicy.apply_returns (policy : WallPolicy) {width : Float} (h : 0 ≤ width - 1)
    (x vx : Float) : ∃ r, policy.apply width x vx = .ok r := by
  unfold apply
  split
  · exact ⟨_, rfl⟩
  · split
    · exact ⟨_, rfl⟩
    · split
      · obtain ⟨x', hx'⟩ := Quantity.clamp_returns h x
        rw [hx']
        exact ⟨_, rfl⟩
      · exact ⟨_, rfl⟩
      · exact ⟨_, rfl⟩

namespace Roller

variable {terrain : Raster} (columns : 0 ≤ (terrain.width : Int) - 1)
  (walls : 0 ≤ Float.ofNat terrain.width - 1)
include columns

/-- A roller that comes to rest where it is does not fail. -/
theorem settle_returns (p : Projectile) (oldHeight : Int) (x vx : Float) (frames : Nat)
    (weapon : Weapon) : ∃ r, settle p terrain oldHeight x vx frames weapon = .ok r :=
  Fault.exists_bind (clampInt_returns columns _) fun _ _ => ⟨_, rfl⟩

include walls

/-- A frame of rolling returns when the walls and the columns are in order. -/
theorem roll_returns (p : Projectile) (direction speed : Float) (frames : Nat) (weapon : Weapon)
    (config : Config) : ∃ r, roll p direction speed frames weapon terrain config = .ok r := by
  unfold roll
  dsimp only
  -- With too many frames it stops; otherwise only the wall and the columns could fail.
  split
  · exact ⟨_, rfl⟩
  · refine Fault.exists_bind (config.wall.apply_returns walls _ _) fun r _ => ?_
    obtain ⟨outcome, x, vx⟩ := r
    cases outcome with
    | hit | offscreen => exact ⟨_, rfl⟩
    | inside | beyond => exact settle_returns columns p _ x vx _ weapon

/-- A frame of a roller returns, in the air and on the ground. -/
theorem fly_returns (p : Projectile) (weapon : Weapon) (config : Config) :
    ∃ r, fly p weapon terrain config = .ok r := by
  unfold fly
  split
  · split
    · exact ⟨_, rfl⟩
    · exact roll_returns columns walls p _ _ _ weapon config
  · exact ⟨_, rfl⟩

end Roller

namespace Projectile

/-- Whatever a projectile does in flight, it can be done. -/
theorem fly_returns (p : Projectile) {s : Surroundings} (room : s.terrain.Roomy) :
    ∃ r, p.fly s = .ok r := by
  unfold fly
  split
  · exact ⟨_, rfl⟩
  · split
    · exact ⟨_, rfl⟩
    · split
      · rename_i weapon _
        unfold flyAs
        -- Only a roller does something that can fail.
        cases weapon.behavior with
        | roller => exact Roller.fly_returns room.columns room.walls p weapon s.config
        | _ => exact ⟨_, rfl⟩
      · exact ⟨_, rfl⟩

/-- A projectile can always fly on. -/
theorem advance_returns (p : Projectile) {terrain : Raster} (room : terrain.Roomy)
    (config : Config) (wind : Float) : ∃ r, p.advance terrain config wind = .ok r := by
  unfold advance
  split
  · exact ⟨_, rfl⟩
  · split
    · exact ⟨_, rfl⟩
    · exact Fault.exists_bind (config.wall.apply_returns room.walls _ _) fun _ _ => ⟨_, rfl⟩

end Projectile

theorem Earthwork.perform_size (work : Earthwork) (terrain : Raster) (center : Pixel) :
    (work.perform terrain center).width = terrain.width ∧
      (work.perform terrain center).height = terrain.height := by
  cases work with
  | disrupt radius => exact Raster.compact_size terrain center.x radius
  | _ => exact ⟨rfl, rfl⟩

namespace Arena

variable {a a' : Arena}

/-! ## The size of the arena -/

theorem blow_size (a : Arena) (b : Blast) :
    (a.blow b).terrain.width = a.terrain.width ∧ (a.blow b).terrain.height = a.terrain.height := by
  unfold blow tell
  dsimp only
  split
  · exact Raster.compact_size _ b.center.x b.radius
  · exact ⟨rfl, rfl⟩

/-- No move changes the size of the arena. -/
theorem Move.size {es : List Event} (h : Move a es a') :
    a'.terrain.width = a.terrain.width ∧ a'.terrain.height = a.terrain.height := by
  cases h with
  | blow b => exact blow_size a b
  | dig center work hw =>
    rw [Arena.dig, if_neg hw]
    exact Earthwork.perform_size work a.terrain center
  | queue weapon spawn =>
    rw [queue_terrain]
    exact ⟨rfl, rfl⟩
  | _ => exact ⟨rfl, rfl⟩

/-- The moves of an arena keep the size of its raster. -/
theorem Moves.size {es : List Event} (h : Moves a es a') :
    a'.terrain.width = a.terrain.width ∧ a'.terrain.height = a.terrain.height := by
  induction h with
  | nil => exact ⟨rfl, rfl⟩
  | cons h _ ih => exact ⟨ih.1.trans h.size.1, ih.2.trans h.size.2⟩

/-! ## Steps -/

theorem tellLock_terrain (a : Arena) (owner : ActorId) (locked : Option GuidanceKind) :
    (a.tellLock owner locked).terrain = a.terrain := by
  cases locked <;> rfl

/-- A projectile that is not on the ground is advanced without failing. -/
theorem flyOn_returns (room : a.terrain.Roomy) (p : Projectile) : ∃ r, a.flyOn p = .ok r := by
  unfold flyOn
  split
  · exact ⟨_, rfl⟩
  · dsimp only
    -- The lock is told before the step, so that the step sees the arena with one more event.
    have htold := a.tellLock_terrain (p.guide a.actors).2.owner (p.guide a.actors).1
    obtain ⟨r, hr⟩ := (p.guide a.actors).2.advance_returns (htold ▸ room)
      (a.tellLock (p.guide a.actors).2.owner (p.guide a.actors).1).config
      (a.tellLock (p.guide a.actors).2.owner (p.guide a.actors).1).wind
    rw [hr]
    exact ⟨_, rfl⟩

/-- In an arena with room every projectile can be taken through a step. -/
theorem stepProjectile_returns (room : a.terrain.Roomy) (p : Projectile) :
    ∃ r, a.stepProjectile p = .ok r := by
  rw [stepProjectile_eq]
  split
  · exact ⟨_, rfl⟩
  · refine Fault.exists_bind (p.fly_returns (s := a.surroundings) room) fun r _ => ?_
    obtain ⟨es, hmoves⟩ := applyFlight_moves a r.2 r.1
    exact flyOn_returns (room.congr hmoves.size) _

end Arena

end Artillery
