import Artillery.Proofs.Battle.Descent
import Artillery.Proofs.Ledger.Falls

/-!
# Falls within 32 bits

A fall computes the row after each frame, the rows that have been fallen, and the energy that is
left, all without a bound.  Numbers of 32 bits do the same as long as each of them fits.  They fit
for actors in range on land that is two rows lower than 32 bits allow, and frames of falling leave
such actors in range, so that no fall wraps around.

## Key results

- `InRange.fits`: what a frame of falling computes for an actor in range fits in 32 bits
- `step_inRange`: a frame of falling leaves everybody in range
- `fallFrames_inRange`: so do any frames of falling in a battle
-/

namespace Artillery

namespace Actor

/-- The row of an actor, the row where its fall has begun, and its energy leave room in 32 bits for
falling on a raster with some number of rows. -/
structure InRange (a : Actor) (rows : Int) : Prop where
  low : Quantity.least + rows < a.y
  high : a.y + Fall.speed ≤ Quantity.greatest
  start : ∀ fall, a.falling = some fall →
    Quantity.least + rows < fall.startY ∧ fall.startY ≤ Quantity.greatest
  energy : 0 ≤ a.energy ∧ a.energy ≤ Quantity.greatest

variable {a a' : Actor} {terrain terrain' : Raster} {es : List Event}

/-- A fall costs at most as much energy as there are rows in it. -/
theorem fallCost_bounds (a : Actor) (distance : Int) :
    0 ≤ (a.fallCost distance).1 ∧ (a.fallCost distance).1 ≤ max 0 distance := by
  unfold fallCost
  split
  · rename_i hlong
    have hsafe : Fall.safeDistance = 10 := rfl
    split
    · exact ⟨Int.le_refl 0, Int.le_max_left ..⟩
    · show 0 ≤ Fall.damage distance ∧ Fall.damage distance ≤ max 0 distance
      unfold Fall.damage
      rw [Quantity.quotient_of_nonneg (by omega)]
      omega
  · exact ⟨Int.le_refl 0, Int.le_max_left ..⟩

/-- What a frame of falling computes for an actor in range fits in 32 bits. -/
theorem InRange.fits (h : a.InRange terrain.height) (indexed : terrain.Indexed) :
    Quantity.Fits32 (a.y + Fall.speed) ∧ ∀ fall, a.falling = some fall →
      Quantity.Fits32 (terrain.heightAt a.x - fall.startY) ∧
        Quantity.Fits32 (a.energy - (a.fallCost (terrain.heightAt a.x - fall.startY)).1) := by
  obtain ⟨hlow, hhigh, hstart, henergy⟩ := h
  have hspeed : Fall.speed = 2 := rfl
  have habove := terrain.heightAt_nonneg a.x
  have hbelow := Raster.heightAt_le indexed a.x
  unfold Quantity.Fits32 Quantity.least Quantity.greatest at *
  refine ⟨by omega, fun fall hfall => ?_⟩
  obtain ⟨hfirst, hlast⟩ := hstart fall hfall
  obtain ⟨hfree, hcost⟩ := a.fallCost_bounds (terrain.heightAt a.x - fall.startY)
  exact ⟨by omega, by omega⟩

/-- A fall begins at a row that is in range. -/
theorem loseGround_inRange {rows : Int} (h : a.InRange rows) :
    (a.loseGround terrain).InRange rows := by
  unfold loseGround
  split
  · refine ⟨h.low, h.high, fun fall hfall => ?_, h.energy⟩
    obtain rfl := Option.some.inj hfall
    have hhigh := h.high
    have hspeed : Fall.speed = 2 := rfl
    exact ⟨h.low, by dsimp only; omega⟩
  · exact h

/-- A frame of falling leaves an actor in range, and the ground indexed. -/
theorem fallOn_inRange (room : terrain.height + Fall.speed ≤ Quantity.greatest)
    (indexed : terrain.Indexed) (ha : a.InRange terrain.height)
    (h : a.fallOn terrain = .ok (a', terrain', es)) :
    a'.InRange terrain.height ∧ terrain'.Indexed := by
  have hheight := (fallOn_size h).2
  have hspeed : Fall.speed = 2 := rfl
  obtain ⟨_, rfl, rfl, _⟩ | ⟨_, hair, rfl, rfl, _⟩ | ⟨fall, _, _, hland⟩ := fallOn_cases h
  · exact ⟨ha, indexed⟩
  · -- In the air it is above the ground, which leaves it room for another frame.
    have hlow := ha.low
    have hbelow := Raster.heightAt_le indexed a.x
    exact ⟨⟨by dsimp only; omega, by dsimp only; omega, ha.start, ha.energy⟩, indexed⟩
  · obtain ⟨_, _, hrest, hground, hlevel, _⟩ := land_ground hland
    obtain ⟨distance, damage, parachute, _, hpays⟩ := land_pays hland
    have indexed' := Raster.level_indexed indexed hlevel
    have habove := terrain'.heightAt_nonneg a'.x
    have hbelow := Raster.heightAt_le indexed' a'.x
    have henergy := ha.energy
    refine ⟨⟨?_, ?_, fun fall hfall => ?_, ?_⟩, indexed'⟩
    · rw [hground]
      unfold Quantity.least Quantity.greatest at *
      omega
    · rw [hground]
      omega
    · rw [hrest] at hfall
      exact nomatch hfall
    · rw [hpays.energy]
      split <;> omega

end Actor

/-- A frame of falling leaves everybody in range, and the ground indexed. -/
theorem Falling.step_inRange {as as' : List Actor} {terrain terrain' : Raster} {es : List Event}
    (room : terrain.height + Fall.speed ≤ Quantity.greatest) (indexed : terrain.Indexed)
    (has : ∀ a ∈ as, a.InRange terrain.height)
    (h : Falling.step as terrain = .ok (as', terrain', es)) :
    (∀ a ∈ as', a.InRange terrain.height) ∧ terrain'.Indexed := by
  induction as generalizing terrain as' es with
  | nil =>
    obtain ⟨rfl, hrest⟩ := Prod.mk.inj (Except.ok.inj h)
    obtain ⟨rfl, _⟩ := Prod.mk.inj hrest
    exact ⟨has, indexed⟩
  | cons a as ih =>
    obtain ⟨a', rest, terrain₁, es₁, es₂, ha, hrest, rfl, _⟩ := step_cons h
    obtain ⟨hfirst, indexed₁⟩ := Actor.fallOn_inRange room indexed (has a List.mem_cons_self) ha
    -- Whatever the first one has levelled, the raster has as many rows as before.
    have hheight := (fallOn_size ha).2
    rw [← hheight] at room has hfirst ⊢
    obtain ⟨hothers, indexed'⟩ :=
      ih room indexed₁ (fun b hb => has b (List.mem_cons_of_mem a hb)) hrest
    exact ⟨List.forall_mem_cons.2 ⟨hfirst, hothers⟩, indexed'⟩

namespace Battle

/-- Everybody is in range, on land that leaves room for a frame of falling. -/
structure InRange (b : Battle) : Prop where
  room : b.arena.terrain.height + Fall.speed ≤ Quantity.greatest
  indexed : b.arena.terrain.Indexed
  actors : ∀ a ∈ b.arena.actors, a.InRange b.arena.terrain.height

variable {b b' : Battle}

/-- The falls that are due begin in range. -/
theorem InRange.begun (hb : b.InRange) : ∀ a ∈ b.begun, a.InRange b.arena.terrain.height := by
  intro a ha
  obtain ⟨c, hc, rfl⟩ := List.mem_map.1 ha
  exact Actor.loseGround_inRange (hb.actors c hc)

/-- A frame of falling leaves everybody in range. -/
theorem stepFalling_inRange {falling : Bool} (hb : b.InRange)
    (h : b.stepFalling = .ok (falling, b')) : b'.InRange := by
  obtain ⟨_, rfl⟩ | ⟨_, actors, terrain, events, hstep, rfl⟩ := stepFalling_cases h
  · exact hb
  · obtain ⟨hactors, indexed⟩ := Falling.step_inRange hb.room hb.indexed hb.begun hstep
    have hheight : (terrain.stampActors actors).height = b.arena.terrain.height :=
      (Raster.stampActors_size terrain actors).2.trans (Falling.step_size hstep).2
    exact ⟨hheight ▸ hb.room, Raster.stampActors_indexed indexed actors, hheight ▸ hactors⟩

/-- However many frames of falling are made, nothing that they compute wraps around. -/
theorem fallFrames_inRange {n : Nat} {answers : List Bool} (hb : b.InRange)
    (h : fallFrames n b = .ok (answers, b')) : b'.InRange := by
  induction n generalizing b answers with
  | zero =>
    obtain ⟨_, rfl⟩ := Prod.mk.inj (Except.ok.inj h)
    exact hb
  | succ n ih =>
    obtain ⟨⟨falling, b₁⟩, hfirst, h⟩ := Fault.bind_ok h
    obtain ⟨⟨later, b₂⟩, hrest, h⟩ := Fault.bind_ok h
    obtain ⟨_, rfl⟩ := Prod.mk.inj (Except.ok.inj h)
    exact ih (stepFalling_inRange hb hfirst) hrest

end Battle

end Artillery
