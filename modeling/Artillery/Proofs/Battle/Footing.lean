import Artillery.Proofs.Battle.Descent
import Artillery.Proofs.Raster.Level
import Artillery.Proofs.Raster.Tanks

/-!
# The ground under a landing

A landing levels the ground under the tank to the mean of its seven ground rows.  While it does, the
raster still shows the tank where it was drawn after the frame before, and those pixels are not
filled: where they reach below the mean, hollows are left under the tank.

## Key results

- `step_levels`: what a landing makes of the columns of its footprint
- `landing_levels`: when the ground under a landing is level
- `landing_leaves_hollow`: a landing that leaves hollows
-/

namespace Artillery

/-- The ground under a tank is level: every column of its footprint has its ground line as ground
row, and is solid from there down. -/
def Raster.LevelUnder (r : Raster) (a : Actor) : Prop :=
  ∀ x : Nat, a.Covers x → x < r.width → r.SolidFrom x a.y

namespace Falling

/-! ## Tanks during a frame -/

/-- A frame of falling makes and erases no pixels of tanks. -/
theorem fallOn_tank {a a' : Actor} {terrain terrain' : Raster} {es : List Event}
    (h : a.fallOn terrain = .ok (a', terrain', es)) (x y : Nat) :
    Cell.tank (terrain'.cell x y) = Cell.tank (terrain.cell x y) := by
  obtain ⟨_, _, rfl, _⟩ | ⟨_, _, _, rfl, _⟩ | ⟨fall, _, _, hland⟩ := fallOn_cases h
  · rfl
  · rfl
  · exact Raster.level_tank (land_ground hland).2.2.2.2.1 x y

/-- The tanks stay where they have been drawn until the end of the frame. -/
theorem step_tank {as as' : List Actor} {terrain terrain' : Raster} {es : List Event}
    (h : step as terrain = .ok (as', terrain', es)) (x y : Nat) :
    Cell.tank (terrain'.cell x y) = Cell.tank (terrain.cell x y) := by
  induction as generalizing terrain as' es with
  | nil =>
    obtain ⟨_, hrest⟩ := Prod.mk.inj (Except.ok.inj h)
    obtain ⟨rfl, _⟩ := Prod.mk.inj hrest
    rfl
  | cons a as ih =>
    obtain ⟨a', rest, terrain₁, es₁, es₂, ha, hrest, _, _⟩ := step_cons h
    exact (ih hrest).trans (fallOn_tank ha x y)

/-! ## A landing -/

/-- Footprints of actors more than six columns apart have no column in common. -/
theorem not_both_cover {a c : Actor} {x : Int} (far : 6 < (a.x - c.x).natAbs) (ha : a.Covers x) :
    ¬c.Covers x := by
  have hhalf : Actor.halfWidth = 3 := rfl
  unfold Actor.Covers at ha ⊢
  omega

/-- What a landing has made of the columns of its footprint: they are filled from their mean down,
except for the pixels of the tanks that were drawn before, and the tank stands on the ground row of
its middle column. -/
structure Levelled (before after : Raster) (a a' : Actor) : Prop where
  x : a'.x = a.x
  y : a'.y = after.heightAt a.x
  size : after.width = before.width ∧ after.height = before.height
  rows : (∃ x : Nat, a.Covers x ∧ x < before.width) → (playfieldTop : Int) ≤ before.height
  indexed : ∀ x : Nat, a.Covers x → x < before.width → after.ColumnIndexed x
  filled : ∀ x : Nat, a.Covers x → x < before.width →
    after.FilledAround x (before.groundLevel a.x Actor.halfWidth) fun y =>
      Cell.isActor (before.cell x y) = true

theorem covers_self (a : Actor) : a.Covers a.x := by
  have hhalf : Actor.halfWidth = 3 := rfl
  unfold Actor.Covers
  omega

/-- An actor that lands levels the columns of its footprint, if nobody else comes near them. -/
theorem step_levels {as as' : List Actor} {terrain terrain' : Raster} {es : List Event}
    (h : step as terrain = .ok (as', terrain', es)) {i : Nat} {a a' : Actor}
    (ha : as[i]? = some a) (ha' : as'[i]? = some a') (falls : a.falling.isSome = true)
    (lands : a'.falling = none)
    (alone : ∀ (j : Nat) (c : Actor), j ≠ i → as[j]? = some c → 6 < (a.x - c.x).natAbs) :
    Levelled terrain terrain' a a' := by
  obtain ⟨c, terrain₁, terrain₂, es₁, own, es₂, hc, hfirst, hturn, hlast, _⟩ := step_turn h ha
  obtain rfl : c = a' := Option.some.inj (hc.symm.trans ha')
  -- Those before and after it move the earth of other columns only.
  have hkept : ∀ x, a.Covers x → terrain.SameEarth terrain₁ x := by
    intro x hx
    obtain hsame | ⟨j, c, hj, hcovers, _⟩ := step_earth hfirst x
    · exact hsame
    · rw [List.getElem?_take] at hj
      split at hj
      · exact absurd hcovers (not_both_cover (alone j c (by omega) hj) hx)
      · cases hj
  have hleft : ∀ x, a.Covers x → terrain₂.SameEarth terrain' x := by
    intro x hx
    obtain hsame | ⟨j, c, hj, hcovers, _⟩ := step_earth hlast x
    · exact hsame
    · rw [List.getElem?_drop] at hj
      exact absurd hcovers (not_both_cover (alone _ c (by omega) hj) hx)
  have hsize := step_size hfirst
  have hheight : terrain'.height = terrain₂.height := (step_size hlast).2
  obtain ⟨hnone, _⟩ | ⟨_, _, rfl, _⟩ | ⟨fall, _, _, hland⟩ := fallOn_cases hturn
  · simp [hnone] at falls
  · rw [show a.falling = none from lands] at falls
    cases falls
  obtain ⟨_, hx, _, hy, hlevel, _⟩ := land_ground hland
  -- The mean is therefore that of the ground before the frame.
  have hlevel₁ : terrain₁.groundLevel a.x Actor.halfWidth =
      terrain.groundLevel a.x Actor.halfWidth :=
    Raster.groundLevel_congr hsize fun x hlo hhi => (hkept x ⟨hlo, hhi⟩).ground
  constructor
  · exact hx
  · rw [hy, hx, (hleft a.x (covers_self a)).ground]
  · exact step_size h
  · rintro ⟨x, hcovers, hw⟩
    rw [← hsize.2]
    exact (Raster.level_eq hlevel (Span.mem_clipped.2 ⟨hcovers.1, hcovers.2, hsize.1 ▸ hw⟩)).1
  · intro x hcovers hw
    exact (hleft x hcovers).columnIndexed hheight
      (Raster.level_columnIndexed hlevel hcovers (hsize.1 ▸ hw))
  · intro x hcovers hw
    refine Raster.FilledAround.congr ?_ (hleft x hcovers) hheight
    intro y htop hlt
    rw [(Raster.level_size hlevel).2] at hlt
    rw [Raster.isTerrain_level hlevel hcovers (hsize.1 ▸ hw) htop hlt, hlevel₁,
      Raster.isActor_of_tank (step_tank hfirst x y), Bool.not_eq_true]

namespace Levelled

variable {before after : Raster} {a a' : Actor} (h : Levelled before after a a')
include h

/-- Drawing tanks moves no earth. -/
theorem drawn (actors : List Actor) : Levelled before (after.stampActors actors) a a' := by
  have hsize := after.stampActors_size actors
  have hsame (x : Int) := after.stampActors_sameEarth x actors
  constructor
  · exact h.x
  · rw [(hsame a.x).ground]
    exact h.y
  · exact ⟨hsize.1.trans h.size.1, hsize.2.trans h.size.2⟩
  · exact h.rows
  · exact fun x hx hw => (hsame x).columnIndexed hsize.2 (h.indexed x hx hw)
  · exact fun x hx hw => (h.filled x hx hw).congr (hsame x) hsize.2

/-- The tank does not stand above the mean, nor below the raster. -/
theorem y_bounds {x : Nat} (hx : a.Covers x) (hw : x < before.width) :
    before.groundLevel a.x Actor.halfWidth ≤ a'.y ∧ a'.y ≤ after.height := by
  have hlevel := Raster.groundLevel_bounds (h.rows ⟨x, hx, hw⟩) a.x Actor.halfWidth
  rw [h.y]
  -- A tank whose middle is off the raster stands on no ground, that is below all rows.
  by_cases hon : 0 ≤ a.x ∧ a.x < after.width
  · have hmiddle := covers_self a
    obtain ⟨n, hn⟩ := Int.eq_ofNat_of_zero_le hon.1
    rw [h.size.1] at hon
    rw [hn] at hon hmiddle ⊢
    have hcolumn := h.indexed n hmiddle (by omega)
    have hfilled := h.filled n hmiddle (by omega)
    rw [hn] at hfilled hlevel
    exact ⟨hcolumn.level_le hfilled (h.size.2 ▸ hlevel.2), hcolumn.heightAt_le⟩
  · rw [Raster.heightAt_of_off hon, h.size.2]
    exact ⟨hlevel.2, Int.le_refl _⟩

/-- The ground under the tank is level if the pixels that were not filled are those between the mean
and its ground line. -/
theorem levelUnder_iff :
    after.LevelUnder a' ↔ ∀ x y : Nat, a.Covers x → x < before.width →
      before.groundLevel a.x Actor.halfWidth ≤ y → y < before.height →
      (Cell.isActor (before.cell x y) = true ↔ (y : Int) < a'.y) := by
  -- Column by column this is what filling around some cells leaves.
  have hcolumn {x : Nat} (hx : a.Covers x) (hw : x < before.width) :
      after.SolidFrom x a'.y ↔ ∀ y : Nat, before.groundLevel a.x Actor.halfWidth ≤ y →
        y < after.height → (Cell.isActor (before.cell x y) = true ↔ (y : Int) < a'.y) := by
    have hlevel := Raster.groundLevel_bounds (h.rows ⟨x, hx, hw⟩) a.x Actor.halfWidth
    obtain ⟨hlow, hhigh⟩ := h.y_bounds hx hw
    exact (h.indexed x hx hw).solid_iff (h.filled x hx hw) hlevel.1 hlow hhigh
  unfold Raster.LevelUnder Actor.Covers
  rw [h.x, h.size.1]
  constructor
  · intro hsolid x y hx hw hy hlt
    exact (hcolumn hx hw).1 (hsolid x hx hw) y hy (h.size.2 ▸ hlt)
  · intro hleft x hx hw
    exact (hcolumn hx hw).2 fun y hy hlt => hleft x y hx hw hy (h.size.2 ▸ hlt)

/-- Without pixels of a tank from the mean down, the ground is level at the mean. -/
theorem at_mean (hon : 0 ≤ a.x ∧ a.x < before.width)
    (free : ∀ x y : Nat, a.Covers x → before.groundLevel a.x Actor.halfWidth ≤ y →
      Cell.isActor (before.cell x y) = false) :
    a'.y = before.groundLevel a.x Actor.halfWidth ∧ after.LevelUnder a' := by
  have hmiddle := covers_self a
  obtain ⟨n, hn⟩ := Int.eq_ofNat_of_zero_le hon.1
  have hw : n < before.width := by omega
  have hcovers : a.Covers n := hn ▸ hmiddle
  have hlevel := Raster.groundLevel_bounds (h.rows ⟨n, hcovers, hw⟩) a.x Actor.halfWidth
  -- The middle column is solid from the mean down, and the tank stands on its ground row.
  have hy : a'.y = before.groundLevel a.x Actor.halfWidth := by
    have hsolid := ((h.indexed n hcovers hw).solid_iff (h.filled n hcovers hw) hlevel.1
      (Int.le_refl _) (h.size.2 ▸ hlevel.2)).2 fun y hy _ => by
        rw [free n y hcovers hy]
        exact iff_of_false Bool.false_ne_true (by omega)
    rw [h.y, hn]
    exact hsolid.1.trans (congrArg (before.groundLevel · Actor.halfWidth) hn)
  refine ⟨hy, h.levelUnder_iff.2 fun x y hx _ hrow _ => ?_⟩
  rw [free x y hx hrow, hy]
  exact iff_of_false Bool.false_ne_true (by omega)

end Levelled

end Falling

namespace Battle

/-- An actor that lands in a frame with nobody else near it levels the columns of its footprint. -/
theorem stepFalling_levels {b b' : Battle} {falling : Bool} (h : b.stepFalling = .ok (falling, b'))
    {i : Nat} {a a' : Actor} (ha : b.begun[i]? = some a) (ha' : b'.arena.actors[i]? = some a')
    (falls : a.falling.isSome = true) (lands : a'.falling = none)
    (alone : ∀ (j : Nat) (c : Actor), j ≠ i → b.arena.actors[j]? = some c →
      6 < (a.x - c.x).natAbs) :
    Falling.Levelled b.arena.terrain b'.arena.terrain a a' := by
  obtain ⟨hnobody, rfl⟩ | ⟨_, actors, terrain, told, hstep, rfl⟩ := stepFalling_cases h
  · -- A frame in which nobody falls has no landing.
    have hfalling : Falling.anyFalling b'.begun = true :=
      List.any_eq_true.2 ⟨a, List.mem_of_getElem? ha, falls⟩
    rw [begun, hnobody] at hfalling
    cases hfalling
  · refine (Falling.step_levels hstep ha ha' falls lands fun j c hj hc => ?_).drawn actors
    obtain ⟨c₀, hc₀, _, hx⟩ := Falling.exists_of_places
      (Falling.check_places b.arena.actors b.arena.terrain).symm hc
    rw [← hx]
    exact alone j c₀ hj hc₀

/-- No tank is drawn in the columns of an actor that nobody comes near from its ground line down. -/
theorem isActor_below {r : Raster} {as : List Actor} (shows : r.Shows as) {i : Nat} {a : Actor}
    (ha : as[i]? = some a)
    (alone : ∀ (j : Nat) (c : Actor), j ≠ i → as[j]? = some c → 6 < (a.x - c.x).natAbs)
    {x y : Nat} (hx : a.Covers x) (hy : a.y ≤ y) : Cell.isActor (r.cell x y) = false := by
  have hhalf : Actor.halfWidth = 3 := rfl
  rw [Bool.eq_false_iff]
  intro hactor
  obtain ⟨c, hc, _, _, _, hoccupies⟩ := shows x y _ (if_pos hactor)
  obtain ⟨j, hj⟩ := List.getElem?_of_mem hc
  unfold Actor.Covers at hx
  unfold Actor.Occupies at hoccupies
  by_cases hji : j = i
  · -- Its own pixels end above its ground line.
    subst hji
    obtain rfl := Option.some.inj (hj.symm.trans ha)
    omega
  · have := alone j c hji hj
    omega

/-- The ground under a landing, when nobody else comes within six columns of it.  In the columns of
the footprint the frame leaves terrain exactly from the mean of their ground rows down, except where
the raster showed a tank before the frame.  So the ground is level under the tank, with all columns
solid from its ground line down, exactly if these pixels are the ones between the mean and that
line; and if the raster shows the actors where they are, it is level at the mean whenever the mean
does not lie above the line on which the tank was drawn. -/
theorem landing_levels {b b' : Battle} {falling : Bool} (h : b.stepFalling = .ok (falling, b'))
    {i : Nat} {a a' : Actor} (ha : b.begun[i]? = some a) (ha' : b'.arena.actors[i]? = some a')
    (falls : a.falling.isSome = true) (lands : a'.falling = none)
    (alone : ∀ (j : Nat) (c : Actor), j ≠ i → b.arena.actors[j]? = some c →
      6 < (a.x - c.x).natAbs) :
    (∀ x y : Nat, a.Covers x → x < b.arena.terrain.width → playfieldTop ≤ y →
      y < b.arena.terrain.height →
      (Cell.isTerrain (b'.arena.terrain.cell x y) = true ↔
        b.arena.terrain.groundLevel a.x Actor.halfWidth ≤ y ∧
          ¬Cell.isActor (b.arena.terrain.cell x y) = true)) ∧
    (b'.arena.terrain.LevelUnder a' ↔
      ∀ x y : Nat, a.Covers x → x < b.arena.terrain.width →
        b.arena.terrain.groundLevel a.x Actor.halfWidth ≤ y → y < b.arena.terrain.height →
        (Cell.isActor (b.arena.terrain.cell x y) = true ↔ (y : Int) < a'.y)) ∧
    (b.arena.terrain.Shows b.arena.actors → 0 ≤ a.x → a.x < b.arena.terrain.width →
      a.y ≤ b.arena.terrain.groundLevel a.x Actor.halfWidth →
        a'.y = b.arena.terrain.groundLevel a.x Actor.halfWidth ∧
          b'.arena.terrain.LevelUnder a') := by
  have hlevelled := stepFalling_levels h ha ha' falls lands alone
  refine ⟨fun x y hx hw htop hy => hlevelled.filled x hx hw y htop (hlevelled.size.2 ▸ hy),
    hlevelled.levelUnder_iff, fun shows hleft hright hmean => ?_⟩
  -- The check before the frame has moved nobody.
  obtain ⟨c, hc, rfl⟩ := Option.map_eq_some_iff.1 ((List.getElem?_map ..).symm.trans ha)
  obtain ⟨fall, hfall⟩ := loseGround_eq c b.arena.terrain
  rw [hfall] at hlevelled hleft hright hmean alone ⊢
  exact hlevelled.at_mean ⟨hleft, hright⟩ fun x y hx hy =>
    isActor_below shows hc alone hx (Int.le_trans hmean hy)

/-- A tank over a crater in level ground, with its ground line in a given row. -/
def overCrater (line : Int) : Except SetupError Battle := do
  let b ← field (List.replicate 41 40) []
  return (b.changeTerrain (·.crater 20 40 4)).addActor (.fresh 0 20 line)

/-- Nobody comes near a single actor. -/
theorem alone_of_begun {b : Battle} {a : Actor} (h : b.begun = [a]) :
    ∀ (j : Nat) (c : Actor), j ≠ 0 → b.arena.actors[j]? = some c → 6 < (a.x - c.x).natAbs := by
  intro j c hj hc
  have hsingle : b.arena.actors.length = 1 := (List.length_map _).symm.trans (congrArg _ h)
  have hbound := (List.getElem?_eq_some_iff.1 hc).1
  omega

/-- A tank drops to the bottom of the crater, and its landing lifts it up to the mean. -/
theorem landing_levels_crater :
    ∃ b b' a', overCrater 43 = .ok b ∧ b.arena.terrain.heightAt 20 = 45 ∧
      b.stepFalling = .ok (false, b') ∧ b'.arena.actors = [a'] ∧ a'.y = 43 ∧
      b'.arena.terrain.LevelUnder a' := by
  have run : ((overCrater 43).toOption.any fun b => b.stepFalling.toOption.any fun frame => decide (
      frame.1 = false ∧ b.arena.terrain.heightAt 20 = 45 ∧
      b.begun.map (fun a => (a.x, a.y, a.falling.isSome)) = [(20, 43, true)] ∧
      frame.2.arena.actors.map (·.falling) = [none] ∧ b.arena.terrain.width = 41 ∧
      b.arena.terrain.groundLevel 20 Actor.halfWidth = 43)) = true := by decide +kernel
  obtain ⟨b, hb, run⟩ := Fault.exists_of_any run
  obtain ⟨⟨falling, b'⟩, hstep, run⟩ := Fault.exists_of_any run
  obtain ⟨rfl, hpit, hfalls, hlands, hwidth, hmean⟩ := of_decide_eq_true run
  have hshows : b.arena.terrain.Shows b.arena.actors := by
    obtain ⟨bare, _, hb⟩ := Fault.bind_ok hb
    rw [← Except.ok.inj hb]
    exact Raster.stampActors_shows _ _
  obtain ⟨a, hbegun, hplace⟩ := List.map_eq_singleton_iff.1 hfalls
  obtain ⟨a', hactors, lands⟩ := List.map_eq_singleton_iff.1 hlands
  simp only [Prod.mk.injEq] at hplace
  obtain ⟨hx, hy, falls⟩ := hplace
  -- It is the only tank, so that its own landing levels what is under it.
  obtain ⟨_, _, hmeans⟩ := landing_levels hstep (i := 0) (by rw [hbegun]; rfl)
    (by rw [hactors]; rfl) falls lands (alone_of_begun hbegun)
  rw [hx, hy, hmean, hwidth] at hmeans
  obtain ⟨hline, hlevel⟩ := hmeans hshows (by decide) (by decide) (by decide)
  exact ⟨b, b', a', hb, hpit, hstep, hactors, hline, hlevel⟩

/-- A landing that leaves a hollow.  The mean of the crater is row 43, where the tank was drawn over
the inner columns after the frame before, while the outermost ones show earth. -/
theorem landing_leaves_hollow :
    ∃ b₀ b b' a', overCrater 40 = .ok b₀ ∧ fallFrames 2 b₀ = .ok ([true, true], b) ∧
      b.stepFalling = .ok (false, b') ∧ b'.arena.actors = [a'] ∧ a'.falling = none ∧
      ¬b'.arena.terrain.LevelUnder a' := by
  have run : ((overCrater 40).toOption.any fun b₀ => (fallFrames 2 b₀).toOption.any fun frames =>
      frames.2.stepFalling.toOption.any fun frame => decide (
        frames.1 = [true, true] ∧ frame.1 = false ∧
        frames.2.begun.map (fun a => (a.x, a.falling.isSome)) = [(20, true)] ∧
        frame.2.arena.actors.map (·.falling) = [none] ∧ frames.2.arena.terrain.width = 41 ∧
        frames.2.arena.terrain.height = 55 ∧
        frames.2.arena.terrain.groundLevel 20 Actor.halfWidth = 43 ∧
        Cell.isActor (frames.2.arena.terrain.cell 17 43) = false ∧
        Cell.isActor (frames.2.arena.terrain.cell 18 43) = true)) = true := by decide +kernel
  obtain ⟨b₀, hb₀, run⟩ := Fault.exists_of_any run
  obtain ⟨⟨answers, b⟩, hframes, run⟩ := Fault.exists_of_any run
  obtain ⟨⟨falling, b'⟩, hstep, run⟩ := Fault.exists_of_any run
  obtain ⟨rfl, rfl, hfalls, hlands, hwidth, hheight, hmean, houter, hinner⟩ :=
    of_decide_eq_true run
  obtain ⟨a, hbegun, hplace⟩ := List.map_eq_singleton_iff.1 hfalls
  obtain ⟨a', hactors, lands⟩ := List.map_eq_singleton_iff.1 hlands
  obtain ⟨hx, falls⟩ := Prod.mk.inj hplace
  refine ⟨b₀, b, b', a', hb₀, hframes, hstep, hactors, lands, fun hlevel => ?_⟩
  have hlevelled := stepFalling_levels hstep (i := 0) (by rw [hbegun]; rfl)
    (by rw [hactors]; rfl) falls lands (alone_of_begun hbegun)
  have hpixels (x : Nat) (hfoot : a.Covers x) (hw : x < 41) :
      Cell.isActor (b.arena.terrain.cell x 43) = true ↔ ((43 : Nat) : Int) < a'.y :=
    hlevelled.levelUnder_iff.1 hlevel x 43 hfoot (by omega) (by rw [hx, hmean]; decide) (by omega)
  have hhalf : Actor.halfWidth = 3 := rfl
  -- Row 43 would be above the ground line in one of two columns and below it in the other.
  have hinner := (hpixels 18 (by unfold Actor.Covers; omega) (by decide)).1 hinner
  rw [(hpixels 17 (by unfold Actor.Covers; omega) (by decide)).2 hinner] at houter
  cases houter

end Battle

end Artillery
