import Artillery.Plane

/-! # Showing explosions

Craters are blown at once; what is queued here is only their animation, so that no two of them play
at the same time. -/

namespace Artillery

/-- The animation of an explosion. -/
structure Animation where
  center : Pixel
  radius : Int
  frame : Nat
  totalFrames : Nat
  deriving DecidableEq, Repr

namespace Animation

/-- The fewest frames of an animation. -/
def minFrames : Nat := 8

/-- The animation of a fresh explosion, which takes longer for larger ones. -/
def ofBlast (center : Pixel) (radius : Int) : Animation where
  center := center
  radius := radius
  frame := 0
  totalFrames := max minFrames (max radius 0 / 2).toNat

/-- The radius shown in the present frame; it grows to the full size. -/
def currentRadius (a : Animation) : Int :=
  if a.totalFrames = 0 then a.radius
  else
    let grown := Quantity.ofInt a.radius * Float.ofNat (a.frame + 1)
    Quantity.ceil (grown / Float.ofNat a.totalFrames)

end Animation

/-- The animation that plays, and those that wait for it to end. -/
structure ExplosionQueue where
  active : Option Animation := none
  pending : List Animation := []
  deriving DecidableEq, Repr, Inhabited

namespace ExplosionQueue

/-- Whether nothing plays. -/
def isIdle (q : ExplosionQueue) : Bool := q.active.isNone

/-- Adds the animation of an explosion; it plays at once if nothing else does. -/
def push (q : ExplosionQueue) (center : Pixel) (radius : Int) : ExplosionQueue :=
  match q.active with
  | none => { q with active := some (.ofBlast center radius) }
  | some _ => { q with pending := q.pending ++ [.ofBlast center radius] }

/-- Goes one frame on.  After its last frame an animation makes way for the next one. -/
def step (q : ExplosionQueue) : ExplosionQueue :=
  match q.active with
  | none => q
  | some a =>
    if a.totalFrames ≤ a.frame + 1 then ⟨q.pending.head?, q.pending.tail⟩
    else { q with active := some { a with frame := a.frame + 1 } }

end ExplosionQueue

end Artillery
