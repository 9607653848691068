import Artillery.Raster.Basic
import Artillery.Actor

/-! # Actors on the raster

Actors are drawn into the raster so that projectiles can run into them.  The shape of a tank is a
body of four rows with a dome of four rows on top; each row of it takes one of the actor's own
values.  Terrain is never drawn over, and `eraseActors` puts the sky back. -/

namespace Artillery

/-- What a projectile meets at a pixel. -/
inductive Contact where
  | passThrough
  | tank (actor : ActorId)
  | terrain
  deriving DecidableEq, Repr

/-- What a value stands for. -/
def Contact.ofCell (v : UInt8) : Contact :=
  if Cell.isTerrain v then .terrain
  else if Cell.isActor v then .tank (v.toNat / Cell.actorStride)
  else .passThrough

/-- Which of its values a tank shows `dx` columns beside its middle and `rise` rows above its ground
line.  The body is four rows with a value each; the dome tapers to a point. -/
def silhouette (dx rise : Int) : Option Nat :=
  if 1 ≤ rise ∧ rise ≤ Actor.bodyHeight ∧ dx.natAbs ≤ Actor.halfWidth then some rise.toNat
  else
    -- Each row of the dome is narrower by one column on both sides.
    let step := rise - Actor.bodyHeight - 1
    if 0 ≤ step ∧ step < Actor.domeHeight ∧ dx.natAbs ≤ Actor.halfWidth - step then some 4
    else none

namespace Raster

/-- What a projectile meets at a pixel; outside the raster it meets nothing. -/
def contactAt (r : Raster) (x y : Int) : Contact :=
  if r.inBounds x y then .ofCell (r.sample x y) else .passThrough

/-- Replaces every actor by the sky of its row. -/
def eraseActors (r : Raster) : Raster :=
  let h := r.height
  r.mapRows fun y =>
    let sky := Cell.sky h y
    fun v => if Cell.isActor v then sky else v

/-- Draws the tank of an actor.  Numbers without values of their own are not drawn. -/
def stampActor (r : Raster) (id : ActorId) (cx ground : Int) : Raster :=
  if id < Cell.actorCount then
    let xs := r.columnsFrom (cx - Actor.halfWidth) (cx + Actor.halfWidth)
    let ys := r.rowsFrom (ground - Actor.bodyHeight - Actor.domeHeight) (ground - 1)
    r.repaint xs ys fun x y v =>
      if Cell.isTerrain v then v
      else match silhouette (x - cx) (ground - y) with
        | some slot => UInt8.ofNat (id * Cell.actorStride + slot)
        | none => v
  else r

/-- Redraws all living actors at their places. -/
def stampActors (r : Raster) (actors : List Actor) : Raster :=
  (actors.filter Actor.alive).foldl (fun r a => r.stampActor a.id a.x a.y) r.eraseActors

end Raster

end Artillery
