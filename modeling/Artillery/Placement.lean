import Artillery.Config
import Artillery.Raster.Earthwork
import Artillery.Raster.Silhouette

/-! # Placing actors

Actors are spread evenly over the arena, each on ground that is levelled for it. -/

namespace Artillery.Placement

/-- The column of actor `i` of `count`. -/
def column (width count i : Nat) : Except Fault Int :=
  let margin : Int := Config.placementMargin
  let spacing := Quantity.ofInt (width - 2 * margin) / Float.ofNat count
  let x := margin + Quantity.floor (spacing * (Float.ofNat i + 0.5))
  clampInt margin (width - margin - 1) x

/-- Places the actors with the given numbers, out of `count`. -/
def placeEach (count : Nat) : List Nat → Raster → Except Fault (List Actor × Raster)
  | [], terrain => .ok ([], terrain)
  | i :: rest, terrain => do
    let x ← column terrain.width count i
    -- A later neighbour may level part of this ground again.
    let terrain ← terrain.level x Actor.halfWidth
    let a := Actor.fresh i x (terrain.heightAt x)
    let (others, terrain) ← placeEach count rest terrain
    return (a :: others, terrain)

/-- Places fresh actors; there is room for ten. -/
def place (terrain : Raster) (count : Nat) : Except Fault (List Actor × Raster) :=
  let count := min count Cell.actorCount
  placeEach count (List.range count) terrain

end Artillery.Placement
