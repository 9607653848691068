import Artillery.Config

/-! # The side walls

What the walls do with a projectile whose column lies outside the arena. -/

namespace Artillery

/-- Where the walls leave a projectile. -/
inductive WallOutcome where
  /-- Between the walls, or put back there. -/
  | inside
  /-- Outside, but not yet lost. -/
  | beyond
  /-- At the wall it has struck. -/
  | hit
  /-- Lost. -/
  | offscreen
  deriving DecidableEq, Repr

namespace WallPolicy

/-- How far beyond the side of an arena without walls a projectile is not yet lost. -/
def openMargin : Float := 50

/-- Applies the walls of an arena of some width to the horizontal position and velocity of a
projectile.  A concrete wall needs an arena at least one column wide to put the projectile in. -/
def apply (policy : WallPolicy) (width x vx : Float) :
    Except Fault (WallOutcome × Float × Float) :=
  if 0 ≤ x ∧ x < width then .ok (.inside, x, vx)
  else match policy.reflection with
    | some factor =>
      -- A projectile that bounces is put a column or two away from the wall.
      .ok (.inside, if x < 0 then 1 else width - 2, -vx * factor)
    | Option.none =>
      match policy with
      | concrete => (Quantity.clamp 0 (width - 1) x).map fun x => (.hit, x, vx)
      | wrap =>
        -- The sum of a tiny negative remainder and the width rounds to the width.
        let x := Quantity.wrap x width
        .ok (.inside, if width ≤ x then 0 else x, vx)
      | _ =>
        .ok (if x < -openMargin ∨ width + openMargin < x then .offscreen else .beyond, x, vx)

end WallPolicy

end Artillery
