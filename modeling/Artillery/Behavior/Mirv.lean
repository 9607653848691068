import Artillery.Event

/-! # Splitting warheads

A splitting warhead watches its vertical velocity.  At the top of its flight, where that turns from
rising to falling, it releases a fan of six bombs. -/

namespace Artillery.Mirv

/-- The bombs of a fan. -/
def bombCount : Nat := 6

/-- The width of a fan, as an angle, and the radius of its bombs. -/
def fanOf (weapon : Weapon) : Float × Int := if weapon.param = 1 then (3, 25) else (1.5, 15)

/-- The radius of the blast where the warhead strikes before it has split. -/
def impactRadius : Int := 20

/-- How fast the outer bombs move aside. -/
def fanSpeed : Float := 100

/-- How fast the bombs are thrown down. -/
def dropSpeed : Float := 25

/-- The bombs of a fan, from left to right. -/
def fan (p : Projectile) (weapon : Weapon) : List ProjectileSpec :=
  let (spread, radius) := fanOf weapon
  let middle := (Float.ofNat bombCount - 1) / 2
  (List.range bombCount).map fun i =>
    let angle := (Float.ofNat i - middle) / Float.ofNat bombCount * spread
    let velocity : Vec2 :=
      ⟨p.velocity.x + angle.sin * fanSpeed, p.velocity.y - angle.cos.abs * dropSpeed⟩
    .bomb p p.position velocity radius

/-- Whether a vertical velocity is the first that does not rise any more. -/
def isApogee (previousVy : Option Float) (vy : Float) : Bool :=
  match previousVy with
  | some previous => 0 < previous ∧ vy ≤ 0
  | none => false

/-- What a splitting warhead does in flight. -/
def fly (p : Projectile) (weapon : Weapon) : FlightEffect × Projectile :=
  match p.maneuver with
  | .splitTracked previousVy false =>
    let split := isApogee previousVy p.velocity.y
    let q := { p with maneuver := .splitTracked (some p.velocity.y) split }
    if split then ({ split := true, remove := true, spawn := fan p weapon }, q) else (.nothing, q)
  | _ => (.nothing, p)

end Artillery.Mirv
