import Artillery.Event
import Artillery.Raster.Basic
import Artillery.Random.Draw
import Artillery.Proofs.Number.Magnitude

/-! # Scattered bombs

A blast, followed by a shower of bombs from the top of the playfield, around the impact or
anywhere. -/

namespace Artillery.Scatter

/-- The radius of the blast at the impact. -/
def blastRadius : Int := 15

/-- The radius of the scattered bombs. -/
def bombRadius : Int := 10

/-- The fewest bombs. -/
def minCount : Nat := 5

/-- How many different numbers of bombs there are. -/
def countRange : Nat := 6

theorem countRange_pos : 0 < countRange := by decide

/-- How far from the sides of the arena the bombs stay. -/
def edgeMargin : Float := 10

/-- The positions that bombs can fall from; in a narrow arena only the middle. -/
def bounds (width : Float) : Float × Float :=
  if 2 * edgeMargin < width then (edgeMargin, width - edgeMargin) else (width / 2, width / 2)

/-- Bombs find room in an arena of any width: a wide one leaves some between its margins. -/
theorem bounds_room (width : Nat) :
    (bounds (Float.ofNat width)).1 ≤ (bounds (Float.ofNat width)).2 := by
  by_cases wide : 32 ≤ width
  · have hreaches : Quantity.Reaches 5 (Float.ofNat width) := Quantity.reaches_ofNat (k := 5) wide
    have hboth : Quantity.Under 5 (2 * edgeMargin) := .normal rfl (by decide)
    have hmargin : Quantity.Under 4 edgeMargin := .normal rfl (by decide)
    unfold bounds
    rw [if_pos (hreaches.lt hboth)]
    exact (hreaches.sub hmargin (by decide)).le hmargin
  · -- There are only a few narrow arenas.
    have narrow : ∀ w < 32, (bounds (Float.ofNat w)).1 ≤ (bounds (Float.ofNat w)).2 := by
      decide +kernel
    exact narrow width (Nat.lt_of_not_le wide)

/-- The position a bomb falls from: within `spread` of the impact, or anywhere if that is 0. -/
def place (width : Nat) (impactX : Float) (spread : Nat) : Draw Float := do
  let limits := bounds (Float.ofNat width)
  have room := bounds_room width
  let x ← if near : 0 < spread then do
      let n ← Draw.below (2 * spread) (Nat.mul_pos Nat.two_pos near)
      pure (impactX + Quantity.ofInt ((n : Int) - spread))
    else Draw.between limits.1 limits.2 room
  return Quantity.restrict limits.1 limits.2 x room

/-- Drops one bomb. -/
def drop (p : Projectile) (width : Nat) (spread : Nat) : Draw ProjectileSpec := do
  let x ← place width (Quantity.ofInt p.pixel.x) spread
  let vx := ((← Draw.unit) - 0.5) * 100
  let vy := -((← Draw.unit) * 100 + 50)
  return .bomb p ⟨x, Float.ofNat (playfieldTop + 1)⟩ ⟨vx, vy⟩ bombRadius

/-- Drops a number of bombs, one after another. -/
def dropAll (p : Projectile) (width : Nat) (spread : Nat) : (n : Nat) → Draw (List ProjectileSpec)
  | 0 => pure []
  | n + 1 => do
    let first ← drop p width spread
    let rest ← dropAll p width spread n
    return first :: rest

/-- What a scattering weapon does where it strikes. -/
def strike (p : Projectile) (weapon : Weapon) (terrain : Raster) : Draw ImpactEffect := do
  -- The number of bombs is drawn before the first of them.
  let count := minCount + (← Draw.belowWide countRange countRange_pos)
  let spawn ← dropAll p terrain.width weapon.param.natAbs count
  return { ImpactEffect.blast blastRadius with spawn := spawn }

end Artillery.Scatter
