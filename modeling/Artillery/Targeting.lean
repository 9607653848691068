import Artillery.Projectile

/-! # Guidance in flight

Guidance waits until the nearest enemy is in the right place.  Then it locks: from that step on the
same correction is added to the velocity in each step. -/

namespace Artillery

namespace Guidance

/-- The length of a correction. -/
def strength : Float := 2

/-- How far off a level or a vertical line may be. -/
def tolerance : Float := 4

/-- The distance at which heat is felt. -/
def heatRange : Float := 40

/-- The correction toward a target, if the moment for it has come. -/
def lock? (kind : GuidanceKind) (position target : Vec2) : Option Vec2 :=
  let d := target - position
  match kind with
  | .horizontal =>
    if d.y.abs ≤ tolerance then
      some ⟨(if 0 ≤ d.x then 1 else -1) * strength, 0⟩
    else none
  | .vertical =>
    if d.x.abs ≤ tolerance then
      some ⟨0, (if 0 < d.y then -1 else 1) * strength⟩
    else none
  | .heat =>
    let distance := d.length
    if heatRange < distance then none
    -- On top of the target there is no direction to it; the projectile is pulled down.
    else if distance < Quantity.epsilon then some ⟨0, -strength⟩
    else some ((⟨d.x / distance, -d.y / distance⟩ : Vec2) * strength)

end Guidance

namespace Projectile

/-- The squared distance to a point. -/
def distanceTo (p : Projectile) (target : Vec2) : Float := (target - p.position).lengthSquared

/-- The middle of the nearest living actor other than the owner; of equally near ones the first. -/
def nearestEnemy? (p : Projectile) (actors : List Actor) : Option Vec2 :=
  let centers := (actors.filter fun a => a.alive ∧ a.id ≠ p.owner).map Actor.center
  centers.foldl (fun best c => match best with
    | some b => if Quantity.precedes (p.distanceTo c) (p.distanceTo b) then some c else some b
    | none => some c) none

/-- Whether guidance can act: bombs, particles and rollers are not guided. -/
def isGuidable (p : Projectile) : Bool := ¬p.isParticle ∧ ¬p.isBomb ∧ ¬p.isRolling

/-- Guides a projectile for one step; answers with the kind of guidance that has locked in it. -/
def guide (p : Projectile) (actors : List Actor) : Option GuidanceKind × Projectile :=
  if p.isGuidable then
    match p.guidance with
    | some (.locked _ correction) => (none, { p with velocity := p.velocity + correction })
    | some (.armed kind) =>
      match (p.nearestEnemy? actors).bind (Guidance.lock? kind p.position) with
      | some correction =>
        (some kind, { p with
          guidance := some (.locked kind correction)
          velocity := p.velocity + correction })
      | none => (none, p)
    | none => (none, p)
  else (none, p)

end Projectile

end Artillery
