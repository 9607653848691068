import Artillery.Plane

/-! # Actors

The tanks on the field: where each stands, what energy it has left, and what it carries. -/

namespace Artillery

/-- The number of an actor. -/
abbrev ActorId := Nat

/-- What an actor's shield does. -/
inductive ShieldKind where
  | none
  | standard
  | warp
  | teleport
  | force
  | heavy
  | flicker
  deriving DecidableEq, Repr, Inhabited

namespace ShieldKind

/-- The energy of a freshly raised shield. -/
def capacity : ShieldKind → Int
  | none => 0
  | standard => 55
  | warp => 100
  | teleport => 100
  | force => 150
  | heavy => 200
  | flicker => 80

/-- Force and heavy shields throw projectiles back instead of absorbing their blast. -/
def deflects : ShieldKind → Bool
  | force => true
  | heavy => true
  | _ => false

end ShieldKind

/-- How a guidance item finds its moment and its direction. -/
inductive GuidanceKind where
  /-- Locks when level with the target and steers sideways. -/
  | horizontal
  /-- Locks above or below the target and steers up or down. -/
  | vertical
  /-- Locks near the target and steers toward it. -/
  | heat
  deriving DecidableEq, Repr

/-- The items an actor can use up. -/
structure Inventory where
  heatGuidance : Nat := 0
  horizontalGuidance : Nat := 0
  verticalGuidance : Nat := 0
  parachutes : Nat := 0
  deriving DecidableEq, Repr, Inhabited

namespace Inventory

/-- How many items of a kind are left. -/
def stock (i : Inventory) : GuidanceKind → Nat
  | .horizontal => i.horizontalGuidance
  | .vertical => i.verticalGuidance
  | .heat => i.heatGuidance

/-- The inventory with one item of a kind less. -/
def spend (i : Inventory) : GuidanceKind → Inventory
  | .horizontal => { i with horizontalGuidance := i.horizontalGuidance - 1 }
  | .vertical => { i with verticalGuidance := i.verticalGuidance - 1 }
  | .heat => { i with heatGuidance := i.heatGuidance - 1 }

/-- The kind the next shot is guided by: horizontal before vertical before heat. -/
def nextGuidance (i : Inventory) : Option GuidanceKind :=
  [GuidanceKind.horizontal, .vertical, .heat].find? (0 < i.stock ·)

/-- Takes out the item the next shot is guided by, if there is one. -/
def takeGuidance (i : Inventory) : Option GuidanceKind × Inventory :=
  match i.nextGuidance with
  | some kind => (some kind, i.spend kind)
  | none => (none, i)

end Inventory

/-- A fall in progress. -/
structure Fall where
  /-- The ground line when the fall began. -/
  startY : Int
  deriving DecidableEq, Repr

/-- A tank. -/
structure Actor where
  id : ActorId
  /-- The column of its middle. -/
  x : Int
  /-- Its ground line: the row of the terrain under it. -/
  y : Int
  alive : Bool
  energy : Int
  shield : ShieldKind
  shieldEnergy : Int
  inventory : Inventory
  falling : Option Fall
  deriving DecidableEq, Repr

namespace Actor

/-- The rows of a tank's body. -/
def bodyHeight : Int := 4

/-- The rows of the dome on top of the body. -/
def domeHeight : Int := 4

/-- How far the body reaches to each side of its middle column. -/
def halfWidth : Int := 3

/-- The length of the barrel. -/
def barrelLength : Float := 12

/-- The name of an actor for a reader. -/
def label (id : ActorId) : String := "actor#" ++ toString id

/-- A fresh tank at full energy, without shield or items. -/
def fresh (id : ActorId) (x y : Int) : Actor where
  id := id
  x := x
  y := y
  alive := true
  energy := 100
  shield := .none
  shieldEnergy := 0
  inventory := {}
  falling := none

/-- Raises a shield at its full energy in place of the present one. -/
def raiseShield (a : Actor) (kind : ShieldKind) : Actor :=
  { a with shield := kind, shieldEnergy := kind.capacity }

/-- Whether a shield is up and has energy left. -/
def hasLiveShield (a : Actor) : Bool := a.shield ≠ .none ∧ 0 < a.shieldEnergy

/-- The middle of the body, which guidance aims at. -/
def center (a : Actor) : Vec2 := ⟨Quantity.ofInt a.x, Quantity.ofInt a.y - 4⟩

/-- Where a shot leaves the barrel; an angle of 0 points right and one of 90 up. -/
def barrelTip (a : Actor) (degrees : Float) : Vec2 :=
  let angle := Quantity.radians degrees
  let domeTop := Quantity.ofInt (a.y - bodyHeight - domeHeight)
  ⟨Quantity.ofInt a.x + angle.cos * barrelLength, domeTop - angle.sin * barrelLength⟩

end Actor

end Artillery
