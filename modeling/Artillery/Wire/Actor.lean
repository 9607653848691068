import Artillery.Wire.Names

/-! # Actors on the wire -/

namespace Artillery

namespace Inventory

/-- The fields of the wire form. -/
def fields : List String :=
  ["heat_guidance", "horizontal_guidance", "vertical_guidance", "parachutes"]

/-- The wire form. -/
def toJson (i : Inventory) : Json := .object [
  ("heat_guidance", .nat i.heatGuidance),
  ("horizontal_guidance", .nat i.horizontalGuidance),
  ("vertical_guidance", .nat i.verticalGuidance),
  ("parachutes", .nat i.parachutes)]

/-- Reads the wire form. -/
def ofJson? (v : Json) : Option Inventory := do
  let r ← Wire.record? fields v
  return {
    heatGuidance := ← r.field "heat_guidance" Wire.nat32?
    horizontalGuidance := ← r.field "horizontal_guidance" Wire.nat32?
    verticalGuidance := ← r.field "vertical_guidance" Wire.nat32?
    parachutes := ← r.field "parachutes" Wire.nat32? }

end Inventory

namespace Fall

/-- The wire form. -/
def toJson (f : Fall) : Json := .object [("start_y", .int f.startY)]

/-- Reads the wire form. -/
def ofJson? (v : Json) : Option Fall := do
  let r ← Wire.record? ["start_y"] v
  return ⟨← r.field "start_y" Wire.int32?⟩

end Fall

namespace Actor

/-- The fields of the wire form. -/
def fields : List String :=
  ["id", "x", "y", "alive", "energy", "shield", "shield_energy", "inventory", "falling"]

/-- The wire form. -/
def toJson (a : Actor) : Json := .object [
  ("id", .nat a.id),
  ("x", .int a.x),
  ("y", .int a.y),
  ("alive", .bool a.alive),
  ("energy", .int a.energy),
  ("shield", a.shield.toJson),
  ("shield_energy", .int a.shieldEnergy),
  ("inventory", a.inventory.toJson),
  ("falling", .option Fall.toJson a.falling)]

/-- Reads the wire form. -/
def ofJson? (v : Json) : Option Actor := do
  let r ← Wire.record? fields v
  return {
    id := ← r.field "id" Wire.nat64?
    x := ← r.field "x" Wire.int32?
    y := ← r.field "y" Wire.int32?
    alive := ← r.field "alive" Wire.bool?
    energy := ← r.field "energy" Wire.int32?
    shield := ← r.field "shield" ShieldKind.ofJson?
    shieldEnergy := ← r.field "shield_energy" Wire.int32?
    inventory := ← r.field "inventory" Inventory.ofJson?
    falling := ← r.optional "falling" Fall.ofJson? }

end Actor

end Artillery
