import Artillery.Wire.Names

/-! # Projectiles on the wire -/

namespace Artillery

namespace Warhead

/-- The wire form. -/
def toJson : Warhead → Json
  | weapon => .string "Weapon"
  | sub radius => .object [("Sub", .object [("radius", .int radius)])]

/-- Reads the wire form. -/
def ofJson? (v : Json) : Option Warhead := do
  match ← Wire.variant? v with
  | ("Weapon", data) => if Wire.isBare false data then some weapon else none
  | ("Sub", some data) =>
    let r ← Wire.record? ["radius"] data
    return sub (← r.field "radius" Wire.int32?)
  | _ => none

end Warhead

namespace Maneuver

/-- The wire form. -/
def toJson : Maneuver → Json
  | none => .string "None"
  | rolling direction speed frames => .object [("Rolling", .object [
      ("direction", .real direction), ("speed", .real speed), ("frames", .nat frames)])]
  | splitTracked previousVy hasSplit => .object [("SplitTracked", .object [
      ("previous_vy", .option .real previousVy), ("has_split", .bool hasSplit)])]
  | bouncing bounces => .object [("Bouncing", .object [("bounces", .nat bounces)])]
  | particle remainingLife soil => .object [("Particle", .object [
      ("remaining_life", .nat remainingLife), ("soil", .bool soil)])]

/-- Reads the wire form. -/
def ofJson? (v : Json) : Option Maneuver := do
  match ← Wire.variant? v with
  | ("None", data) => if Wire.isBare false data then some none else Option.none
  | ("Rolling", some data) =>
    let r ← Wire.record? ["direction", "speed", "frames"] data
    return rolling (← r.field "direction" Wire.float?) (← r.field "speed" Wire.float?)
      (← r.field "frames" Wire.nat32?)
  | ("SplitTracked", some data) =>
    let r ← Wire.record? ["previous_vy", "has_split"] data
    return splitTracked (← r.optional "previous_vy" Wire.float?) (← r.field "has_split" Wire.bool?)
  | ("Bouncing", some data) =>
    let r ← Wire.record? ["bounces"] data
    return bouncing (← r.field "bounces" Wire.nat32?)
  | ("Particle", some data) =>
    let r ← Wire.record? ["remaining_life", "soil"] data
    return particle (← r.field "remaining_life" Wire.nat32?) (← r.field "soil" Wire.bool?)
  | _ => Option.none

end Maneuver

namespace Guidance

/-- The wire form. -/
def toJson : Guidance → Json
  | armed kind => .object [("Armed", kind.toJson)]
  | locked kind correction => .object [("Locked", .object [
      ("kind", kind.toJson), ("correction", Wire.ofVec2 correction)])]

/-- Reads the wire form. -/
def ofJson? (v : Json) : Option Guidance := do
  match ← Wire.variant? v with
  | ("Armed", some data) => return armed (← GuidanceKind.ofJson? data)
  | ("Locked", some data) =>
    let r ← Wire.record? ["kind", "correction"] data
    return locked (← r.field "kind" GuidanceKind.ofJson?) (← r.field "correction" Wire.vec2?)
  | _ => none

end Guidance

namespace ProjectileSpec

/-- The fields of the wire form. -/
def fields : List String := ["position", "velocity", "weapon", "owner", "warhead", "state"]

/-- The wire form. -/
def toJson (s : ProjectileSpec) : Json := .object [
  ("position", Wire.ofVec2 s.position),
  ("velocity", Wire.ofVec2 s.velocity),
  ("weapon", .nat s.weapon),
  ("owner", .nat s.owner),
  ("warhead", s.warhead.toJson),
  ("state", s.maneuver.toJson)]

/-- Reads the wire form. -/
def ofJson? (v : Json) : Option ProjectileSpec := do
  let r ← Wire.record? fields v
  return {
    position := ← r.field "position" Wire.vec2?
    velocity := ← r.field "velocity" Wire.vec2?
    weapon := ← r.field "weapon" Wire.nat64?
    owner := ← r.field "owner" Wire.nat64?
    warhead := ← r.field "warhead" Warhead.ofJson?
    maneuver := ← r.field "state" Maneuver.ofJson? }

end ProjectileSpec

namespace Projectile

/-- The fields of the wire form. -/
def fields : List String :=
  ["position", "velocity", "weapon", "owner", "age", "trail", "active", "warhead", "state",
   "guidance"]

/-- The wire form with a given form of the trail. -/
def toJsonWith (trail : Json) (p : Projectile) : Json := .object [
  ("position", Wire.ofVec2 p.position),
  ("velocity", Wire.ofVec2 p.velocity),
  ("weapon", .nat p.weapon),
  ("owner", .nat p.owner),
  ("age", .nat p.age),
  ("trail", trail),
  ("active", .bool p.active),
  ("warhead", p.warhead.toJson),
  ("state", p.maneuver.toJson),
  ("guidance", .option Guidance.toJson p.guidance)]

/-- The wire form. -/
def toJson (p : Projectile) : Json := p.toJsonWith (.list Wire.ofPixel p.trail.toList)

/-- Reads the wire form. -/
def ofJson? (v : Json) : Option Projectile := do
  let r ← Wire.record? fields v
  return {
    position := ← r.field "position" Wire.vec2?
    velocity := ← r.field "velocity" Wire.vec2?
    weapon := ← r.field "weapon" Wire.nat64?
    owner := ← r.field "owner" Wire.nat64?
    age := ← r.field "age" Wire.nat32?
    trail := (← r.field "trail" (Wire.list? Wire.pixel?)).toArray
    active := ← r.field "active" Wire.bool?
    warhead := ← r.field "warhead" Warhead.ofJson?
    maneuver := ← r.field "state" Maneuver.ofJson?
    guidance := ← r.optional "guidance" Guidance.ofJson? }

end Projectile

end Artillery
