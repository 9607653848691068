import Artillery.Wire.Projectile

/-! # Events and effects on the wire

Earthworks are tagged by `op` and events by `type`. -/

namespace Artillery

namespace FlightStatus

/-- The wire form. -/
def toJson : FlightStatus → Json
  | flying => .string "Flying"
  | hitTerrain => .string "HitTerrain"
  | hitTank actor => .object [("HitTank", .nat actor)]
  | hitWall => .string "HitWall"
  | offscreen => .string "Offscreen"

/-- Reads the wire form. -/
def ofJson? (v : Json) : Option FlightStatus := do
  match ← Wire.variant? v with
  | ("Flying", data) => if Wire.isBare false data then some flying else none
  | ("HitTerrain", data) => if Wire.isBare false data then some hitTerrain else none
  | ("HitTank", some data) => return hitTank (← Wire.nat64? data)
  | ("HitWall", data) => if Wire.isBare false data then some hitWall else none
  | ("Offscreen", data) => if Wire.isBare false data then some offscreen else none
  | _ => none

end FlightStatus

namespace Hit

/-- The wire form. -/
def toJson : Hit → Json
  | terrain => .string "Terrain"
  | tank actor => .object [("Tank", .nat actor)]
  | wall => .string "Wall"

/-- Reads the wire form, inside a tagged alternative or not. -/
def decode? (tagged : Bool) (v : Json) : Option Hit := do
  match ← Wire.variant? v with
  | ("Terrain", data) => if Wire.isBare tagged data then some terrain else none
  | ("Tank", some data) => return tank (← Wire.nat64? data)
  | ("Wall", data) => if Wire.isBare tagged data then some wall else none
  | _ => none

/-- Reads the wire form. -/
def ofJson? : Json → Option Hit := decode? false

end Hit

namespace Earthwork

/-- The names of the alternatives, in order. -/
def names : List String := ["None", "DirtAdd", "DirtTower", "Tunnel", "Disrupt"]

/-- The wire form. -/
def toJson : Earthwork → Json
  | none => .object [("op", .string "None")]
  | dirtAdd radius => .object [("op", .string "DirtAdd"), ("radius", .int radius)]
  | dirtTower height => .object [("op", .string "DirtTower"), ("height", .int height)]
  | tunnel depth down =>
    .object [("op", .string "Tunnel"), ("depth", .int depth), ("down", .bool down)]
  | disrupt radius => .object [("op", .string "Disrupt"), ("radius", .int radius)]

/-- The alternative with a name and its data. -/
def ofData? (name : String) (data : Json) : Option Earthwork := do
  match name with
  | "None" => if Wire.isEmpty data then some none else Option.none
  | "DirtAdd" =>
    let r ← Wire.record? ["radius"] data
    return dirtAdd (← r.field "radius" Wire.int32?)
  | "DirtTower" =>
    let r ← Wire.record? ["height"] data
    return dirtTower (← r.field "height" Wire.int32?)
  | "Tunnel" =>
    let r ← Wire.record? ["depth", "down"] data
    return tunnel (← r.field "depth" Wire.int32?) (← r.field "down" Wire.bool?)
  | "Disrupt" =>
    let r ← Wire.record? ["radius"] data
    return disrupt (← r.field "radius" Wire.int32?)
  | _ => Option.none

/-- Reads the wire form inside `outer` arrays and objects. -/
def decode? (outer : Nat) (v : Json) : Option Earthwork := do
  match ← Wire.tagged? "op" outer v with
  | (.string name, data) => ofData? name data
  | _ => Option.none

/-- Reads the wire form inside a tagged alternative, where the tag may also be the place of the name
in the list of names. -/
def decodeTagged? (v : Json) : Option Earthwork := do
  match ← Wire.tagged? "op" 0 v with
  | (.string name, data) => ofData? name data
  | (.int n, data) => if 0 ≤ n then ofData? (← names[n.toNat]?) data else Option.none
  | _ => Option.none

/-- Reads the wire form. -/
def ofJson? : Json → Option Earthwork := decode? 0

end Earthwork

namespace ImpactEffect

/-- The fields of the wire form. -/
def fields : List String :=
  ["explode", "radius", "spawn", "terrain_op", "skip_damage", "keep_alive", "earth_moving"]

/-- The wire form. -/
def toJson (e : ImpactEffect) : Json := .object [
  ("explode", .bool e.explode),
  ("radius", .int e.radius),
  ("spawn", .list ProjectileSpec.toJson e.spawn),
  ("terrain_op", e.earthwork.toJson),
  ("skip_damage", .bool e.skipDamage),
  ("keep_alive", .bool e.keepAlive),
  ("earth_moving", .bool e.earthMoving)]

/-- Reads the wire form. -/
def ofJson? (v : Json) : Option ImpactEffect := do
  let r ← Wire.record? fields v
  return {
    explode := ← r.field "explode" Wire.bool?
    radius := ← r.field "radius" Wire.int32?
    spawn := ← r.field "spawn" (Wire.list? ProjectileSpec.ofJson?)
    earthwork := ← r.field "terrain_op" (Earthwork.decode? 1)
    skipDamage := ← r.field "skip_damage" Wire.bool?
    keepAlive := ← r.field "keep_alive" Wire.bool?
    earthMoving := ← r.field "earth_moving" Wire.bool? }

end ImpactEffect

namespace FlightEffect

/-- The fields of the wire form. -/
def fields : List String := ["split", "spawn", "remove", "explode_here", "terrain_op"]

/-- The wire form. -/
def toJson (e : FlightEffect) : Json := .object [
  ("split", .bool e.split),
  ("spawn", .list ProjectileSpec.toJson e.spawn),
  ("remove", .bool e.remove),
  ("explode_here", .option .int e.explodeHere),
  ("terrain_op", e.earthwork.toJson)]

/-- Reads the wire form. -/
def ofJson? (v : Json) : Option FlightEffect := do
  let r ← Wire.record? fields v
  return {
    split := ← r.field "split" Wire.bool?
    spawn := ← r.field "spawn" (Wire.list? ProjectileSpec.ofJson?)
    remove := ← r.field "remove" Wire.bool?
    explodeHere := ← r.optional "explode_here" Wire.int32?
    earthwork := ← r.field "terrain_op" (Earthwork.decode? 1) }

end FlightEffect

namespace Event

/-- The wire form. -/
def toJson : Event → Json
  | launched owner weapon guidance => .object [
      ("type", .string "Launched"), ("owner", .nat owner), ("weapon", .nat weapon),
      ("guidance", .option GuidanceKind.toJson guidance)]
  | impact x y hit => .object [
      ("type", .string "Impact"), ("x", .int x), ("y", .int y), ("hit", hit.toJson)]
  | explosion x y radius attacker => .object [
      ("type", .string "Explosion"), ("x", .int x), ("y", .int y), ("radius", .int radius),
      ("attacker", .nat attacker)]
  | terrainChanged x y work => .object [
      ("type", .string "TerrainChanged"), ("x", .int x), ("y", .int y), ("op", work.toJson)]
  | spawned weapon count => .object [
      ("type", .string "Spawned"), ("weapon", .nat weapon), ("count", .nat count)]
  | guidanceLocked owner kind => .object [
      ("type", .string "GuidanceLocked"), ("owner", .nat owner), ("kind", kind.toJson)]
  | shieldDeflected actor => .object [
      ("type", .string "ShieldDeflected"), ("actor", .nat actor)]
  | shieldDepleted actor => .object [
      ("type", .string "ShieldDepleted"), ("actor", .nat actor)]
  | actorDamaged actor damage absorbed => .object [
      ("type", .string "ActorDamaged"), ("actor", .nat actor), ("damage", .int damage),
      ("absorbed", .int absorbed)]
  | actorKilled actor attacker => .object [
      ("type", .string "ActorKilled"), ("actor", .nat actor), ("attacker", .nat attacker)]
  | actorLanded actor distance damage parachute => .object [
      ("type", .string "ActorLanded"), ("actor", .nat actor), ("distance", .int distance),
      ("damage", .int damage), ("parachute", .bool parachute)]
  | windChanged wind => .object [("type", .string "WindChanged"), ("wind", .real wind)]

/-- The alternative with a name and its data. -/
def ofData? (name : String) (data : Json) : Option Event := do
  match name with
  | "Launched" =>
    let r ← Wire.record? ["owner", "weapon", "guidance"] data
    return launched (← r.field "owner" Wire.nat64?) (← r.field "weapon" Wire.nat64?)
      (← r.optional "guidance" (GuidanceKind.decode? true))
  | "Impact" =>
    let r ← Wire.record? ["x", "y", "hit"] data
    return impact (← r.field "x" Wire.int32?) (← r.field "y" Wire.int32?)
      (← r.field "hit" (Hit.decode? true))
  | "Explosion" =>
    let r ← Wire.record? ["x", "y", "radius", "attacker"] data
    return explosion (← r.field "x" Wire.int32?) (← r.field "y" Wire.int32?)
      (← r.field "radius" Wire.int32?) (← r.field "attacker" Wire.nat64?)
  | "TerrainChanged" =>
    let r ← Wire.record? ["x", "y", "op"] data
    return terrainChanged (← r.field "x" Wire.int32?) (← r.field "y" Wire.int32?)
      (← r.field "op" Earthwork.decodeTagged?)
  | "Spawned" =>
    let r ← Wire.record? ["weapon", "count"] data
    return spawned (← r.field "weapon" Wire.nat64?) (← r.field "count" Wire.nat64?)
  | "GuidanceLocked" =>
    let r ← Wire.record? ["owner", "kind"] data
    return guidanceLocked (← r.field "owner" Wire.nat64?)
      (← r.field "kind" (GuidanceKind.decode? true))
  | "ShieldDeflected" =>
    let r ← Wire.record? ["actor"] data
    return shieldDeflected (← r.field "actor" Wire.nat64?)
  | "ShieldDepleted" =>
    let r ← Wire.record? ["actor"] data
    return shieldDepleted (← r.field "actor" Wire.nat64?)
  | "ActorDamaged" =>
    let r ← Wire.record? ["actor", "damage", "absorbed"] data
    return actorDamaged (← r.field "actor" Wire.nat64?) (← r.field "damage" Wire.int32?)
      (← r.field "absorbed" Wire.int32?)
  | "ActorKilled" =>
    let r ← Wire.record? ["actor", "attacker"] data
    return actorKilled (← r.field "actor" Wire.nat64?) (← r.field "attacker" Wire.nat64?)
  | "ActorLanded" =>
    let r ← Wire.record? ["actor", "distance", "damage", "parachute"] data
    return actorLanded (← r.field "actor" Wire.nat64?) (← r.field "distance" Wire.int32?)
      (← r.field "damage" Wire.int32?) (← r.field "parachute" Wire.bool?)
  | "WindChanged" =>
    let r ← Wire.record? ["wind"] data
    return windChanged (← r.field "wind" Wire.float?)
  | _ => none

/-- Reads the wire form. -/
def ofJson? (v : Json) : Option Event := do
  match ← Wire.tagged? "type" 0 v with
  | (.string name, data) => ofData? name data
  | _ => none

end Event

end Artillery
