import Artillery.Wire.Names
import Artillery.Json.Reader

/-! # Configurations on the wire

A configuration may leave out any of its fields, which then keep their usual values. -/

namespace Artillery.Config

/-- The fields of the wire form. -/
def fields : List String :=
  ["seed", "screen_width", "screen_height", "wind", "max_wind", "change_wind", "wall", "viscosity",
   "gravity", "explosion_scale", "particle_damping", "self_damage", "steps_per_frame",
   "falling_actors", "land_type", "land_bumpiness"]

/-- The members of the wire form. -/
def members (c : Config) : List (String × Json) := [
  ("seed", .nat c.seed.toNat),
  ("screen_width", .nat c.screenWidth),
  ("screen_height", .nat c.screenHeight),
  ("wind", .real c.wind),
  ("max_wind", .real c.maxWind),
  ("change_wind", .bool c.changeWind),
  ("wall", c.wall.toJson),
  ("viscosity", .real c.viscosity),
  ("gravity", .real c.gravity),
  ("explosion_scale", .real c.explosionScale),
  ("particle_damping", .real c.particleDamping),
  ("self_damage", .bool c.selfDamage),
  ("steps_per_frame", .nat c.stepsPerFrame),
  ("falling_actors", .bool c.fallingActors),
  ("land_type", c.land.toJson),
  ("land_bumpiness", .nat c.landBumpiness)]

/-- The wire form. -/
def toJson (c : Config) : Json := .object c.members

/-- A configuration from the fields that are given; measured quantities are read by `float?`. -/
def ofRecord? (float? : Json → Option Float) (r : Wire.Record) : Option Config := do
  let c : Config := {}
  return {
    seed := UInt64.ofNat (← r.fieldOr "seed" c.seed.toNat Wire.nat64?)
    screenWidth := ← r.fieldOr "screen_width" c.screenWidth Wire.nat64?
    screenHeight := ← r.fieldOr "screen_height" c.screenHeight Wire.nat64?
    wind := ← r.fieldOr "wind" c.wind float?
    maxWind := ← r.fieldOr "max_wind" c.maxWind float?
    changeWind := ← r.fieldOr "change_wind" c.changeWind Wire.bool?
    wall := ← r.fieldOr "wall" c.wall WallPolicy.ofJson?
    viscosity := ← r.fieldOr "viscosity" c.viscosity float?
    gravity := ← r.fieldOr "gravity" c.gravity float?
    explosionScale := ← r.fieldOr "explosion_scale" c.explosionScale float?
    particleDamping := ← r.fieldOr "particle_damping" c.particleDamping float?
    selfDamage := ← r.fieldOr "self_damage" c.selfDamage Wire.bool?
    stepsPerFrame := ← r.fieldOr "steps_per_frame" c.stepsPerFrame Wire.nat32?
    fallingActors := ← r.fieldOr "falling_actors" c.fallingActors Wire.bool?
    land := ← r.fieldOr "land_type" c.land Land.ofJson?
    landBumpiness := ← r.fieldOr "land_bumpiness" c.landBumpiness Wire.nat32? }

/-- Reads the wire form. -/
def ofJson? (v : Json) : Option Config :=
  (Wire.partial? fields v).bind (ofRecord? Wire.float?)

/-- Reads a configuration from text and checks it. -/
def parse (text : String) : Except ConfigError Config :=
  match (Json.parse? text).bind ofJson? with
  | some c => do
    c.validate
    return c
  | none => .error .parse

/-- Reads a configuration from the bytes of a file, none if there is no such file. -/
def load (bytes : Option ByteArray) : Except ConfigError Config :=
  match bytes.bind String.fromUTF8? with
  | some text => parse text
  | none => .error .io

end Artillery.Config
