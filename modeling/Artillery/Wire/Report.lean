import Artillery.Wire.Actor
import Artillery.Battle

/-! # Reports, animations and the clock on the wire -/

namespace Artillery

namespace ActorHit

/-- The wire form. -/
def toJson (h : ActorHit) : Json := .object [
  ("actor", .nat h.actor),
  ("damage", .int h.damage),
  ("absorbed", .int h.absorbed),
  ("shield_depleted", .bool h.shieldDepleted)]

/-- Reads the wire form. -/
def ofJson? (v : Json) : Option ActorHit := do
  let r ← Wire.record? ["actor", "damage", "absorbed", "shield_depleted"] v
  return {
    actor := ← r.field "actor" Wire.nat64?
    damage := ← r.field "damage" Wire.int32?
    absorbed := ← r.field "absorbed" Wire.int32?
    shieldDepleted := ← r.field "shield_depleted" Wire.bool? }

end ActorHit

namespace DamageReport

/-- The wire form. -/
def toJson (r : DamageReport) : Json := .object [
  ("hits", .list ActorHit.toJson r.hits),
  ("deaths", .list .nat r.deaths)]

/-- Reads the wire form. -/
def ofJson? (v : Json) : Option DamageReport := do
  let r ← Wire.record? ["hits", "deaths"] v
  return {
    hits := ← r.field "hits" (Wire.list? ActorHit.ofJson?)
    deaths := ← r.field "deaths" (Wire.list? Wire.nat64?) }

end DamageReport

namespace Animation

/-- The members of the wire form. -/
def members (a : Animation) : List (String × Json) := [
  ("center", Wire.ofPixel a.center),
  ("radius", .int a.radius),
  ("frame", .nat a.frame),
  ("total_frames", .nat a.totalFrames)]

/-- The wire form. -/
def toJson (a : Animation) : Json := .object a.members

/-- Reads the wire form. -/
def ofJson? (v : Json) : Option Animation := do
  let r ← Wire.record? ["center", "radius", "frame", "total_frames"] v
  return {
    center := ← r.field "center" Wire.pixel?
    radius := ← r.field "radius" Wire.int32?
    frame := ← r.field "frame" Wire.nat32?
    totalFrames := ← r.field "total_frames" Wire.nat32? }

end Animation

namespace ExplosionQueue

/-- The wire form. -/
def toJson (q : ExplosionQueue) : Json := .object [
  ("active", .option Animation.toJson q.active),
  ("pending", .list Animation.toJson q.pending)]

/-- Reads the wire form. -/
def ofJson? (v : Json) : Option ExplosionQueue := do
  let r ← Wire.record? ["active", "pending"] v
  return {
    active := ← r.optional "active" Animation.ofJson?
    pending := ← r.field "pending" (Wire.list? Animation.ofJson?) }

end ExplosionQueue

namespace Clock

/-- The wire form. -/
def toJson (c : Clock) : Json := .object [
  ("frame", .nat c.frame),
  ("step", .nat c.step),
  ("elapsed_secs", .real c.elapsed)]

/-- Reads the wire form. -/
def ofJson? (v : Json) : Option Clock := do
  let r ← Wire.record? ["frame", "step", "elapsed_secs"] v
  return {
    frame := ← r.field "frame" Wire.nat64?
    step := ← r.field "step" Wire.nat64?
    elapsed := ← r.field "elapsed_secs" Wire.float? }

end Clock

end Artillery
