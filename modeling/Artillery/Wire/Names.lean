import Artillery.Wire.Basic
import Artillery.Config
import Artillery.Event

/-! # Names on the wire

The alternatives without data, each with the name it is written by. -/

namespace Artillery

namespace ShieldKind

/-- All kinds of shields. -/
def all : List ShieldKind := [none, standard, warp, teleport, force, heavy, flicker]

/-- The name of a kind. -/
def name : ShieldKind → String
  | none => "None"
  | standard => "Standard"
  | warp => "Warp"
  | teleport => "Teleport"
  | force => "Force"
  | heavy => "Heavy"
  | flicker => "Flicker"

/-- The wire form. -/
def toJson (k : ShieldKind) : Json := .string k.name

/-- Reads the wire form. -/
def ofJson? : Json → Option ShieldKind := Wire.choice? all name false

end ShieldKind

namespace GuidanceKind

/-- All kinds of guidance. -/
def all : List GuidanceKind := [horizontal, vertical, heat]

/-- The name of a kind. -/
def name : GuidanceKind → String
  | horizontal => "Horizontal"
  | vertical => "Vertical"
  | heat => "Heat"

/-- The wire form. -/
def toJson (k : GuidanceKind) : Json := .string k.name

/-- Reads the wire form, inside a tagged alternative or not. -/
def decode? (tagged : Bool) : Json → Option GuidanceKind := Wire.choice? all name tagged

/-- Reads the wire form. -/
def ofJson? : Json → Option GuidanceKind := decode? false

end GuidanceKind

namespace Behavior

/-- All behaviors. -/
def all : List Behavior :=
  [standard, tracer, roller, bounce, mirv, napalm, liquidDirt, dirtAdd, dirtTower, tunnel, plasma,
   riot, disrupter, dirtCharge, scatter, none]

/-- The name of a behavior. -/
def name : Behavior → String
  | standard => "Standard"
  | tracer => "Tracer"
  | roller => "Roller"
  | bounce => "Bounce"
  | mirv => "Mirv"
  | napalm => "Napalm"
  | liquidDirt => "LiquidDirt"
  | dirtAdd => "DirtAdd"
  | dirtTower => "DirtTower"
  | tunnel => "Tunnel"
  | plasma => "Plasma"
  | riot => "Riot"
  | disrupter => "Disrupter"
  | dirtCharge => "DirtCharge"
  | scatter => "Scatter"
  | none => "None"

/-- The wire form. -/
def toJson (b : Behavior) : Json := .string b.name

/-- Reads the wire form. -/
def ofJson? : Json → Option Behavior := Wire.choice? all name false

end Behavior

namespace Category

/-- All categories. -/
def all : List Category := [weapon, guidance, defense, accessory]

/-- The name of a category. -/
def name : Category → String
  | weapon => "Weapon"
  | guidance => "Guidance"
  | defense => "Defense"
  | accessory => "Accessory"

/-- The wire form. -/
def toJson (c : Category) : Json := .string c.name

/-- Reads the wire form. -/
def ofJson? : Json → Option Category := Wire.choice? all name false

end Category

namespace WallPolicy

/-- All policies. -/
def all : List WallPolicy := [concrete, wrap, rubber, spring, padded, none]

/-- The name of a policy. -/
def name : WallPolicy → String
  | concrete => "Concrete"
  | wrap => "Wrap"
  | rubber => "Rubber"
  | spring => "Spring"
  | padded => "Padded"
  | none => "None"

/-- The wire form. -/
def toJson (w : WallPolicy) : Json := .string w.name

/-- Reads the wire form. -/
def ofJson? : Json → Option WallPolicy := Wire.choice? all name false

end WallPolicy

namespace Land

/-- All kinds of land. -/
def all : List Land := [flat, slope, rolling, mountain, vShaped, castle]

/-- The name of a kind. -/
def name : Land → String
  | flat => "Flat"
  | slope => "Slope"
  | rolling => "Rolling"
  | mountain => "Mountain"
  | vShaped => "VShaped"
  | castle => "Castle"

/-- The wire form. -/
def toJson (l : Land) : Json := .string l.name

/-- Reads the wire form. -/
def ofJson? : Json → Option Land := Wire.choice? all name false

end Land

end Artillery
