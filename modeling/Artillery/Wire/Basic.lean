import Artillery.Json.Basic
import Artillery.Plane

/-! # The wire form of plain data

How numbers, texts, records and alternatives are told apart in a JSON value.

* A record is an object with a member for each field; other members are passed over, but no field
  may come twice.  It can also be an array with a value for each field, in order.
* An alternative without data is its name.  One with data is an object whose only member has that
  name.
* A tagged alternative is an object with a member that gives the name, next to its fields; or an
  array that starts with the name. -/

namespace Artillery.Wire

/-- A truth value. -/
def bool? : Json → Option Bool
  | .bool b => some b
  | _ => none

/-- A text. -/
def string? : Json → Option String
  | .string s => some s
  | _ => none

/-- An integer from `lo` to `hi`. -/
def intWithin? (lo hi : Int) : Json → Option Int
  | .int n => if lo ≤ n ∧ n ≤ hi then some n else none
  | _ => none

/-- An integer of 32 bits. -/
def int32? : Json → Option Int := intWithin? (-0x80000000) 0x7fffffff

/-- A natural number of 32 bits. -/
def nat32? (v : Json) : Option Nat := (intWithin? 0 0xffffffff v).map Int.toNat

/-- A natural number of 64 bits. -/
def nat64? (v : Json) : Option Nat := (intWithin? 0 0xffffffffffffffff v).map Int.toNat

/-- A float; integers count as well. -/
def float? : Json → Option Float
  | .real x => some x
  | .int n =>
    let magnitude := (UInt64.ofNat n.natAbs).toFloat
    some (if n < 0 then -magnitude else magnitude)
  | _ => none

/-- A list. -/
def list? {α : Type} (decode : Json → Option α) : Json → Option (List α)
  | .array items => items.mapM decode
  | _ => none

/-- A value, or null for none. -/
def option? {α : Type} (decode : Json → Option α) : Json → Option (Option α)
  | .null => some none
  | v => (decode v).map some

/-- A record: the values of its fields by name. -/
abbrev Record := List (String × Json)

/-- The members of an object that are fields, if none of them comes twice. -/
def fields? (names : List String) (members : List (String × Json)) : Option Record :=
  let known := members.filter fun m => names.contains m.1
  if (known.map Prod.fst).Nodup then some known else none

/-- A record with the given fields. -/
def record? (names : List String) : Json → Option Record
  | .object members => fields? names members
  | .array items => if items.length = names.length then some (names.zip items) else none
  | _ => none

/-- A record that may leave out fields: members of an object, or the end of an array. -/
def partial? (names : List String) : Json → Option Record
  | .object members => fields? names members
  | .array items => if items.length ≤ names.length then some (names.zip items) else none
  | _ => none

namespace Record

/-- A field that has to be there. -/
def field {α : Type} (r : Record) (name : String) (decode : Json → Option α) : Option α :=
  (r.lookup name).bind decode

/-- A field that is none where it is left out. -/
def optional {α : Type} (r : Record) (name : String) (decode : Json → Option α) :
    Option (Option α) :=
  match r.lookup name with
  | some v => option? decode v
  | none => some none

/-- A field that keeps a given value where it is left out. -/
def fieldOr {α : Type} (r : Record) (name : String) (default : α) (decode : Json → Option α) :
    Option α :=
  match r.lookup name with
  | some v => decode v
  | none => some default

end Record

/-- An alternative: its name and, where it is not the name alone, its data. -/
def variant? : Json → Option (String × Option Json)
  | .string name => some (name, none)
  | .object [(name, data)] => some (name, some data)
  | _ => none

/-- Whether an alternative without data is written properly: by its name, or with null.  Inside a
tagged alternative an empty object does as well. -/
def isBare (tagged : Bool) : Option Json → Bool
  | none => true
  | some .null => true
  | some (.object []) => tagged
  | some _ => false

/-- One of some alternatives without data. -/
def choice? {α : Type} (all : List α) (name : α → String) (tagged : Bool) (v : Json) :
    Option α := do
  let (given, data) ← variant? v
  if isBare tagged data then all.find? (name · == given) else none

/-- How deep arrays and objects may lie inside one another where a tagged alternative is read. -/
def depthLimit : Nat := 127

/-- A tagged alternative that lies inside `outer` arrays and objects: its tag and its data.  The
whole of it has to be readable, even what is passed over. -/
def tagged? (tag : String) (outer : Nat) (v : Json) : Option (Json × Json) :=
  if v.isReadable ∧ v.depth + outer ≤ depthLimit then
    match v with
    | .object members =>
      -- The tag may stand anywhere, but only once.
      match members.filter (·.1 == tag) with
      | [(_, name)] => some (name, .object (members.filter (·.1 != tag)))
      | _ => none
    | .array (name :: rest) => some (name, .array rest)
    | _ => none
  else none

/-- The data of a tagged alternative without fields. -/
def isEmpty : Json → Bool
  | .object _ => true
  | .array [] => true
  | _ => false

/-- A vector: its two components. -/
def vec2? : Json → Option Vec2
  | .array [x, y] => do return ⟨← float? x, ← float? y⟩
  | _ => none

/-- The wire form of a vector. -/
def ofVec2 (v : Vec2) : Json := .array [.real v.x, .real v.y]

/-- A pixel: its column and its row. -/
def pixel? : Json → Option Pixel
  | .array [x, y] => do return ⟨← int32? x, ← int32? y⟩
  | _ => none

/-- The wire form of a pixel. -/
def ofPixel (p : Pixel) : Json := .array [.int p.x, .int p.y]

end Artillery.Wire
