import Artillery.Wire.Names

/-! # Weapons on the wire -/

namespace Artillery

namespace Weapon

/-- The fields of the wire form. -/
def fields : List String := ["name", "behavior", "param", "category"]

/-- The members of the wire form. -/
def members (w : Weapon) : List (String × Json) := [
  ("name", .string w.name),
  ("behavior", w.behavior.toJson),
  ("param", .int w.param),
  ("category", w.category.toJson)]

/-- The wire form. -/
def toJson (w : Weapon) : Json := .object w.members

/-- Reads the wire form. -/
def ofJson? (v : Json) : Option Weapon := do
  let r ← Wire.record? fields v
  return {
    name := ← r.field "name" Wire.string?
    behavior := ← r.field "behavior" Behavior.ofJson?
    param := ← r.field "param" Wire.int32?
    category := ← r.field "category" Category.ofJson? }

end Weapon

namespace Arsenal

/-- The wire form. -/
def toJson (a : Arsenal) : Json := .object [("weapons", .list Weapon.toJson a.weapons)]

/-- Reads the wire form. -/
def ofJson? (v : Json) : Option Arsenal := do
  let r ← Wire.record? ["weapons"] v
  return ⟨← r.field "weapons" (Wire.list? Weapon.ofJson?)⟩

end Arsenal

end Artillery
