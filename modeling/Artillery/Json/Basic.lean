/-! # Values of the exchange format

Configurations, states and events are exchanged as JSON.  Besides the values of the format there is
`unreadable`: a part that is well formed but stands for nothing, such as a number too large for a
float or half of a surrogate pair.  It does no harm where nobody looks at it. -/

namespace Artillery

/-- A JSON value.  Members of an object keep their order and may repeat. -/
inductive Json where
  | null
  | bool (b : Bool)
  | int (n : Int)
  | real (x : Float)
  | string (s : String)
  | array (items : List Json)
  | object (members : List (String × Json))
  | unreadable

namespace Json

instance : Inhabited Json := ⟨null⟩

mutual

/-- Whether all parts of a value stand for something. -/
def isReadable : Json → Bool
  | array items => areReadable items
  | object members => membersReadable members
  | unreadable => false
  | _ => true

/-- Whether all items are readable. -/
def areReadable : List Json → Bool
  | [] => true
  | v :: rest => v.isReadable && areReadable rest

/-- Whether the values of all members are readable. -/
def membersReadable : List (String × Json) → Bool
  | [] => true
  | (_, v) :: rest => v.isReadable && membersReadable rest

end

mutual

/-- How many arrays and objects lie inside one another. -/
def depth : Json → Nat
  | array items => depthOfItems items + 1
  | object members => depthOfMembers members + 1
  | _ => 0

/-- The greatest depth among some items. -/
def depthOfItems : List Json → Nat
  | [] => 0
  | v :: rest => max v.depth (depthOfItems rest)

/-- The greatest depth among some members. -/
def depthOfMembers : List (String × Json) → Nat
  | [] => 0
  | (_, v) :: rest => max v.depth (depthOfMembers rest)

end

/-- A number that counts something. -/
def nat (n : Nat) : Json := int n

/-- A value, or null. -/
def option {α : Type} (encode : α → Json) : Option α → Json
  | some a => encode a
  | none => null

/-- The values of a list. -/
def list {α : Type} (encode : α → Json) (as : List α) : Json := array (as.map encode)

end Json

end Artillery
