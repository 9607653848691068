import Artillery.Json.Lexer

/-! # Reading the exchange format

The reader takes one token after another and keeps the arrays and objects that are still open.  The
format is read strictly: no trailing commas, one value, nothing after it. -/

namespace Artillery.Json

namespace Reader

/-- An array or object that waits for a value; what it has already is kept latest first. -/
inductive Frame where
  | array (items : List Json)
  | member (members : List (Option String × Json)) (key : Option String)

/-- What may come next.  A bracket can be closed at once after it has been opened, but not after a
comma. -/
inductive State where
  | value (closable : Bool) (stack : List Frame)
  | key (closable : Bool) (members : List (Option String × Json)) (stack : List Frame)
  | colon (members : List (Option String × Json)) (key : Option String) (stack : List Frame)
  | moreItems (items : List Json) (stack : List Frame)
  | moreMembers (members : List (Option String × Json)) (stack : List Frame)
  | finished (v : Json)

/-- Hands a complete value to whatever waits for it. -/
def deliver (v : Json) : List Frame → State
  | [] => .finished v
  | .array items :: stack => .moreItems (v :: items) stack
  | .member members key :: stack => .moreMembers ((key, v) :: members) stack

/-- The object with some members; it is unreadable when one of its keys is. -/
def objectOf (members : List (Option String × Json)) : Json :=
  match members.mapM fun (key, v) => key.map (·, v) with
  | some members => .object members
  | none => .unreadable

/-- Reads one token. -/
def step : State → Token → Option State
  | .value _ stack, .openArray => some (.value true (.array [] :: stack))
  | .value _ stack, .openObject => some (.key true [] stack)
  | .value _ stack, .scalar v => some (deliver v stack)
  | .value _ stack, .text (some s) => some (deliver (.string s) stack)
  | .value _ stack, .text none => some (deliver .unreadable stack)
  | .value true (.array [] :: stack), .closeArray => some (deliver (.array []) stack)
  | .key _ members stack, .text key => some (.colon members key stack)
  | .key true [] stack, .closeObject => some (deliver (.object []) stack)
  | .colon members key stack, .colon => some (.value false (.member members key :: stack))
  | .moreItems items stack, .comma => some (.value false (.array items :: stack))
  | .moreItems items stack, .closeArray => some (deliver (.array items.reverse) stack)
  | .moreMembers members stack, .comma => some (.key false members stack)
  | .moreMembers members stack, .closeObject => some (deliver (objectOf members.reverse) stack)
  | _, _ => none

/-- Reads tokens to their end, where exactly one value has to be complete. -/
def run : State → List Token → Option Json
  | .finished v, [] => some v
  | _, [] => none
  | state, t :: ts => (step state t).bind (run · ts)

end Reader

/-- The value that a text stands for. -/
def parse? (text : String) : Option Json :=
  (tokens? text).bind (Reader.run (.value false []))

end Artillery.Json
