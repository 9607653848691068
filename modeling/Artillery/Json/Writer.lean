import Artillery.Json.Basic
import Artillery.Decimal.Fixed

/-! # Writing the exchange format

Quotes, backslashes and control characters are escaped, everything else is written as it is.
Measured quantities are written as quoted text with six decimal places, so that they look the same
everywhere; infinities and NaN are written as null. -/

namespace Artillery.Json

namespace Writer

/-- The hexadecimal digit of a number below 16. -/
def hexDigit (n : Nat) : Char :=
  if n < 10 then Char.ofNat ('0'.toNat + n) else Char.ofNat ('a'.toNat + (n - 10))

/-- A character as it is written inside quotes. -/
def escaped (c : Char) : List Char :=
  if c = '"' then ['\\', '"']
  else if c = '\\' then ['\\', '\\']
  else if c = '\n' then ['\\', 'n']
  else if c = '\r' then ['\\', 'r']
  else if c = '\t' then ['\\', 't']
  else if c = '\x08' then ['\\', 'b']
  else if c = '\x0c' then ['\\', 'f']
  else if c.toNat < 0x20 then
    ['\\', 'u', '0', '0', hexDigit (c.toNat / 16), hexDigit (c.toNat % 16)]
  else [c]

/-- A text in quotes. -/
def quoted (s : String) : List Char := '"' :: (s.toList.flatMap escaped ++ ['"'])

/-- A measured quantity. -/
def measure (x : Float) : List Char :=
  match Decimal.fixed 6 x with
  | some s => quoted s
  | none => ['n', 'u', 'l', 'l']

mutual

/-- A value without blanks. -/
def compact : Json → List Char
  | .null => ['n', 'u', 'l', 'l']
  | .bool true => ['t', 'r', 'u', 'e']
  | .bool false => ['f', 'a', 'l', 's', 'e']
  | .int n => (toString n).toList
  | .real x => measure x
  | .string s => quoted s
  | .array items => '[' :: (compactItems items ++ [']'])
  | .object members => '\x7b' :: (compactMembers members ++ ['\x7d'])
  | .unreadable => ['n', 'u', 'l', 'l']

/-- Items with commas between them. -/
def compactItems : List Json → List Char
  | [] => []
  | [v] => compact v
  | v :: w :: rest => compact v ++ ',' :: compactItems (w :: rest)

/-- Members with commas between them. -/
def compactMembers : List (String × Json) → List Char
  | [] => []
  | [(key, v)] => quoted key ++ ':' :: compact v
  | (key, v) :: m :: rest => quoted key ++ ':' :: (compact v ++ ',' :: compactMembers (m :: rest))

end

/-- A new line, indented by two blanks for each level. -/
def newline (level : Nat) : List Char := '\n' :: List.replicate (2 * level) ' '

mutual

/-- A value with a line for each item and member. -/
def indented (level : Nat) : Json → List Char
  | .array (v :: rest) => '[' :: (indentedItems (level + 1) (v :: rest) ++ newline level ++ [']'])
  | .object (m :: rest) =>
    '\x7b' :: (indentedMembers (level + 1) (m :: rest) ++ newline level ++ ['\x7d'])
  | .array [] => ['[', ']']
  | .object [] => ['\x7b', '\x7d']
  | .null => compact .null
  | .bool b => compact (.bool b)
  | .int n => compact (.int n)
  | .real x => compact (.real x)
  | .string s => compact (.string s)
  | .unreadable => compact .unreadable

/-- Items on lines of their own. -/
def indentedItems (level : Nat) : List Json → List Char
  | [] => []
  | [v] => newline level ++ indented level v
  | v :: w :: rest => newline level ++ indented level v ++ ',' :: indentedItems level (w :: rest)

/-- Members on lines of their own. -/
def indentedMembers (level : Nat) : List (String × Json) → List Char
  | [] => []
  | [(key, v)] => newline level ++ quoted key ++ ':' :: ' ' :: indented level v
  | (key, v) :: m :: rest =>
    newline level ++ quoted key ++ ':' :: ' ' :: (indented level v ++
      ',' :: indentedMembers level (m :: rest))

end

end Writer

/-- The text of a value, without blanks. -/
def render (v : Json) : String := String.ofList (Writer.compact v)

/-- The text of a value for a human reader. -/
def pretty (v : Json) : String := String.ofList (Writer.indented 0 v)

end Artillery.Json
