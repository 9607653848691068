import Artillery.Json.Number

/-! # Tokens of the exchange format

A text is read character by character; the lexer keeps what it has seen of the present token.
Blanks are space, tab and the two line ends.  Inside quotes, control characters have to be
escaped. -/

namespace Artillery.Json

/-- A token.  A text with half of a surrogate pair in it is well formed but has no value. -/
inductive Token where
  | openArray
  | closeArray
  | openObject
  | closeObject
  | comma
  | colon
  | text (s : Option String)
  | scalar (v : Json)

namespace Lexer

/-- A piece of a quoted text: a character, or a 16-bit unit given by its number. -/
inductive Piece where
  | char (c : Char)
  | unit (n : Nat)

/-- Puts the pieces of a text together; two units that form a surrogate pair are one character. -/
def join : List Piece → Option (List Char)
  | [] => some []
  | .char c :: rest => (c :: ·) <$> join rest
  | .unit high :: .unit low :: rest =>
    -- A high unit has to be followed by a low one, and a low one cannot stand first.
    if 0xD800 ≤ high ∧ high < 0xDC00 then
      if 0xDC00 ≤ low ∧ low < 0xE000 then
        (Char.ofNat (0x10000 + (high - 0xD800) * 0x400 + (low - 0xDC00)) :: ·) <$> join rest
      else none
    else if 0xDC00 ≤ high ∧ high < 0xE000 then none
    else (Char.ofNat high :: ·) <$> join (.unit low :: rest)
  | .unit n :: rest =>
    if 0xD800 ≤ n ∧ n < 0xE000 then none else (Char.ofNat n :: ·) <$> join rest

/-- What the lexer has seen of the present token; characters are kept latest first. -/
inductive State where
  | blank
  | word (seen : List Char)
  | text (seen : List Piece)
  | escape (seen : List Piece)
  | unit (seen : List Piece) (digits value : Nat)

/-- The token of a word outside quotes. -/
def ofWord? (cs : List Char) : Option Token :=
  if cs = ['n', 'u', 'l', 'l'] then some (.scalar null)
  else if cs = ['t', 'r', 'u', 'e'] then some (.scalar (bool true))
  else if cs = ['f', 'a', 'l', 's', 'e'] then some (.scalar (bool false))
  else Token.scalar <$> Number.read? cs

/-- The token of a quoted text. -/
def ofText (pieces : List Piece) : Token := .text (String.ofList <$> join pieces)

/-- Whether a character only separates tokens. -/
def isBlank (c : Char) : Bool := c = ' ' ∨ c = '\t' ∨ c = '\n' ∨ c = '\r'

/-- The token that consists of one character. -/
def punctuation? (c : Char) : Option Token :=
  if c = '[' then some .openArray
  else if c = ']' then some .closeArray
  else if c = '\x7b' then some .openObject
  else if c = '\x7d' then some .closeObject
  else if c = ',' then some .comma
  else if c = ':' then some .colon
  else none

/-- The value of a hexadecimal digit. -/
def hexDigit? (c : Char) : Option Nat :=
  if '0' ≤ c ∧ c ≤ '9' then some (c.toNat - '0'.toNat)
  else if 'a' ≤ c ∧ c ≤ 'f' then some (c.toNat - 'a'.toNat + 10)
  else if 'A' ≤ c ∧ c ≤ 'F' then some (c.toNat - 'A'.toNat + 10)
  else none

/-- The character that a short escape stands for. -/
def shortEscape? (c : Char) : Option Char :=
  if c = '"' ∨ c = '\\' ∨ c = '/' then some c
  else if c = 'b' then some '\x08'
  else if c = 'f' then some '\x0c'
  else if c = 'n' then some '\n'
  else if c = 'r' then some '\r'
  else if c = 't' then some '\t'
  else none

/-- Reads a character between two tokens. -/
def start (c : Char) : State × List Token :=
  if isBlank c then (.blank, [])
  else if c = '"' then (.text [], [])
  else match punctuation? c with
    | some t => (.blank, [t])
    | none => (.word [c], [])

/-- Whether a character ends the word before it. -/
def endsWord (c : Char) : Bool := isBlank c || c = '"' || (punctuation? c).isSome

/-- Reads one character: the next state and the tokens that are complete now. -/
def step : State → Char → Option (State × List Token)
  | .blank, c => some (start c)
  | .word seen, c =>
    if endsWord c then do
      let t ← ofWord? seen.reverse
      let (state, ts) := start c
      return (state, t :: ts)
    else some (.word (c :: seen), [])
  | .text seen, c =>
    if c = '"' then some (.blank, [ofText seen.reverse])
    else if c = '\\' then some (.escape seen, [])
    else if c.toNat < 0x20 then none
    else some (.text (.char c :: seen), [])
  | .escape seen, c =>
    if c = 'u' then some (.unit seen 0 0, [])
    else (shortEscape? c).map fun e => (.text (.char e :: seen), [])
  | .unit seen digits value, c => do
    let d ← hexDigit? c
    let value := 16 * value + d
    return (if digits = 3 then .text (.unit value :: seen) else .unit seen (digits + 1) value, [])

/-- Ends the text: the tokens that are complete now. -/
def finish : State → Option (List Token)
  | .blank => some []
  | .word seen => (fun t => [t]) <$> ofWord? seen.reverse
  | _ => none

/-- The tokens of a text, from a state on; `seen` holds the tokens before it, latest first. -/
def run : State → (seen : List Token) → List Char → Option (List Token)
  | state, seen, [] => (finish state).map (seen.reverse ++ ·)
  | state, seen, c :: cs =>
    (step state c).bind fun (state, ts) => run state (ts.reverse ++ seen) cs

end Lexer

/-- The tokens of a text. -/
def tokens? (text : String) : Option (List Token) := Lexer.run .blank [] text.toList

end Artillery.Json
