import Artillery.Proofs.Json.Numeral
import Artillery.Json.Lexer
import Artillery.Json.Writer

/-! # The tokens of a value

What the writer puts down for a value is taken apart into the tokens of the value again.  A quoted
text ends with its second quote, whatever is in it, because quotes and backslashes are escaped.  A
word, such as a number, ends where something follows that cannot be part of it; the writer always
puts a comma or a bracket there.

## Key results

- `run_quoted`: a quoted text is read as one token, character by character (`run_escaped`)
- `run_ofWord`: so is a word that ends where it should
- `run_compact`: the text of a plain value is read as its tokens, whatever was before it
- `tokens?_render`: the same for a whole text
-/

namespace Artillery.Json

/-- Whether every part of a value can be written so that it is told from all others: there are no
floats, nothing is unreadable, and integers have 64 bits. -/
inductive Plain : Json → Prop
  | null : Plain null
  | bool (b : Bool) : Plain (bool b)
  | int {n : Int} (low : -0x8000000000000000 ≤ n) (high : n ≤ 0xffffffffffffffff) : Plain (int n)
  | string (s : String) : Plain (string s)
  | array {items : List Json} (all : ∀ v ∈ items, Plain v) : Plain (array items)
  | object {members : List (String × Json)} (all : ∀ m ∈ members, Plain m.2) :
    Plain (object members)

mutual

/-- The tokens of a value. -/
def tokens : Json → List Token
  | array items => .openArray :: (tokensOfItems items ++ [.closeArray])
  | object members => .openObject :: (tokensOfMembers members ++ [.closeObject])
  | string s => [.text (some s)]
  | v => [.scalar v]

/-- The tokens of items, with commas between them. -/
def tokensOfItems : List Json → List Token
  | [] => []
  | [v] => v.tokens
  | v :: w :: rest => v.tokens ++ .comma :: tokensOfItems (w :: rest)

/-- The tokens of members, with commas between them. -/
def tokensOfMembers : List (String × Json) → List Token
  | [] => []
  | [(key, v)] => .text (some key) :: .colon :: v.tokens
  | (key, v) :: m :: rest =>
    .text (some key) :: .colon :: (v.tokens ++ .comma :: tokensOfMembers (m :: rest))

end

namespace Lexer

variable {seen : List Token} {rest : List Char}

/-! ## Quoted text -/

/-- The piece that a character written inside quotes is read as. -/
def pieceOf (c : Char) : Piece :=
  if c.toNat < 0x20 ∧ c ∉ ['\n', '\r', '\t', '\x08', '\x0c'] then .unit c.toNat else .char c

/-- A hexadecimal digit is read back. -/
theorem hexDigit?_hexDigit : ∀ n < 16, hexDigit? (Writer.hexDigit n) = some n := by decide

/-- A unit that is no half of a pair is a character of its own. -/
theorem join_unit {n : Nat} (h : n < 0xD800) (ps : List Piece) :
    join (.unit n :: ps) = (Char.ofNat n :: ·) <$> join ps := by
  have hhigh : ¬(0xD800 ≤ n ∧ n < 0xDC00) := by omega
  have hlow : ¬(0xDC00 ≤ n ∧ n < 0xE000) := by omega
  have hpair : ¬(0xD800 ≤ n ∧ n < 0xE000) := by omega
  -- Before another unit it is asked first whether the two are a pair.
  cases ps with
  | nil => simp [join, hpair]
  | cons p ps =>
    cases p with
    | char c => simp [join, hpair]
    | unit m => simp [join, hhigh, hlow]

/-- The pieces of a text give back the text. -/
theorem join_pieces (cs : List Char) : join (cs.map pieceOf) = some cs := by
  induction cs with
  | nil => rfl
  | cons c cs ih =>
    rw [List.map_cons, pieceOf]
    split
    case isTrue h => rw [join_unit (by omega), ih, Char.ofNat_toNat]; rfl
    case isFalse => rw [join, ih]; rfl

/-- Inside quotes a character is read as it was written. -/
theorem run_escaped (c : Char) (ps : List Piece) :
    run (.text ps) seen (Writer.escaped c ++ rest) = run (.text (pieceOf c :: ps)) seen rest := by
  by_cases hshort : c ∈ ['"', '\\', '\n', '\r', '\t', '\x08', '\x0c']
  · -- The seven characters with a short escape are evaluated.
    simp only [List.mem_cons, List.not_mem_nil, or_false] at hshort
    obtain rfl | rfl | rfl | rfl | rfl | rfl | rfl := hshort <;> rfl
  · simp only [List.mem_cons, List.not_mem_nil, or_false, not_or] at hshort
    obtain ⟨hquote, hbackslash, hn, hr, ht, hb, hf⟩ := hshort
    by_cases hcontrol : c.toNat < 0x20
    · have hzero : hexDigit? '0' = some 0 := by decide
      have hhigh := hexDigit?_hexDigit (c.toNat / 16) (by omega)
      have hlow := hexDigit?_hexDigit (c.toNat % 16) (by omega)
      have hvalue : 16 * (c.toNat / 16) + c.toNat % 16 = c.toNat := by omega
      -- After two zeros the last two digits give the number of the character.
      simp [Writer.escaped, pieceOf, run, step, hquote, hbackslash, hn, hr, ht, hb, hf, hcontrol,
        hzero, hhigh, hlow, hvalue]
    · simp [Writer.escaped, pieceOf, run, step, hquote, hbackslash, hn, hr, ht, hb, hf, hcontrol]

/-- The escaped characters of a string become its pieces, one for each. -/
theorem run_flatMap_escaped (cs : List Char) (ps : List Piece) :
    run (.text ps) seen (cs.flatMap Writer.escaped ++ rest) =
      run (.text ((cs.map pieceOf).reverse ++ ps)) seen rest := by
  induction cs generalizing ps with
  | nil => rfl
  | cons c cs ih =>
    rw [List.flatMap_cons, List.append_assoc, run_escaped, ih]
    simp

/-- A text is read as it was quoted. -/
theorem run_quoted (s : String) :
    run .blank seen (Writer.quoted s ++ rest) = run .blank (.text (some s) :: seen) rest := by
  have htext : ofText (s.toList.map pieceOf) = .text (some s) := by
    rw [ofText, join_pieces]
    simp
  calc run .blank seen (Writer.quoted s ++ rest)
      = run (.text []) seen (s.toList.flatMap Writer.escaped ++ ('"' :: rest)) := by
        simp [Writer.quoted, run, step, start, isBlank]
    _ = run .blank (ofText (s.toList.map pieceOf) :: seen) rest := by
        rw [run_flatMap_escaped]
        simp [run, step]
    _ = run .blank (.text (some s) :: seen) rest := by rw [htext]

/-- A character that is a token of its own is read as that. -/
theorem run_mark {c : Char} {t : Token} (h : start c = (.blank, [t])) :
    run .blank seen (c :: rest) = run .blank (t :: seen) rest := by
  simp [run, step, h]

/-! ## Words -/

/-- Whether a word in front of the rest of a text ends there. -/
def Ends (rest : List Char) : Prop := ∀ c ∈ rest.head?, endsWord c

theorem ends_cons {c : Char} (h : endsWord c) : Ends (c :: rest) := by
  simpa [Ends] using h

/-- A word goes on until something ends it. -/
theorem run_word {cs : List Char} (h : ∀ c ∈ cs, endsWord c = false) (word : List Char) :
    run (.word word) seen (cs ++ rest) = run (.word (cs.reverse ++ word)) seen rest := by
  induction cs generalizing word with
  | nil => rfl
  | cons c cs ih =>
    rw [List.forall_mem_cons] at h
    rw [List.cons_append, run, step, h.1]
    simp [ih h.2]

/-- A word that is spelled out is a token when it ends. -/
theorem run_end {cs : List Char} {t : Token} (ht : ofWord? cs = some t) (hrest : Ends rest) :
    run (.word cs.reverse) seen rest = run .blank (t :: seen) rest := by
  cases rest with
  | nil => simp [run, finish, ht]
  | cons c rest =>
    have hc : endsWord c := hrest c rfl
    simp [run, step, hc, ht]

/-- A word is read as the token it stands for when it ends where it should. -/
theorem run_ofWord {cs : List Char} {t : Token} (ht : ofWord? cs = some t)
    (h : ∀ c ∈ cs, endsWord c = false) (hrest : Ends rest) :
    run .blank seen (cs ++ rest) = run .blank (t :: seen) rest := by
  cases cs with
  | nil => cases ht
  | cons c cs =>
    rw [List.forall_mem_cons] at h
    -- A character that ends no word starts one.
    have hstart : start c = (.word [c], []) := by
      have hc := h.1
      simp only [endsWord, Bool.or_eq_false_iff, decide_eq_false_iff_not,
        Option.isSome_eq_false_iff, Option.isNone_iff_eq_none] at hc
      obtain ⟨⟨hblank, hquote⟩, hpunctuation⟩ := hc
      simp [start, hblank, hquote, hpunctuation]
    calc run .blank seen (c :: cs ++ rest)
        = run (.word [c]) seen (cs ++ rest) := by simp [run, step, hstart]
      _ = run (.word (c :: cs).reverse) seen rest := by rw [run_word h.2, List.reverse_cons]
      _ = run .blank (t :: seen) rest := run_end ht hrest

/-- A digit does not end a word. -/
theorem endsWord_digit : ∀ n < 58, 48 ≤ n → endsWord (Char.ofNat n) = false := by decide

/-- No character of a numeral ends a word. -/
theorem endsWord_numeral {n : Int} : ∀ c ∈ (toString n).toList, endsWord c = false := by
  intro c hc
  obtain rfl | hdigit := Number.mem_toString hc
  · rfl
  · obtain ⟨hlow, hhigh⟩ := Char.isDigit_iff_toNat.1 hdigit
    rw [← Char.ofNat_toNat c]
    exact endsWord_digit _ (Nat.lt_succ_of_le hhigh) hlow

/-- A numeral is none of the three names, and stands for its number. -/
theorem ofWord?_numeral {n : Int} (hlow : -0x8000000000000000 ≤ n)
    (hhigh : n ≤ 0xffffffffffffffff) :
    ofWord? (toString n).toList = some (.scalar (.int n)) := by
  -- Each of the names has a letter, and a numeral has none.
  have hword {cs : List Char} {c : Char} (hc : c ∈ cs) (h : c ≠ '-' ∧ c.isDigit = false) :
      (toString n).toList ≠ cs := by
    rintro rfl
    obtain hminus | hdigit := Number.mem_toString hc
    · exact h.1 hminus
    · exact absurd hdigit (by simp [h.2])
  rw [ofWord?, if_neg (hword (c := 'n') (by decide) (by decide)),
    if_neg (hword (c := 't') (by decide) (by decide)),
    if_neg (hword (c := 'f') (by decide) (by decide)), Number.read?_toString hlow hhigh]
  rfl

/-! ## Values -/

/-- Whether the text of a value is read as its tokens wherever it stands. -/
def Spelled (v : Json) : Prop :=
  ∀ (seen : List Token) (rest : List Char), Ends rest →
    run .blank seen (Writer.compact v ++ rest) = run .blank (v.tokens.reverse ++ seen) rest

/-- The items of an array become their tokens, with a comma between any two. -/
theorem run_items {items : List Json} (h : ∀ v ∈ items, Spelled v) (hrest : Ends rest) :
    run .blank seen (Writer.compactItems items ++ rest) =
      run .blank ((tokensOfItems items).reverse ++ seen) rest := by
  induction items generalizing seen with
  | nil => rfl
  | cons v items ih =>
    rw [List.forall_mem_cons] at h
    cases items with
    | nil => exact h.1 seen rest hrest
    | cons w items =>
      -- The comma ends the item before it, so that a number cannot run on into the next one.
      rw [Writer.compactItems, List.append_assoc, List.cons_append, h.1 _ _ (ends_cons rfl),
        run_mark (t := .comma) rfl, ih h.2]
      simp [tokensOfItems]

/-- The members of an object become their tokens, each with its key and a colon. -/
theorem run_members {members : List (String × Json)} (h : ∀ m ∈ members, Spelled m.2)
    (hrest : Ends rest) :
    run .blank seen (Writer.compactMembers members ++ rest) =
      run .blank ((tokensOfMembers members).reverse ++ seen) rest := by
  induction members generalizing seen with
  | nil => rfl
  | cons m members ih =>
    obtain ⟨key, v⟩ := m
    rw [List.forall_mem_cons] at h
    cases members with
    | nil =>
      rw [Writer.compactMembers, List.append_assoc, List.cons_append, run_quoted,
        run_mark (t := .colon) rfl, h.1 _ _ hrest]
      simp [tokensOfMembers]
    | cons m members =>
      -- The comma ends the value of the first member before the key of the next one begins.
      rw [Writer.compactMembers, List.append_assoc, List.cons_append, List.append_assoc,
        List.cons_append, run_quoted, run_mark (t := .colon) rfl, h.1 _ _ (ends_cons rfl),
        run_mark (t := .comma) rfl, ih h.2]
      simp [tokensOfMembers]

/-- The text of a value is read as its tokens. -/
theorem run_compact {v : Json} (h : v.Plain) : Spelled v := by
  -- Along the value: in an array or object a comma or bracket follows each part.
  induction h with
  | null =>
    intro seen rest hrest
    rw [Writer.compact]
    exact run_ofWord rfl (by simp [endsWord, isBlank, punctuation?]) hrest
  | bool b =>
    intro seen rest hrest
    cases b <;>
    · rw [Writer.compact]
      exact run_ofWord rfl (by simp [endsWord, isBlank, punctuation?]) hrest
  | int low high =>
    intro seen rest hrest
    exact run_ofWord (ofWord?_numeral low high) endsWord_numeral hrest
  | string s => exact fun _ _ _ => run_quoted s
  | array _ ih =>
    intro seen rest _
    rw [Writer.compact, List.cons_append, List.append_assoc, run_mark (t := .openArray) rfl,
      List.singleton_append, run_items ih (ends_cons rfl), run_mark (t := .closeArray) rfl]
    simp [tokens]
  | object _ ih =>
    intro seen rest _
    rw [Writer.compact, List.cons_append, List.append_assoc, run_mark (t := .openObject) rfl,
      List.singleton_append, run_members ih (ends_cons rfl), run_mark (t := .closeObject) rfl]
    simp [tokens]

end Lexer

/-- What is written for a value has the tokens of the value. -/
theorem tokens?_render {v : Json} (h : v.Plain) : tokens? (render v) = some v.tokens := by
  have hrun := Lexer.run_compact h [] [] (by simp [Lexer.Ends])
  rw [List.append_nil] at hrun
  rw [tokens?, render, String.toList_ofList, hrun]
  simp [Lexer.run, Lexer.finish]

end Artillery.Json
