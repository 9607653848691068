import Artillery.Json.Number

/-! # Numerals

An integer is written with its decimal digits, of which the first is zero for zero alone.  The
reader takes them back one by one, and as long as the number fits into 64 bits it has room for all
of them.

## Key results

- `digits_numeral`: the digits of a numeral are read to its end
- `collect_numeral`: they are put together to the number they stand for
- `head?_toDigits`: only zero has a zero in front
- `read?_toString`: an integer of 64 bits is read as it was written
-/

namespace Artillery.Json.Number

/-- The value of a decimal digit. -/
def digitValue (c : Char) : Nat := c.toNat - '0'.toNat

/-- A digit is read as its value. -/
theorem digit?_of_isDigit {c : Char} (h : c.isDigit) : digit? c = some (digitValue c) := by
  rw [Char.isDigit, Bool.and_eq_true, decide_eq_true_eq, decide_eq_true_eq] at h
  exact if_pos h

/-- A numeral is read up to its end. -/
theorem digits_numeral {cs : List Char} (h : ∀ c ∈ cs, c.isDigit) :
    digits cs = (cs.map digitValue, []) := by
  induction cs with
  | nil => rfl
  | cons c cs ih =>
    rw [List.forall_mem_cons] at h
    simp [digits, digit?_of_isDigit h.1, ih h.2]

/-- More digits make a number no smaller. -/
theorem le_ofDigitChars (cs : List Char) (n : Nat) : n ≤ Nat.ofDigitChars 10 cs n := by
  induction cs generalizing n with
  | nil => simp
  | cons c cs ih =>
    rw [Nat.ofDigitChars_cons]
    have hrest := ih (10 * n + (c.toNat - '0'.toNat))
    omega

/-- Digits are collected without loss when the number they stand for is within the limit. -/
theorem collect_numeral {cs : List Char} {limit n : Nat}
    (h : Nat.ofDigitChars 10 cs n ≤ limit) :
    collect limit (cs.map digitValue) n = (Nat.ofDigitChars 10 cs n, 0) := by
  induction cs generalizing n with
  | nil => simp [collect]
  | cons c cs ih =>
    rw [Nat.ofDigitChars_cons] at h ⊢
    -- What has been collected only grows, so it is within the limit all the way.
    have hle := le_ofDigitChars cs (10 * n + (c.toNat - '0'.toNat))
    have hroom : ¬limit < 10 * n + digitValue c := by unfold digitValue; omega
    rw [List.map_cons, collect, if_neg hroom]
    exact ih h

/-- A natural number is written in digits. -/
theorem isDigit_toDigits (n : Nat) : ∀ c ∈ Nat.toDigits 10 n, c.isDigit :=
  fun _ => Nat.isDigit_of_mem_toDigits (by decide) (by decide)

/-- Only zero is written with a zero in front. -/
theorem head?_toDigits {n : Nat} (h : n ≠ 0) : (Nat.toDigits 10 n).head? ≠ some '0' := by
  induction n using Nat.strongRecOn with
  | ind n ih =>
    rw [Nat.toDigits_eq_if (by decide)]
    split
    · simpa using h
    · -- The first digit is that of the number without its last one.
      rw [List.head?_append, Option.or_of_isSome (by simp)]
      exact ih (n / 10) (by omega) (by omega)

/-- No numeral starts with a zero that it could do without. -/
theorem head?_digitValues (n : Nat) :
    ((Nat.toDigits 10 n).map digitValue).head? ≠ some 0 ∨
      ((Nat.toDigits 10 n).map digitValue).length = 1 := by
  by_cases h : n = 0
  · subst h
    exact .inr rfl
  · refine .inl fun hzero => head?_toDigits h ?_
    obtain ⟨c, hc, hvalue⟩ := Option.map_eq_some_iff.1 (List.head?_map.symm.trans hzero)
    have hdigit := isDigit_toDigits n c (List.mem_of_head? hc)
    rw [Char.isDigit_iff_toNat] at hdigit
    unfold digitValue at hvalue
    have hnat : c.toNat = '0'.toNat := by omega
    rw [hc, Char.toNat_inj.1 hnat]

/-- An integer is written with digits and a sign. -/
theorem mem_toString {n : Int} {c : Char} (h : c ∈ (toString n).toList) :
    c = '-' ∨ c.isDigit := by
  change c ∈ n.repr.toList at h
  rw [Int.repr_eq_if] at h
  split at h
  · rw [Nat.toList_repr] at h
    exact .inr (isDigit_toDigits _ c h)
  · rw [String.toList_append, Nat.toList_repr, List.mem_append] at h
    exact h.imp List.mem_singleton.1 (isDigit_toDigits _ c)

/-- Digits without a needless zero in front are a whole number, with a sign or without. -/
theorem parts?_whole {cs : List Char} {ds : List Nat} (hdigits : digits cs = (ds, []))
    (hne : ds ≠ []) (hhead : ds.head? ≠ some 0 ∨ ds.length = 1) :
    parts? ('-' :: cs) = some ⟨true, ds, [], false, []⟩ ∧
      (cs.head? ≠ some '-' → parts? cs = some ⟨false, ds, [], false, []⟩) := by
  have hpass {p : Prop} [Decidable p] (h : p) : (guard p : Option Unit) = some () := if_pos h
  constructor
  · unfold parts?
    split
    case h_1 negative whole hsplit =>
      obtain ⟨rfl, rfl⟩ : true = negative ∧ cs = whole := Prod.mk.inj hsplit
      rw [hdigits]
      dsimp only
      rw [hpass hne, hpass hhead]
      rfl
  · intro hsign
    unfold parts?
    split
    case h_1 negative whole hsplit =>
      -- Without the sign the whole text is left to the digits.
      have hplain : (false, cs) = (negative, whole) := by
        rw [← hsplit]
        split
        case h_1 => exact absurd rfl hsign
        case h_2 => rfl
      obtain ⟨rfl, rfl⟩ := Prod.mk.inj hplain
      rw [hdigits]
      dsimp only
      rw [hpass hne, hpass hhead]
      rfl

/-- An integer of 64 bits, signed or not, is read as it was written. -/
theorem read?_toString {n : Int} (hlow : -0x8000000000000000 ≤ n)
    (hhigh : n ≤ 0xffffffffffffffff) : read? (toString n).toList = some (.int n) := by
  obtain ⟨m, hm⟩ : ∃ m, n.natAbs = m := ⟨_, rfl⟩
  have hparts := parts?_whole (digits_numeral (isDigit_toDigits m)) (by simp) (head?_digitValues m)
  have hvalue : Nat.ofDigitChars 10 (Nat.toDigits 10 m) 0 = m := Nat.ofDigitChars_ten_toDigits
  have hcollect : collect largest ((Nat.toDigits 10 m).map digitValue) 0 = (m, 0) := by
    rw [collect_numeral (by rw [hvalue, largest]; omega), hvalue]
  show read? n.repr.toList = _
  rw [Int.repr_eq_if]
  split
  case isTrue hn =>
    have hsign : (Nat.toDigits 10 m).head? ≠ some '-' := fun h =>
      absurd (isDigit_toDigits m '-' (List.mem_of_head? h)) (by decide)
    have hnat : n.toNat = m := by omega
    have hint : (m : Int) = n := by omega
    rw [hnat, Nat.toList_repr, read?, hparts.2 hsign, Option.map_some, value, hcollect]
    simp [hint]
  case isFalse hn =>
    have hlist : ("-" ++ (-n).toNat.repr).toList = '-' :: Nat.toDigits 10 m := by
      have hnat : (-n).toNat = m := by omega
      rw [String.toList_append, hnat, Nat.toList_repr]
      rfl
    have hint : -(m : Int) = n := by omega
    -- A negative zero would be a float, but zero is written without a sign.
    have hroom : m ≠ 0 ∧ m ≤ 0x8000000000000000 := by omega
    rw [hlist, read?, hparts.1, Option.map_some, value, hcollect]
    simp [hint, hroom]

end Artillery.Json.Number
