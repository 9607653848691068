import Artillery.Proofs.Json.Tokens
import Artillery.Json.Reader

/-! # Reading what has been written

The reader takes the tokens of a value one after another.  Wherever a value may come, inside
arrays and objects or not, its tokens lead it to the state in which the value is delivered.

## Key results

- `run_items`, `run_members`: what stands between brackets, from the first item or member on
- `run_tokens`: a value is told by its tokens
- `parse?_render`: a plain value is read from its text again
-/

namespace Artillery.Json

namespace Reader

variable {stack : List Frame} {more : List Token}

/-- Whether the tokens of a value are read as the value wherever a value may come. -/
def Told (v : Json) : Prop :=
  ∀ (closable : Bool) (stack : List Frame) (more : List Token),
    run (.value closable stack) (v.tokens ++ more) = run (deliver v stack) more

/-- The items of an array are collected up to the bracket that closes it. -/
theorem run_items {v : Json} {items : List Json} (h : ∀ w ∈ v :: items, Told w) (closable : Bool)
    (seen : List Json) :
    run (.value closable (.array seen :: stack)) (tokensOfItems (v :: items) ++ .closeArray :: more) =
      run (deliver (.array (seen.reverse ++ v :: items)) stack) more := by
  -- The items read so far stand in reverse order on the stack.
  induction items generalizing v closable seen with
  | nil =>
    rw [tokensOfItems, h v List.mem_cons_self]
    show run (deliver (.array (v :: seen).reverse) stack) more = _
    rw [List.reverse_cons]
  | cons w items ih =>
    rw [List.forall_mem_cons] at h
    rw [tokensOfItems, List.append_assoc, List.cons_append, h.1]
    show run (.value false (.array (v :: seen) :: stack)) _ = _
    rw [ih h.2]
    simp

/-- The members of an object whose keys are all readable. -/
def known (members : List (String × Json)) : List (Option String × Json) :=
  members.map fun m => (some m.1, m.2)

/-- An object whose keys are known is made of its members. -/
theorem objectOf_known (members : List (String × Json)) :
    objectOf (known members) = .object members := by
  have hmembers : (known members).mapM (fun m : Option String × Json => m.1.map (·, m.2)) =
      some members := by
    induction members with
    | nil => rfl
    | cons m members ih =>
      rw [known] at ih
      simp [known, ih]
  unfold objectOf
  simp only [hmembers]

/-- The members of an object are collected up to the bracket that closes it. -/
theorem run_members {m : String × Json} {members : List (String × Json)}
    (h : ∀ n ∈ m :: members, Told n.2) (closable : Bool) (seen : List (Option String × Json)) :
    run (.key closable seen stack) (tokensOfMembers (m :: members) ++ .closeObject :: more) =
      run (deliver (objectOf (seen.reverse ++ known (m :: members))) stack) more := by
  -- The members read so far stand in reverse order on the stack.
  induction members generalizing m closable seen with
  | nil =>
    rw [List.forall_mem_cons] at h
    show run (.value false (.member seen (some m.1) :: stack)) (m.2.tokens ++ _) = _
    rw [h.1]
    show run (deliver (objectOf ((some m.1, m.2) :: seen).reverse) stack) more = _
    rw [List.reverse_cons]
    rfl
  | cons n members ih =>
    rw [List.forall_mem_cons] at h
    rw [tokensOfMembers, List.cons_append, List.cons_append, List.append_assoc, List.cons_append]
    show run (.value false (.member seen (some m.1) :: stack)) (m.2.tokens ++ _) = _
    rw [h.1]
    show run (.key false ((some m.1, m.2) :: seen) stack) _ = _
    rw [ih h.2]
    simp [known]

/-- A plain value is told by its tokens. -/
theorem run_tokens {v : Json} (h : v.Plain) : Told v := by
  induction h with
  | null => exact fun _ _ _ => rfl
  | bool b => exact fun _ _ _ => rfl
  | int _ _ => exact fun _ _ _ => rfl
  | string s => exact fun _ _ _ => rfl
  | @array items _ ih =>
    -- An empty array is closed at once, any other after an item.
    intro closable stack more
    cases items with
    | nil => rfl
    | cons v items =>
      rw [tokens, List.cons_append, List.append_assoc]
      exact run_items ih true []
  | @object members _ ih =>
    intro closable stack more
    cases members with
    | nil => rfl
    | cons m members =>
      calc run (.value closable stack) ((object (m :: members)).tokens ++ more)
          = run (.key true [] stack) (tokensOfMembers (m :: members) ++ .closeObject :: more) := by
            rw [tokens, List.cons_append, List.append_assoc]
            rfl
        _ = run (deliver (objectOf (known (m :: members))) stack) more := run_members ih true []
        _ = run (deliver (.object (m :: members)) stack) more := by rw [objectOf_known]

end Reader

/-- A plain value is read from its text again. -/
theorem parse?_render {v : Json} (h : v.Plain) : parse? (render v) = some v := by
  rw [parse?, tokens?_render h, Option.bind_some, ← v.tokens.append_nil, Reader.run_tokens h]
  rfl

theorem areReadable_iff {items : List Json} :
    areReadable items = true ↔ ∀ v ∈ items, v.isReadable := by
  induction items with
  | nil => simp [areReadable]
  | cons v items ih => simp [areReadable, ih]

theorem membersReadable_iff {members : List (String × Json)} :
    membersReadable members = true ↔ ∀ m ∈ members, m.2.isReadable := by
  induction members with
  | nil => simp [membersReadable]
  | cons m members ih => simp [membersReadable, ih]

/-- A plain value is readable in all its parts. -/
theorem Plain.isReadable {v : Json} (h : v.Plain) : v.isReadable := by
  induction h with
  | array _ ih => exact areReadable_iff.2 ih
  | object _ ih => exact membersReadable_iff.2 ih
  | _ => rfl

end Artillery.Json
