import Artillery.Proofs.Json.RoundTrip
import Artillery.Wire.Basic

/-! # Faithful wire forms

The wire form of a value is faithful when it is plain, so that its text stands for it, and when
reading it gives back the value.  The forms that others are made of are faithful: numbers of their
width, texts, names, lists and values that may be missing.  A record is read field by field, and a
tagged alternative by its tag and then by its data.

## Key results

- `Faithful.parsed`: a faithful form is read back from its text
- `Faithful.list`, `Faithful.option`: lists and values that may be missing
- `record?_object`, `Record.field_cons`, `Record.optional_cons`: how a record is read
- `tagged?_object`, `Faithful.tagged`: how a tagged alternative is read, and when it is read back
-/

namespace Artillery.Wire

/-! ## Widths -/

/-- The width of an integer of 32 bits. -/
def IsInt32 (n : Int) : Prop := -0x80000000 ≤ n ∧ n ≤ 0x7fffffff

/-- The width of a natural number of 32 bits. -/
def IsNat32 (n : Nat) : Prop := n ≤ 0xffffffff

/-- The width of a natural number of 64 bits. -/
def IsNat64 (n : Nat) : Prop := n ≤ 0xffffffffffffffff

instance : DecidablePred IsInt32 := fun _ => inferInstanceAs (Decidable (_ ∧ _))

instance : DecidablePred IsNat32 := fun _ => inferInstanceAs (Decidable (_ ≤ _))

instance : DecidablePred IsNat64 := fun _ => inferInstanceAs (Decidable (_ ≤ _))

/-- An integer within the bounds is read as itself. -/
theorem intWithin?_int {lo hi n : Int} (h : lo ≤ n ∧ n ≤ hi) :
    intWithin? lo hi (.int n) = some n := if_pos h

/-- A 32-bit integer is read back. -/
@[simp] theorem int32?_int {n : Int} (h : IsInt32 n) : int32? (.int n) = some n :=
  intWithin?_int h

/-- An unsigned 32-bit number is read back. -/
@[simp] theorem nat32?_nat {n : Nat} (h : IsNat32 n) : nat32? (.nat n) = some n := by
  unfold IsNat32 at h
  rw [nat32?, Json.nat, intWithin?_int (by omega)]
  rfl

/-- An unsigned 64-bit number is read back. -/
@[simp] theorem nat64?_nat {n : Nat} (h : IsNat64 n) : nat64? (.nat n) = some n := by
  unfold IsNat64 at h
  rw [nat64?, Json.nat, intWithin?_int (by omega)]
  rfl

/-- A truth value is read back. -/
@[simp] theorem bool?_bool (b : Bool) : bool? (.bool b) = some b := rfl

/-- A string is read back. -/
@[simp] theorem string?_string (s : String) : string? (.string s) = some s := rfl

@[simp] theorem IsInt32.plain {n : Int} (h : IsInt32 n) : (Json.int n).Plain := by
  obtain ⟨hlow, hhigh⟩ := h
  exact .int (by omega) (by omega)

@[simp] theorem IsNat64.plain {n : Nat} (h : IsNat64 n) : (Json.nat n).Plain := by
  unfold IsNat64 at h
  exact .int (by omega) (by omega)

@[simp] theorem IsNat32.plain {n : Nat} (h : IsNat32 n) : (Json.nat n).Plain := by
  unfold IsNat32 at h
  exact .int (by omega) (by omega)

attribute [simp] Json.Plain.bool Json.Plain.string

/-! ## Values and lists -/

/-- Whether the wire form of a value is plain and is read as the value again. -/
structure Faithful {α : Type} (encode : α → Json) (decode : Json → Option α) (a : α) : Prop where
  plain : (encode a).Plain
  back : decode (encode a) = some a

variable {α : Type} {encode : α → Json} {decode : Json → Option α} {a : α}

/-- A faithful form is read back from its text. -/
theorem Faithful.parsed (h : Faithful encode decode a) :
    (Json.parse? (Json.render (encode a))).bind decode = some a := by
  rw [Json.parse?_render h.plain, Option.bind_some, h.back]

/-- Unsigned 64-bit numbers keep their value. -/
theorem faithful_nat64 {n : Nat} (h : IsNat64 n) : Faithful .nat nat64? n := ⟨h.plain, nat64?_nat h⟩

/-- An alternative without data is found by its name, provided no other comes before it. -/
theorem faithful_choice {all : List α} {name : α → String} (tagged : Bool)
    (h : all.find? (name · == name a) = some a) :
    Faithful (.string <| name ·) (choice? all name tagged) a :=
  ⟨.string _, h⟩

theorem Faithful.list {as : List α} (h : ∀ a ∈ as, Faithful encode decode a) :
    Faithful (.list encode) (list? decode) as where
  plain := by
    refine .array fun v hv => ?_
    obtain ⟨a, ha, rfl⟩ := List.mem_map.1 hv
    exact (h a ha).plain
  back := by
    show (as.map encode).mapM decode = some as
    -- The elements are read one by one, and a list is read only if all of them are.
    induction as with
    | nil => rfl
    | cons a as ih =>
      rw [List.forall_mem_cons] at h
      simp [h.1.back, ih h.2]

/-- What is not `null` is read as a value that is there. -/
theorem option?_of_ne {v : Json} (h : v ≠ .null) : option? decode v = (decode v).map some := by
  cases v with
  | null => exact absurd rfl h
  | _ => rfl

/-- A value that may be missing is told from null when no value is written as null. -/
theorem Faithful.option {o : Option α} (hnull : ∀ a, encode a ≠ .null)
    (h : ∀ a ∈ o, Faithful encode decode a) : Faithful (.option encode) (option? decode) o := by
  cases o with
  | none => exact ⟨.null, rfl⟩
  | some a =>
    refine ⟨(h a rfl).plain, ?_⟩
    show option? decode (encode a) = some (some a)
    rw [option?_of_ne (hnull a), (h a rfl).back]
    rfl

/-! ## Records and tagged alternatives -/

/-- A member is read if it has the name; otherwise it is passed over. -/
@[simp] theorem Record.field_cons {key name : String} {v : Json} {r : Record} :
    Record.field ((key, v) :: r) name decode =
      if name = key then decode v else r.field name decode := by
  by_cases h : name = key
  · simp [Record.field, h]
  · have hkey : (name == key) = false := by simpa using h
    simp [Record.field, List.lookup_cons, h, hkey]

/-- An optional member is read if it has the name; otherwise it is passed over. -/
@[simp] theorem Record.optional_cons {key name : String} {v : Json} {r : Record} :
    Record.optional ((key, v) :: r) name decode =
      if name = key then option? decode v else r.optional name decode := by
  by_cases h : name = key
  · simp [Record.optional, h]
  · have hkey : (name == key) = false := by simpa using h
    simp [Record.optional, List.lookup_cons, h, hkey]

/-- An object with exactly the fields of a record is read as the record. -/
@[simp] theorem record?_object {names : List String} {members : List (String × Json)}
    (hnames : members.map Prod.fst = names) (hnodup : names.Nodup) :
    record? names (.object members) = some members := by
  have hknown : members.filter (fun m => names.contains m.1) = members := by
    rw [List.filter_eq_self]
    intro m hm
    simpa [← hnames] using ⟨m.2, hm⟩
  rw [record?, fields?]
  simp only [hknown, hnames]
  exact if_pos hnodup

/-- A tagged alternative is read as its tag and its data, as long as it does not lie too deep. -/
theorem tagged?_object {tag name : String} {outer : Nat} {members : List (String × Json)}
    (hplain : (Json.object ((tag, .string name) :: members)).Plain)
    (hdepth : (Json.object ((tag, .string name) :: members)).depth + outer ≤ depthLimit)
    (htag : ∀ m ∈ members, m.1 ≠ tag) :
    tagged? tag outer (.object ((tag, .string name) :: members)) =
      some (.string name, .object members) := by
  have hothers : members.filter (·.1 == tag) = [] := by simpa using htag
  have hrest : members.filter (·.1 != tag) = members := by simpa using htag
  -- Only the first member has the tag for its name, and all others are data.
  rw [tagged?, if_pos ⟨hplain.isReadable, hdepth⟩]
  simp [hothers, hrest]

/-- A tagged alternative is faithful when its data can be told from the tag and are read back. -/
theorem Faithful.tagged {ofData? : String → Json → Option α} {tag name : String}
    {members : List (String × Json)}
    (hread : ∀ {v data : Json} {name : String},
      tagged? tag 0 v = some (.string name, data) → decode v = ofData? name data)
    (hform : encode a = .object ((tag, .string name) :: members))
    (hplain : ∀ m ∈ members, m.2.Plain) (hdepth : (encode a).depth ≤ depthLimit)
    (htag : ∀ m ∈ members, m.1 ≠ tag) (hback : ofData? name (.object members) = some a) :
    Faithful encode decode a := by
  rw [hform] at hdepth
  -- The tag is a string, so that the whole object is as plain as its data.
  have hplain : (Json.object ((tag, .string name) :: members)).Plain :=
    .object (List.forall_mem_cons.2 ⟨.string name, hplain⟩)
  exact ⟨hform ▸ hplain, hform ▸ (hread (tagged?_object hplain hdepth htag)).trans hback⟩

end Artillery.Wire
