import Artillery.Roster
import Mathlib.Data.List.Nodup

/-!
# The row of projectiles

The order of the row changes with everything that is taken out of it, so what the operations do is
said up to a permutation: taking out removes one entry, putting back adds one at the end, and a
sweep keeps exactly the entries that have not ended.

## Key results

- `take?_perm` / `take?_of_mem`: taking out finds the entry under a handle and removes no other
- `entries_addAll`: new projectiles stand at the end of the row under handles not given out before
- `sweep_perm`: a sweep keeps exactly the active projectiles
-/

namespace Artillery.Roster

/-- No handle stands twice in the row, and those that are given out next are not in it. -/
structure Valid (r : Roster) : Prop where
  nodup : r.handles.Nodup
  below : ∀ n ∈ r.handles, n < r.next

/-! ## Taking out -/

/-- Overwriting a place of a list exchanges what stood there for something else. -/
private theorem cons_set_perm {α : Type} {l : List α} {i : Nat} {e : α} (a : α)
    (h : l[i]? = some e) : (e :: l.set i a).Perm (a :: l) := by
  induction l generalizing i with
  | nil => exact nomatch h
  | cons b l ih =>
    cases i with
    | zero =>
      obtain rfl := Option.some.inj h
      exact .swap a b l
    | succ i =>
      calc (e :: b :: l.set i a).Perm (b :: e :: l.set i a) := .swap b e _
        _ |>.Perm (b :: a :: l) := (ih h).cons b
        _ |>.Perm (a :: b :: l) := .swap a b l

/-- Closing a gap loses nothing but the entry at the gap. -/
theorem closeGap_perm {entries : Array (Nat × Projectile)} {i : Nat} {e : Nat × Projectile}
    (h : entries[i]? = some e) : (e :: (closeGap entries i).toList).Perm entries.toList := by
  obtain ⟨hi, he⟩ := Array.getElem?_eq_some_iff.1 h
  obtain ⟨l⟩ := entries
  obtain rfl | ⟨init, last, rfl⟩ := l.eq_nil_or_concat
  · exact nomatch hi
  · -- The last entry is moved to the gap, unless the gap is where it stands.
    rw [List.concat_eq_append] at *
    have hback : (init ++ [last]).toArray.back? = some last := by simp
    have hlist : (closeGap (init ++ [last]).toArray i).toList =
        ((init ++ [last]).set i last).dropLast := by
      simp [closeGap, hback]
    rw [hlist]
    by_cases hlt : i < init.length
    · have hget : init[i]? = some e := by
        rw [List.getElem?_eq_some_iff]
        exact ⟨hlt, by simpa [List.getElem_append_left hlt] using he⟩
      rw [List.set_append_left _ _ hlt, List.dropLast_concat]
      exact (cons_set_perm last hget).trans (List.perm_append_singleton last init).symm
    · have hlast : i = init.length := by
        simp at hi
        omega
      subst hlast
      have he' : e = last := by simpa using he.symm
      rw [List.set_append_right _ _ (Nat.le_refl _), Nat.sub_self, List.set_cons_zero,
        List.dropLast_concat, he']
      exact (List.perm_append_singleton last init).symm

/-- Taking out removes one entry with the handle from the row. -/
theorem take?_perm {r r' : Roster} {handle : Nat} {p : Projectile}
    (h : r.take? handle = some (p, r')) :
    ((handle, p) :: r'.entries.toList).Perm r.entries.toList ∧ r'.next = r.next := by
  simp only [take?, Option.bind_eq_bind, Option.bind_eq_some_iff] at h
  obtain ⟨i, hi, ⟨n, q⟩, hq, h⟩ := h
  obtain ⟨rfl, rfl⟩ := Prod.mk.inj (Option.some.inj h)
  obtain ⟨hlt, hn, _⟩ := Array.findIdx?_eq_some_iff_getElem.1 hi
  have hget := Array.getElem?_eq_getElem hlt
  rw [hq] at hget
  rw [← Option.some.inj hget, decide_eq_true_eq] at hn
  obtain rfl : n = handle := hn
  exact ⟨closeGap_perm hq, rfl⟩

/-- A handle that is not in the row has nothing to take out. -/
theorem take?_eq_none {r : Roster} {handle : Nat} :
    r.take? handle = none ↔ handle ∉ r.handles := by
  constructor
  · intro h hm
    simp only [handles, List.mem_map, Prod.exists, exists_and_right, exists_eq_right] at hm
    obtain ⟨p, hm⟩ := hm
    cases hi : r.entries.findIdx? (·.1 = handle) with
    | none =>
      rw [Array.findIdx?_eq_none_iff] at hi
      exact absurd (hi _ (Array.mem_toList_iff.1 hm)) (by simp)
    | some i =>
      -- An entry that is found would be taken.
      obtain ⟨hlt, _⟩ := Array.findIdx?_eq_some_iff_getElem.1 hi
      simp [take?, hi, Array.getElem?_eq_getElem hlt] at h
  · intro hm
    cases h : r.take? handle with
    | none => rfl
    | some q =>
      have hin := (take?_perm h).1.mem_iff.1 List.mem_cons_self
      exact absurd (List.mem_map.2 ⟨_, hin, rfl⟩) hm

/-- In a row without repetitions a handle takes out its own projectile. -/
theorem take?_of_mem {r : Roster} (nodup : r.handles.Nodup) {handle : Nat} {p : Projectile}
    (hm : (handle, p) ∈ r.entries.toList) : ∃ r', r.take? handle = some (p, r') := by
  cases h : r.take? handle with
  | none => exact absurd (List.mem_map.2 ⟨_, hm, rfl⟩) (take?_eq_none.1 h)
  | some q =>
    obtain ⟨q, r'⟩ := q
    have hq := (take?_perm h).1.mem_iff.1 List.mem_cons_self
    have := List.inj_on_of_nodup_map nodup hm hq rfl
    exact ⟨r', by rw [(Prod.mk.inj this).2]⟩

/-! ## Putting in -/

/-- New projectiles under the handles from `n` on. -/
def freshFrom (n : Nat) : List ProjectileSpec → List (Nat × Projectile)
  | [] => []
  | s :: specs => (n, .ofSpec s) :: freshFrom (n + 1) specs

/-- Every projectile that is asked for gets an entry. -/
theorem length_freshFrom (n : Nat) (specs : List ProjectileSpec) :
    (freshFrom n specs).length = specs.length := by
  induction specs generalizing n with
  | nil => rfl
  | cons s specs ih => simp [freshFrom, ih]

/-- Fresh handles are given out in a row. -/
theorem handles_freshFrom (n : Nat) (specs : List ProjectileSpec) :
    (freshFrom n specs).map Prod.fst = List.range' n specs.length := by
  induction specs generalizing n with
  | nil => rfl
  | cons s specs ih => simp [freshFrom, ih, List.range'_succ]

/-- There is one new projectile for each that has been asked for. -/
theorem projectiles_freshFrom (n : Nat) (specs : List ProjectileSpec) :
    (freshFrom n specs).map Prod.snd = specs.map .ofSpec := by
  induction specs generalizing n with
  | nil => rfl
  | cons s specs ih => simp [freshFrom, ih]

/-- A new projectile flies and has not aged. -/
theorem freshFrom_active {n : Nat} {specs : List ProjectileSpec} {e : Nat × Projectile}
    (h : e ∈ freshFrom n specs) : e.2.active = true ∧ e.2.age = 0 := by
  induction specs generalizing n with
  | nil => exact nomatch h
  | cons s specs ih =>
    obtain rfl | h := List.mem_cons.1 h
    · exact ⟨rfl, rfl⟩
    · exact ih h

/-- A projectile that is put into the row comes last. -/
theorem entries_put (r : Roster) (handle : Nat) (p : Projectile) :
    (r.put handle p).entries.toList = r.entries.toList ++ [(handle, p)] := by
  simp [put]

/-- The projectiles that have been asked for go to the end of the row, in order. -/
theorem entries_addAll (r : Roster) (specs : List ProjectileSpec) :
    (r.addAll specs).entries.toList = r.entries.toList ++ freshFrom r.next specs ∧
      (r.addAll specs).next = r.next + specs.length := by
  induction specs generalizing r with
  | nil => exact ⟨(List.append_nil _).symm, rfl⟩
  | cons s specs ih =>
    obtain ⟨he, hn⟩ := ih (r.add (.ofSpec s)).2
    -- The first one joins the row under `next`, and the others under the numbers after it.
    constructor
    · calc (r.addAll (s :: specs)).entries.toList
          = (r.add (.ofSpec s)).2.entries.toList ++ freshFrom (r.next + 1) specs := he
        _ = r.entries.toList ++ freshFrom r.next (s :: specs) := by
          simp [add, put, freshFrom]
    · calc (r.addAll (s :: specs)).next = r.next + 1 + specs.length := hn
        _ = r.next + (s :: specs).length := by
          rw [List.length_cons]
          omega

/-- Fresh handles are new to a row in order, and all different. -/
theorem Valid.nodup_append_fresh {r : Roster} (valid : r.Valid) (specs : List ProjectileSpec) :
    (r.handles ++ (freshFrom r.next specs).map Prod.fst).Nodup := by
  rw [handles_freshFrom, List.nodup_append]
  refine ⟨valid.nodup, List.nodup_range', ?_⟩
  intro m hm n hn
  have := valid.below m hm
  have := (List.mem_range'_1.1 hn).1
  omega

/-- A projectile under a fresh handle keeps the row in order. -/
theorem Valid.add {r : Roster} (valid : r.Valid) (p : Projectile) : (r.add p).2.Valid := by
  have hh : (r.add p).2.handles = r.handles ++ [r.next] := by
    simp [Roster.add, Roster.put, handles]
  constructor
  · -- The new handle is `next`, above all that are in the row.
    rw [hh, List.nodup_append]
    refine ⟨valid.nodup, List.nodup_singleton _, ?_⟩
    intro m hm n hn
    have := valid.below m hm
    rw [List.mem_singleton] at hn
    omega
  · intro n hn
    show n < r.next + 1
    rw [hh, List.mem_append, List.mem_singleton] at hn
    obtain hn | rfl := hn
    · have := valid.below n hn
      omega
    · omega

/-- Adding projectiles keeps the handles distinct. -/
theorem Valid.addAll {r : Roster} (valid : r.Valid) (specs : List ProjectileSpec) :
    (r.addAll specs).Valid := by
  induction specs generalizing r with
  | nil => exact valid
  | cons s specs ih => exact ih (valid.add (.ofSpec s))

/-- Putting a projectile back that has been taken out gives the same handles in another order. -/
theorem handles_put_perm {r r' : Roster} {handle : Nat} {p : Projectile}
    (h : r.take? handle = some (p, r')) (q : Projectile) :
    ((r'.put handle q).handles).Perm r.handles := by
  have hperm := (take?_perm h).1.map Prod.fst
  rw [handles, entries_put, List.map_append]
  exact (List.perm_append_singleton handle _).trans hperm

/-- So the row stays in order. -/
theorem Valid.put {r r' : Roster} {handle : Nat} {p : Projectile} (valid : r.Valid)
    (h : r.take? handle = some (p, r')) (q : Projectile) : (r'.put handle q).Valid := by
  have hh := handles_put_perm h q
  constructor
  · exact hh.nodup_iff.2 valid.nodup
  · intro n hn
    show n < r'.next
    rw [(take?_perm h).2]
    exact valid.below n (hh.mem_iff.1 hn)

/-- Changing a projectile where it is leaves all handles in place. -/
theorem handles_update (r : Roster) (handle : Nat) (p : Projectile) :
    (r.update handle p).handles = r.handles := by
  simp only [handles, Roster.update, Array.toList_map, List.map_map]
  apply List.map_congr_left
  intro e _
  simp only [Function.comp]
  split
  · rename_i he
    exact he.symm
  · rfl

/-- Updating a projectile keeps the handles distinct. -/
theorem Valid.update {r : Roster} (valid : r.Valid) (handle : Nat) (p : Projectile) :
    (r.update handle p).Valid := by
  have hh := r.handles_update handle p
  constructor
  · exact hh ▸ valid.nodup
  · intro n hn
    exact valid.below n (hh ▸ hn)

/-! ## Sweeping -/

/-- Removing a handle keeps every other entry. -/
theorem remove_perm {r : Roster} (nodup : r.handles.Nodup) (handle : Nat) :
    (r.remove handle).entries.toList.Perm (r.entries.toList.filter (·.1 ≠ handle)) ∧
      (r.remove handle).next = r.next := by
  unfold remove
  cases h : r.take? handle with
  | none =>
    have hout := take?_eq_none.1 h
    rw [List.filter_eq_self.2]
    · exact ⟨.refl _, rfl⟩
    · intro e he
      simp only [ne_eq, decide_not, Bool.not_eq_eq_eq_not, Bool.not_true, decide_eq_false_iff_not]
      exact fun hn => hout (List.mem_map.2 ⟨e, he, hn⟩)
  | some q =>
    -- No second entry has the handle, so that the filter takes away no more than was taken out.
    obtain ⟨p, r'⟩ := q
    obtain ⟨hp, hn⟩ := take?_perm h
    show r'.entries.toList.Perm _ ∧ r'.next = r.next
    refine ⟨?_, hn⟩
    have hnodup : ((handle, p) :: r'.entries.toList).map Prod.fst |>.Nodup :=
      (hp.map Prod.fst).nodup_iff.2 nodup
    rw [List.map_cons, List.nodup_cons] at hnodup
    have hkeep : r'.entries.toList.filter (·.1 ≠ handle) = r'.entries.toList := by
      rw [List.filter_eq_self]
      intro e he
      simp only [ne_eq, decide_not, Bool.not_eq_eq_eq_not, Bool.not_true, decide_eq_false_iff_not]
      exact fun hn => hnodup.1 (List.mem_map.2 ⟨e, he, hn⟩)
    have hf := hp.symm.filter (·.1 ≠ handle)
    rw [List.filter_cons_of_neg (by simp), hkeep] at hf
    exact hf.symm

/-- Removing some handles one after another keeps the entries under all others. -/
theorem foldl_remove_perm {r : Roster} (nodup : r.handles.Nodup) (hs : List Nat) :
    (hs.foldl remove r).entries.toList.Perm (r.entries.toList.filter (·.1 ∉ hs)) ∧
      (hs.foldl remove r).next = r.next := by
  induction hs generalizing r with
  | nil => exact ⟨by simp, rfl⟩
  | cons h hs ih =>
    obtain ⟨hp, hn⟩ := remove_perm nodup h
    have hnodup : (r.remove h).handles.Nodup :=
      (hp.map Prod.fst).nodup_iff.2 (nodup.sublist (List.filter_sublist.map Prod.fst))
    obtain ⟨hp', hn'⟩ := ih hnodup
    -- To remove one handle and then the others is to keep what has none of them.
    have htwice : (r.entries.toList.filter (·.1 ≠ h)).filter (·.1 ∉ hs) =
        r.entries.toList.filter (·.1 ∉ h :: hs) := by
      rw [List.filter_filter]
      apply List.filter_congr
      intro e _
      simp only [List.mem_cons, ne_eq, not_or, decide_not, Bool.decide_and]
      exact Bool.and_comm _ _
    constructor
    · exact hp'.trans ((hp.filter _).trans (.of_eq htwice))
    · exact hn'.trans hn

/-- A sweep keeps exactly the projectiles that have not ended. -/
theorem sweep_perm {r : Roster} (nodup : r.handles.Nodup) :
    r.sweep.entries.toList.Perm (r.entries.toList.filter (·.2.active)) ∧
      r.sweep.next = r.next := by
  -- Handles are unique, so a handle has ended exactly when its projectile has.
  have hended : ∀ e ∈ r.entries.toList, e.1 ∈ r.ended ↔ e.2.active = false := by
    intro e he
    simp only [ended, List.mem_map, List.mem_filter]
    constructor
    · rintro ⟨e', ⟨hm, hactive⟩, heq⟩
      rw [List.inj_on_of_nodup_map nodup he hm heq.symm]
      simpa using hactive
    · intro hactive
      exact ⟨e, ⟨he, by simp [hactive]⟩, rfl⟩
  have hkept : r.entries.toList.filter (·.1 ∉ r.ended) =
      r.entries.toList.filter (·.2.active) := by
    apply List.filter_congr
    intro e he
    cases ha : e.2.active <;> simp [hended e he, ha]
  obtain ⟨hp, hn⟩ := foldl_remove_perm nodup r.ended
  exact ⟨hp.trans (.of_eq hkept), hn⟩

/-- When nobody in the row has ended, nothing is active exactly when the row is empty. -/
theorem anyActive_eq_false {r : Roster} (h : ∀ e ∈ r.entries.toList, e.2.active = true) :
    r.anyActive = false ↔ r.entries = #[] := by
  rw [anyActive, Array.any_eq_false', ← Array.toList_eq_nil_iff, List.eq_nil_iff_forall_not_mem]
  constructor
  · intro hn e he
    exact hn e (Array.mem_toList_iff.1 he) (h e he)
  · intro hn e he
    exact absurd (Array.mem_toList_iff.2 he) (hn e)

end Artillery.Roster
