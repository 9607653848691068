import Artillery.Raster.Bands

/-! # Grids of cells

A grid holds one byte for each column and row, row by row from the top.  It is read with `get`,
where everything outside is empty, and changed with `modify` and `repaint`, which do nothing
outside.

* `get_modify`   what `modify` does, cell by cell
* `get_repaint`  what `repaint` does, cell by cell
* `get_mapRows`  what `mapRows` does, cell by cell -/

namespace Artillery

/-- The numbers from `start` up to and without `stop`. -/
structure Span where
  start : Nat
  stop : Nat
  deriving DecidableEq, Repr

namespace Span

/-- How many numbers there are. -/
def size (s : Span) : Nat := s.stop - s.start

instance : Membership Nat Span := ⟨fun s n => s.start ≤ n ∧ n < s.stop⟩

/-- A number lies in a span if it lies between its ends. -/
theorem mem_iff {s : Span} {n : Nat} : n ∈ s ↔ s.start ≤ n ∧ n < s.stop := Iff.rfl

instance (n : Nat) (s : Span) : Decidable (n ∈ s) :=
  inferInstanceAs (Decidable (s.start ≤ n ∧ n < s.stop))

/-- The numbers from `lo` to `hi` that lie below `bound`. -/
def clipped (lo hi : Int) (bound : Nat) : Span := ⟨lo.toNat, min bound (hi + 1).toNat⟩

/-- A number lies in a clipped span if it lies between `lo` and `hi` and below the bound. -/
theorem mem_clipped {lo hi : Int} {bound n : Nat} :
    n ∈ clipped lo hi bound ↔ lo ≤ n ∧ n ≤ hi ∧ n < bound := by
  simp only [mem_iff, clipped]
  omega

/-- The numbers of a clipped span lie below the bound. -/
theorem lt_of_clipped {lo hi : Int} {bound i : Nat} (h : i < (clipped lo hi bound).size) :
    (clipped lo hi bound).start + i < bound := by
  simp only [size, clipped] at h ⊢
  omega

/-- The members in ascending order. -/
def toList (s : Span) : List Nat := List.range' s.start s.size

end Span

/-- A byte for each of `w` columns and `h` rows. -/
structure Grid (w h : Nat) where
  rows : Vector (Vector UInt8 w) h
  deriving DecidableEq

namespace Grid

variable {w h : Nat}

/-- The grid whose cells all have the value of their row. -/
def ofRows (f : Nat → UInt8) : Grid w h := ⟨Vector.ofFn fun y => Vector.replicate w (f y)⟩

/-- The value of a cell; outside the grid everything is empty. -/
def get (g : Grid w h) (x y : Nat) : UInt8 :=
  if bound : x < w ∧ y < h then
    have := bound.1
    have := bound.2
    g.rows[y][x]
  else 0

/-- Changes a row of the grid.  `Array.modify` takes the row out while it is changed, so that the
cells are not copied. -/
@[inline] def modifyRow (g : Grid w h) (y : Nat) (_bound : y < h)
    (f : Vector UInt8 w → Vector UInt8 w) : Grid w h :=
  ⟨⟨g.rows.toArray.modify y f, by simp⟩⟩

/-- Changes the value of a cell; outside the grid nothing happens. -/
@[inline] def modify (g : Grid w h) (x y : Nat) (f : UInt8 → UInt8) : Grid w h :=
  if bound : x < w ∧ y < h then
    have := bound.1
    g.modifyRow y bound.2 fun row => row.set x (f row[x])
  else g

/-- Outside the grid every cell is empty. -/
theorem get_of_not_lt (g : Grid w h) {x y : Nat} (out : ¬(x < w ∧ y < h)) : g.get x y = 0 := by
  simp [get, out]

/-- The row that `modifyRow` is given, as far as `get` sees it. -/
theorem get_modifyRow (g : Grid w h) (x y y' : Nat) (hy : y < h)
    (f : Vector UInt8 w → Vector UInt8 w) :
    (g.modifyRow y hy f).get x y' =
      if bound : x < w ∧ y' < h then
        if y = y' then (f g.rows[y'])[x] else g.get x y'
      else 0 := by
  by_cases hb : x < w ∧ y' < h
  · simp only [hb, and_self, dite_true, get, modifyRow, Vector.getElem_mk, Array.getElem_modify,
      Vector.getElem_toArray]
    split <;> rfl
  · rw [dif_neg hb, get_of_not_lt _ hb]

/-- `modify` changes the one cell that it names, if that lies in the grid. -/
theorem get_modify (g : Grid w h) (x y x' y' : Nat) (f : UInt8 → UInt8) :
    (g.modify x y f).get x' y' =
      if x' = x ∧ y' = y ∧ x < w ∧ y < h then f (g.get x y) else g.get x' y' := by
  unfold modify
  -- Outside the grid nothing is modified.
  by_cases hin : x < w ∧ y < h
  · rw [dif_pos hin, get_modifyRow]
    by_cases hb : x' < w ∧ y' < h
    · by_cases hy : y = y'
      · subst hy
        simp [get, hb, hin, Vector.getElem_set, eq_comm]
      · simp [hb, hy, Ne.symm hy]
    · rw [dif_neg hb, if_neg, get_of_not_lt _ hb]
      rintro ⟨rfl, rfl, _⟩
      exact hb hin
  · rw [dif_neg hin, if_neg fun hc => hin hc.2.2]

/-- The first terrain row of a column among the `n` rows from `y` on, or the row after them. -/
def firstTerrain (g : Grid w h) (x : Nat) (column : x < w) :
    (y n : Nat) → (room : y + n ≤ h) → Nat
  | y, 0, _ => y
  | y, n + 1, room =>
    if Cell.isTerrain g.rows[y][x] then y
    else firstTerrain g x column (y + 1) n (by omega)

/-- The ground row of a column: its first terrain row in the playfield, or the height of the
grid. -/
def groundRow (g : Grid w h) (x : Nat) : Nat :=
  if column : x < w then
    let top := min playfieldTop h
    g.firstTerrain x column top (h - top) (by omega)
  else h

/-- Repaints a stretch of one row. -/
@[specialize] def repaintRow (g : Grid w h) (xs : Span) (y : Nat) (rule : Nat → UInt8 → UInt8) :
    Grid w h :=
  if bound : y < h then
    g.modifyRow y bound fun row => xs.size.fold (fun i _ row =>
      let x := xs.start + i
      if bound : x < w then row.set x (rule x row[x]) else row) row
  else g

/-- Repaints every cell of a rectangle by a rule that sees its column, its row and its value. -/
@[specialize] def repaint (g : Grid w h) (xs ys : Span) (rule : Nat → Nat → UInt8 → UInt8) :
    Grid w h :=
  ys.size.fold (fun j _ g => g.repaintRow xs (ys.start + j) (rule · (ys.start + j))) g

/-- Repaints every cell by the rule of its row. -/
@[specialize] def mapRows (g : Grid w h) (rule : Nat → UInt8 → UInt8) : Grid w h :=
  h.fold (fun y bound g => g.modifyRow y bound (·.map (rule y))) g

/-- After `n` cells of a stretch have been repainted, exactly those have changed. -/
private theorem getElem_foldRow (row : Vector UInt8 w) (s x n : Nat) (hx : x < w)
    (rule : Nat → UInt8 → UInt8) :
    (n.fold (fun i _ row =>
      let x := s + i
      if bound : x < w then row.set x (rule x row[x]) else row) row)[x] =
      if s ≤ x ∧ x < s + n then rule x row[x] else row[x] := by
  induction n with
  | zero => rw [if_neg (by omega)]; rfl
  | succ n ih =>
    rw [Nat.fold_succ]
    by_cases hn : s + n < w
    · simp only [hn, dite_true, Vector.getElem_set]
      -- The last write is to this column, or leaves it to those before.
      by_cases he : s + n = x
      · subst he
        rw [if_pos rfl, if_pos (by omega), ih, if_neg (by omega)]
      · rw [if_neg he, ih]
        congr 1
        simp only [eq_iff_iff]
        omega
    · simp only [hn, dite_false, ih]
      congr 1
      simp only [eq_iff_iff]
      omega

/-- `repaintRow` repaints the cells of its row that lie in the stretch. -/
theorem get_repaintRow (g : Grid w h) (xs : Span) (y x' y' : Nat) (rule : Nat → UInt8 → UInt8) :
    (g.repaintRow xs y rule).get x' y' =
      if x' ∈ xs ∧ y' = y ∧ x' < w ∧ y < h then rule x' (g.get x' y) else g.get x' y' := by
  unfold repaintRow
  by_cases hrow : y < h
  · rw [dif_pos hrow, get_modifyRow]
    by_cases hb : x' < w ∧ y' < h
    · rw [dif_pos hb]
      -- Within the row the fold has gone through the whole span.
      by_cases hy : y = y'
      · subst hy
        rw [if_pos rfl, getElem_foldRow]
        simp only [get, hb, and_self, dite_true, and_true]
        congr 1
        simp only [Span.mem_iff, Span.size, eq_iff_iff]
        omega
      · simp [hy, Ne.symm hy]
    · rw [dif_neg hb, if_neg, get_of_not_lt _ hb]
      rintro ⟨_, rfl, h⟩
      exact hb h
  · rw [dif_neg hrow, if_neg fun hc => hrow hc.2.2.2]

/-- After `n` rows of a rectangle have been repainted, exactly those have changed. -/
private theorem get_foldRows (g : Grid w h) (xs : Span) (s x' y' n : Nat)
    (rule : Nat → Nat → UInt8 → UInt8) :
    (n.fold (fun j _ g => g.repaintRow xs (s + j) (rule · (s + j))) g).get x' y' =
      if x' ∈ xs ∧ s ≤ y' ∧ y' < s + n ∧ x' < w ∧ y' < h then rule x' y' (g.get x' y')
      else g.get x' y' := by
  induction n with
  | zero => rw [if_neg (by omega)]; rfl
  | succ n ih =>
    rw [Nat.fold_succ, get_repaintRow]
    -- The last row is painted over all that was done before.
    by_cases hy : x' ∈ xs ∧ y' = s + n ∧ x' < w ∧ s + n < h
    · obtain ⟨hx, rfl, hw, hh⟩ := hy
      rw [if_pos ⟨hx, rfl, hw, hh⟩, if_pos ⟨hx, by omega, by omega, hw, hh⟩, ih,
        if_neg (by omega)]
    · rw [if_neg hy, ih]
      by_cases hm : x' ∈ xs ∧ s ≤ y' ∧ y' < s + n ∧ x' < w ∧ y' < h
      · rw [if_pos hm, if_pos ⟨hm.1, hm.2.1, by omega, hm.2.2.2⟩]
      · rw [if_neg hm, if_neg]
        rintro ⟨h1, h2, h3, h4, h5⟩
        by_cases he : y' = s + n
        · exact hy ⟨h1, he, h4, by omega⟩
        · exact hm ⟨h1, h2, by omega, h4, h5⟩

/-- `repaint` repaints the cells of its rectangle, each by the value it had before. -/
theorem get_repaint (g : Grid w h) (xs ys : Span) (x y : Nat) (rule : Nat → Nat → UInt8 → UInt8) :
    (g.repaint xs ys rule).get x y =
      if x ∈ xs ∧ y ∈ ys ∧ x < w ∧ y < h then rule x y (g.get x y) else g.get x y := by
  rw [repaint, get_foldRows]
  congr 1
  simp only [Span.mem_iff, Span.size, eq_iff_iff]
  omega

/-- Mapping a row repaints its cells and no others. -/
theorem get_modifyRow_map (g : Grid w h) (x y y' : Nat) (hy : y < h) (f : UInt8 → UInt8) :
    (g.modifyRow y hy (·.map f)).get x y' =
      if y' = y ∧ x < w ∧ y < h then f (g.get x y') else g.get x y' := by
  rw [get_modifyRow]
  by_cases hb : x < w ∧ y' < h
  · by_cases hy : y = y'
    · subst hy
      simp [get, hb]
    · simp [hb, hy, Ne.symm hy]
  · rw [dif_neg hb, if_neg, get_of_not_lt _ hb]
    rintro ⟨rfl, h⟩
    exact hb h

/-- After the first `n` rows have been mapped, exactly those have changed. -/
private theorem get_foldMap (g : Grid w h) (x y n : Nat) (hn : n ≤ h)
    (rule : Nat → UInt8 → UInt8) :
    (n.fold (fun y hy g => g.modifyRow y (Nat.lt_of_lt_of_le hy hn) (·.map (rule y))) g).get x y =
      if y < n ∧ x < w ∧ y < h then rule y (g.get x y) else g.get x y := by
  induction n with
  | zero => simp
  | succ n ih =>
    rw [Nat.fold_succ, get_modifyRow_map, ih (Nat.le_of_succ_le hn)]
    -- The last row is mapped once, and the others have been.
    by_cases hy : y = n
    · subst hy
      simp only [Nat.lt_irrefl, false_and, if_false, true_and, Nat.lt_succ_self]
    · rw [if_neg (fun c => hy c.1)]
      congr 1
      simp only [eq_iff_iff]
      omega

/-- `mapRows` repaints every cell by the rule of its row. -/
theorem get_mapRows (g : Grid w h) (x y : Nat) (rule : Nat → UInt8 → UInt8) :
    (g.mapRows rule).get x y = if x < w ∧ y < h then rule y (g.get x y) else g.get x y := by
  rw [mapRows, get_foldMap g x y h (Nat.le_refl h)]
  congr 1
  simp only [eq_iff_iff]
  omega

end Grid

end Artillery
