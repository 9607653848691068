import Artillery.Proofs.Raster.Bands
import Artillery.Proofs.Raster.GroundRow

/-!
# The index stays current

Every operation on a raster leaves an index that agrees with the cells, and cells that fit their
rows.  An operation that moves earth repaints one rectangle and rescans its columns, so the columns
it has not scanned are the ones it has not touched; drawing and erasing actors changes no terrain;
and `write` keeps the index of its column by hand.

## Key results

- `repaint_rescan_indexed`, `compact_indexed`, `write_indexed`: the index after each kind of change
- `repaint_skyClear`, `compact_skyClear`, `write_skyClear`: the sky after each kind of change
-/

namespace Artillery.Raster

/-- What is neither terrain nor an actor is the sky of its row. -/
def SkyClear (r : Raster) : Prop :=
  ∀ x y, x < r.width → y < r.height → Cell.Fits r.height y (r.cell x y)

/-! ## Repainting -/

/-- Repainting a rectangle and scanning its columns keeps a raster indexed, whatever the rule. -/
theorem repaint_rescan_indexed {r : Raster} (hi : r.Indexed) (xs ys : Span)
    (rule : Nat → Nat → UInt8 → UInt8) : ((r.repaint xs ys rule).rescan xs).Indexed := by
  -- Whatever the rule does, it does it to columns that are scanned afterwards.
  apply indexed_rescan
  intro x hx hout
  have hcolumn : r.ColumnIndexed x := (indexed_iff r).1 hi x hx
  refine hcolumn.congr rfl rfl fun y _ _ => ?_
  rw [cell_repaint, if_neg fun h => hout h.1]

/-- A rule that makes and removes no terrain keeps a raster indexed without a scan. -/
theorem repaint_indexed {r : Raster} (hi : r.Indexed) (xs ys : Span)
    {rule : Nat → Nat → UInt8 → UInt8}
    (hr : ∀ x y v, Cell.isTerrain (rule x y v) = Cell.isTerrain v) :
    (r.repaint xs ys rule).Indexed := by
  rw [indexed_iff]
  intro x hx
  have hcolumn : r.ColumnIndexed x := (indexed_iff r).1 hi x hx
  refine hcolumn.congr rfl rfl fun y _ _ => ?_
  -- What counts for the ground row is only which cells are terrain, and that stays.
  rw [cell_repaint]
  split
  · exact hr x y _
  · rfl

/-- The same for a rule that is given by rows. -/
theorem mapRows_indexed {r : Raster} (hi : r.Indexed) {rule : Nat → UInt8 → UInt8}
    (hr : ∀ y v, Cell.isTerrain (rule y v) = Cell.isTerrain v) : (r.mapRows rule).Indexed := by
  rw [indexed_iff]
  intro x hx
  have hcolumn : r.ColumnIndexed x := (indexed_iff r).1 hi x hx
  refine hcolumn.congr rfl rfl fun y _ _ => ?_
  rw [cell_mapRows]
  split
  · exact hr y _
  · rfl

/-- Scanning columns of an indexed raster changes nothing that matters. -/
theorem rescan_indexed {r : Raster} (hi : r.Indexed) (xs : Span) : (r.rescan xs).Indexed :=
  indexed_rescan fun x hx _ => (indexed_iff r).1 hi x hx

/-- Scanning all columns indexes any raster. -/
theorem rescanAll_indexed (r : Raster) : r.rescanAll.Indexed :=
  indexed_rescan fun x hx hout => absurd ⟨Nat.zero_le x, hx⟩ hout

/-- A rule that turns values that fit into values that fit keeps the sky clear. -/
theorem repaint_skyClear {r : Raster} (hs : r.SkyClear) {xs ys : Span}
    {rule : Nat → Nat → UInt8 → UInt8}
    (hr : ∀ x y v, y ∈ ys → Cell.Fits r.height y v → Cell.Fits r.height y (rule x y v)) :
    (r.repaint xs ys rule).SkyClear := by
  -- A cell is either painted by the rule, which keeps it fitting, or left as it was.
  intro x y hx hy
  rw [cell_repaint]
  split
  · rename_i hin
    exact hr x y _ hin.2.1 (hs x y hx hy)
  · exact hs x y hx hy

/-- A scan only writes the index, so that no cell changes. -/
theorem rescan_skyClear {r : Raster} (hs : r.SkyClear) (xs : Span) : (r.rescan xs).SkyClear := hs

/-! ## The columns around a column -/

/-- The columns around a column lie on the raster, between the ends of the stretch. -/
theorem mem_columnsAround {r : Raster} {cx reach : Int} {x : Nat}
    (h : x ∈ r.columnsAround cx reach) : cx - reach ≤ x ∧ x ≤ cx + reach ∧ x < r.width := by
  unfold columnsAround at h
  split at h
  · exact Span.mem_clipped.1 h
  · exact absurd h.2 (Nat.not_lt_zero x)

/-- The mean of the ground rows of some columns. -/
def meanRow (r : Raster) (xs : Span) : Int := r.sumHeights xs / xs.size

/-- No column has its ground row above the raster. -/
theorem heightAt_nonneg (r : Raster) (x : Int) : 0 ≤ r.heightAt x := by
  unfold heightAt
  split <;> exact Int.natCast_nonneg _

/-- No ground row lies above the raster, so that rounding toward zero is rounding down. -/
theorem sumHeights_nonneg (r : Raster) (xs : Span) : 0 ≤ r.sumHeights xs := by
  unfold sumHeights
  have hsum (xs : List Nat) (sum : Int) (h : 0 ≤ sum) :
      0 ≤ xs.foldl (fun (sum : Int) (x : Nat) => sum + r.heightAt x) sum := by
    induction xs generalizing sum with
    | nil => exact h
    | cons x xs ih => exact ih _ (Int.add_nonneg h (r.heightAt_nonneg x))
  exact hsum _ 0 (Int.le_refl 0)

/-- The mean of some columns is the one that levelling takes. -/
theorem meanHeight_eq (r : Raster) (xs : Span) (some : xs.size ≠ 0) :
    r.meanHeight xs some = r.meanRow xs :=
  Quantity.quotient_of_nonneg (r.sumHeights_nonneg xs) _

/-! ## Moving earth -/

section Earthworks

variable {r : Raster}

/-- Digging keeps the index, because all columns that are dug are scanned. -/
theorem crater_indexed (hi : r.Indexed) (cx cy radius : Int) :
    (r.crater cx cy radius).Indexed := repaint_rescan_indexed hi _ _ _

/-- Digging leaves sky where it removes terrain. -/
theorem crater_skyClear (hs : r.SkyClear) (cx cy radius : Int) :
    (r.crater cx cy radius).SkyClear := by
  apply rescan_skyClear
  apply repaint_skyClear hs
  intro x y v _ hv
  split
  · exact Cell.fits_dug hv
  · exact hv

/-- Filling keeps the index in the same way. -/
theorem fillDisc_indexed (hi : r.Indexed) (cx cy radius : Int) :
    (r.fillDisc cx cy radius).Indexed := repaint_rescan_indexed hi _ _ _

/-- Filling only adds terrain. -/
theorem fillDisc_skyClear (hs : r.SkyClear) (cx cy radius : Int) :
    (r.fillDisc cx cy radius).SkyClear := by
  apply rescan_skyClear
  apply repaint_skyClear hs
  intro x y v _ hv
  split
  · exact Cell.fits_filled hv
  · exact hv

/-- A tower keeps the index. -/
theorem raiseTower_indexed (hi : r.Indexed) (cx foot height : Int) :
    (r.raiseTower cx foot height).Indexed := repaint_rescan_indexed hi _ _ _

/-- A tower only adds terrain. -/
theorem raiseTower_skyClear (hs : r.SkyClear) (cx foot height : Int) :
    (r.raiseTower cx foot height).SkyClear := by
  apply rescan_skyClear
  apply repaint_skyClear hs
  intro x y v _ hv
  exact Cell.fits_filled hv

/-- A tunnel keeps the index. -/
theorem digTunnel_indexed (hi : r.Indexed) (cx mouth depth : Int) (down : Bool) :
    (r.digTunnel cx mouth depth down).Indexed := repaint_rescan_indexed hi _ _ _

/-- A tunnel leaves sky where it removes terrain. -/
theorem digTunnel_skyClear (hs : r.SkyClear) (cx mouth depth : Int) (down : Bool) :
    (r.digTunnel cx mouth depth down).SkyClear := by
  apply rescan_skyClear
  apply repaint_skyClear hs
  intro x y v _ hv
  exact Cell.fits_dug hv

/-- Levelling either finds no column and does nothing, or repaints and scans its columns. -/
theorem level_cases {r r' : Raster} {cx half : Int} (h : r.level cx half = .ok r') :
    r' = r ∨ ∃ ground : Int,
      clampInt playfieldTop r.height (r.meanRow (r.columnsFrom (cx - half) (cx + half))) =
        .ok ground ∧
      r' = (r.repaint (r.columnsFrom (cx - half) (cx + half)) r.playfield fun _ y v =>
        if (y : Int) < ground then dug r.height y v else filled r.height y v).rescan
          (r.columnsFrom (cx - half) (cx + half)) := by
  simp only [level, meanHeight_eq] at h
  split at h
  · exact .inl (Except.ok.inj h).symm
  · -- With a column in the footprint levelling goes on if the mean row can be kept in the
    -- playfield.
    cases hg : clampInt playfieldTop r.height
        (r.meanRow (r.columnsFrom (cx - half) (cx + half))) with
    | error f =>
      rw [hg] at h
      exact nomatch h
    | ok ground =>
      rw [hg] at h
      exact .inr ⟨ground, rfl, (Except.ok.inj h).symm⟩

/-- Levelling keeps the size. -/
theorem level_size {r' : Raster} {cx half : Int} (h : r.level cx half = .ok r') :
    r'.width = r.width ∧ r'.height = r.height := by
  obtain rfl | ⟨ground, _, rfl⟩ := level_cases h <;> exact ⟨rfl, rfl⟩

/-- Levelling keeps the index: it scans the columns that it repaints. -/
theorem level_indexed {r' : Raster} {cx half : Int} (hi : r.Indexed)
    (h : r.level cx half = .ok r') : r'.Indexed := by
  obtain rfl | ⟨ground, _, rfl⟩ := level_cases h
  · exact hi
  · exact repaint_rescan_indexed hi _ _ _

/-- Levelling leaves sky where it cuts and terrain where it fills. -/
theorem level_skyClear {r' : Raster} {cx half : Int} (hs : r.SkyClear)
    (h : r.level cx half = .ok r') : r'.SkyClear := by
  obtain rfl | ⟨ground, _, rfl⟩ := level_cases h
  · exact hs
  · apply rescan_skyClear
    apply repaint_skyClear hs
    intro x y v _ hv
    split
    · exact Cell.fits_dug hv
    · exact Cell.fits_filled hv

/-! ## Terrain that falls -/

/-- Packing fills a column with what was in it and with sky. -/
theorem fits_packed {height : Nat} {cells : List (Nat × UInt8)} {loose : List UInt8}
    (hc : ∀ c ∈ cells, Cell.Fits height c.1 c.2) (hl : ∀ v ∈ loose, Cell.isTerrain v = true) :
    ∀ c ∈ packed height cells loose, Cell.Fits height c.1 c.2 := by
  -- A tank keeps its cell, terrain from the store fills what is free, and when the store is empty
  -- the sky is left.
  fun_induction packed height cells loose with
  | case1 => exact List.forall_mem_nil _
  | case2 loose y v cells hv ih =>
    rw [List.forall_mem_cons] at hc ⊢
    exact ⟨hc.1, ih hc.2 hl⟩
  | case3 y v cells hv earth loose ih =>
    rw [List.forall_mem_cons] at hc hl ⊢
    exact ⟨Cell.fits_of_isTerrain hl.1, ih hc.2 hl.2⟩
  | case4 y v cells hv ih =>
    rw [List.forall_mem_cons] at hc ⊢
    exact ⟨Cell.fits_dug hc.1, ih hc.2 hl⟩

/-- Laying cells into one column leaves every other column alone. -/
private theorem get_foldModify_of_ne {w h : Nat} (g : Grid w h) {x x' : Nat} (hne : x' ≠ x)
    (y : Nat) (cells : List (Nat × UInt8)) :
    (cells.foldl (fun g c => g.modify x c.1 fun _ => c.2) g).get x' y = g.get x' y := by
  induction cells generalizing g with
  | nil => rfl
  | cons c cells ih => rw [List.foldl_cons, ih, Grid.get_modify, if_neg fun h => hne h.1]

/-- A property of all cells is kept when cells that have it are laid into a column. -/
theorem foldModify_get {w h : Nat} {P : Nat → Nat → UInt8 → Prop} {g : Grid w h}
    (hg : ∀ x y, P x y (g.get x y)) {x : Nat} {cells : List (Nat × UInt8)}
    (hc : ∀ c ∈ cells, P x c.1 c.2) {x' y' : Nat} :
    P x' y' ((cells.foldl (fun g c => g.modify x c.1 fun _ => c.2) g).get x' y') := by
  induction cells generalizing g with
  | nil => exact hg x' y'
  | cons c cells ih =>
    rw [List.forall_mem_cons] at hc
    -- The cell that is laid has the property, and all others had it before.
    have hstep : ∀ a b, P a b ((g.modify x c.1 fun _ => c.2).get a b) := by
      intro a b
      rw [Grid.get_modify]
      split
      · rename_i heq
        exact heq.1 ▸ heq.2.1 ▸ hc.1
      · exact hg a b
    exact ih hstep hc.2

/-- Packing a column touches no other one. -/
theorem cell_packColumn_of_ne (r : Raster) {x x' : Nat} (hne : x' ≠ x) (y : Nat) :
    (r.packColumn x).cell x' y = r.cell x' y := get_foldModify_of_ne r.grid hne y _

/-- Packing a column leaves sky above the terrain. -/
theorem packColumn_skyClear (hs : r.SkyClear) {x : Nat} (hx : x < r.width) :
    (r.packColumn x).SkyClear := by
  have hcolumn : ∀ c ∈ r.columnUp x, Cell.Fits r.height c.1 c.2 := by
    intro c hc
    simp only [columnUp, List.mem_map, List.mem_reverse, Span.toList, List.mem_range'_1,
      playfield, Span.size] at hc
    obtain ⟨y, hy, rfl⟩ := hc
    exact hs x y hx (by omega)
  -- What is laid into the column was in it before, or is the sky of its row.
  intro x' y'
  apply foldModify_get (P := fun x y v => x < r.width → y < r.height → Cell.Fits r.height y v) hs
  intro c hc _ _
  exact fits_packed hcolumn (fun v hv => (List.mem_filter.1 hv).2) c hc

/-- Packing some columns touches neither the index nor any other column. -/
theorem foldl_packColumn (r : Raster) (xs : List Nat) :
    (xs.foldl packColumn r).width = r.width ∧ (xs.foldl packColumn r).height = r.height ∧
      (∀ x, (xs.foldl packColumn r).heightAt x = r.heightAt x) ∧
      ∀ x y, x ∉ xs → (xs.foldl packColumn r).cell x y = r.cell x y := by
  induction xs generalizing r with
  | nil => exact ⟨rfl, rfl, fun _ => rfl, fun _ _ _ => rfl⟩
  | cons x xs ih =>
    -- A column that is not packed is neither the first nor one of the others.
    obtain ⟨hw, hh, ha, hc⟩ := ih (r.packColumn x)
    refine ⟨hw, hh, ha, fun x' y hout => ?_⟩
    rw [List.mem_cons, not_or] at hout
    rw [List.foldl_cons, hc x' y hout.2, cell_packColumn_of_ne r hout.1]

/-- Falling keeps the size. -/
theorem compact_size (r : Raster) (cx radius : Int) :
    (r.compact cx radius).width = r.width ∧ (r.compact cx radius).height = r.height := by
  obtain ⟨hw, hh, _⟩ := r.foldl_packColumn (r.columnsAround cx radius).toList
  exact ⟨hw, hh⟩

/-- Falling keeps the index: it scans the columns that it packs. -/
theorem compact_indexed (hi : r.Indexed) (cx radius : Int) : (r.compact cx radius).Indexed := by
  obtain ⟨hw, hh, ha, hc⟩ := r.foldl_packColumn (r.columnsAround cx radius).toList
  apply indexed_rescan
  intro x hx hout
  have hcolumn : r.ColumnIndexed x := (indexed_iff r).1 hi x (hw ▸ hx)
  refine hcolumn.congr hh (ha x) fun y _ _ => ?_
  rw [hc x y (fun hm => hout (Span.mem_toList.1 hm))]

/-- Falling leaves sky behind. -/
theorem compact_skyClear (hs : r.SkyClear) (cx radius : Int) :
    (r.compact cx radius).SkyClear := by
  apply rescan_skyClear
  have hlt : ∀ x ∈ (r.columnsAround cx radius).toList, x < r.width := fun x hx =>
    (mem_columnsAround (Span.mem_toList.1 hx)).2.2
  -- The columns are packed one after another, each on the raster that the last one left.
  generalize (r.columnsAround cx radius).toList = xs at hlt
  induction xs generalizing r with
  | nil => exact hs
  | cons x xs ih =>
    rw [List.forall_mem_cons] at hlt
    exact ih (packColumn_skyClear hs hlt.1) hlt.2

end Earthworks

/-! ## Actors -/

section Actors

variable {r : Raster}

/-- Erasing the tanks keeps the index, since no tank is terrain. -/
theorem eraseActors_indexed (hi : r.Indexed) : r.eraseActors.Indexed := by
  apply mapRows_indexed hi
  intro y v
  show Cell.isTerrain (if Cell.isActor v then Cell.sky r.height y else v) = Cell.isTerrain v
  split
  · rename_i ha
    rw [Cell.isTerrain_sky, Cell.not_isTerrain_of_isActor ha]
  · rfl

/-- Where a tank is erased there is sky. -/
theorem eraseActors_skyClear (hs : r.SkyClear) : r.eraseActors.SkyClear := by
  intro x y hx hy
  rw [eraseActors, cell_mapRows]
  simp only [width_mapRows, height_mapRows, eraseActors] at hx hy ⊢
  rw [if_pos ⟨hx, hy⟩]
  split
  · exact Cell.fits_sky r.height y
  · exact hs x y hx hy

/-- Drawing a tank makes and removes no terrain. -/
theorem isTerrain_drawn {id : ActorId} (hid : id < Cell.actorCount) (dx rise : Int)
    (v : UInt8) :
    Cell.isTerrain (if Cell.isTerrain v then v
      else match silhouette dx rise with
        | some slot => UInt8.ofNat (id * Cell.actorStride + slot)
        | none => v) = Cell.isTerrain v := by
  split
  · rfl
  · rename_i hv
    split
    · rename_i slot hslot
      -- The pixel has a value of the band of the tanks, and the cell was free.
      have hb := silhouette_bounds hslot
      rw [Cell.not_isTerrain_of_isActor (Cell.isActor_palette hid hb.1 hb.2)]
      exact (Bool.eq_false_iff.2 hv).symm
    · rfl

/-- Drawing a tank keeps the size. -/
theorem stampActor_size (r : Raster) (id : ActorId) (cx ground : Int) :
    (r.stampActor id cx ground).width = r.width ∧
      (r.stampActor id cx ground).height = r.height := by
  unfold stampActor
  split <;> exact ⟨rfl, rfl⟩

/-- Drawing all tanks keeps the size. -/
theorem stampActors_size (r : Raster) (actors : List Actor) :
    (r.stampActors actors).width = r.width ∧ (r.stampActors actors).height = r.height := by
  unfold stampActors
  -- The tanks are drawn one after another, so that the raster changes along the induction.
  suffices h : ∀ (as : List Actor) (s : Raster),
      (as.foldl (fun s a => s.stampActor a.id a.x a.y) s).width = s.width ∧
        (as.foldl (fun s a => s.stampActor a.id a.x a.y) s).height = s.height from
    h _ r.eraseActors
  intro as
  induction as with
  | nil => exact fun s => ⟨rfl, rfl⟩
  | cons a as ih =>
    intro s
    have hfirst := s.stampActor_size a.id a.x a.y
    have hrest := ih (s.stampActor a.id a.x a.y)
    exact ⟨hrest.1.trans hfirst.1, hrest.2.trans hfirst.2⟩

/-- Drawing actors leaves the ground as it is. -/
theorem stampActor_heightAt (r : Raster) (id : ActorId) (cx ground x : Int) :
    (r.stampActor id cx ground).heightAt x = r.heightAt x := by
  unfold stampActor
  split <;> rfl

/-- Drawing the tanks changes no ground row. -/
theorem stampActors_heightAt (r : Raster) (actors : List Actor) (x : Int) :
    (r.stampActors actors).heightAt x = r.heightAt x := by
  unfold stampActors
  have herase : r.eraseActors.heightAt x = r.heightAt x := rfl
  rw [← herase]
  generalize r.eraseActors = erased
  induction actors.filter Actor.alive generalizing erased with
  | nil => rfl
  | cons a as ih => exact (ih _).trans (stampActor_heightAt erased a.id a.x a.y x)

/-- Drawing a tank keeps the index. -/
theorem stampActor_indexed (hi : r.Indexed) (id : ActorId) (cx ground : Int) :
    (r.stampActor id cx ground).Indexed := by
  unfold stampActor
  split
  · rename_i hid
    exact repaint_indexed hi _ _ fun x y v => isTerrain_drawn hid _ _ v
  · exact hi

/-- So does drawing all of them. -/
theorem stampActors_indexed (hi : r.Indexed) (actors : List Actor) :
    (r.stampActors actors).Indexed := by
  unfold stampActors
  have herased : r.eraseActors.Indexed := eraseActors_indexed hi
  generalize r.eraseActors = erased at herased
  induction actors.filter Actor.alive generalizing erased with
  | nil => exact herased
  | cons a as ih => exact ih _ (stampActor_indexed herased a.id a.x a.y)

/-- A tank is drawn with values of its band. -/
theorem stampActor_skyClear (hs : r.SkyClear) (id : ActorId) (cx ground : Int) :
    (r.stampActor id cx ground).SkyClear := by
  unfold stampActor
  split
  · rename_i hid
    apply repaint_skyClear hs
    intro x y v _ hv
    -- Terrain hides the tank; elsewhere it shows where its silhouette has a pixel.
    split
    · exact hv
    · split
      · rename_i slot hslot
        have hb := silhouette_bounds hslot
        exact Cell.fits_of_isActor (Cell.isActor_palette hid hb.1 hb.2)
      · exact hv
  · exact hs

end Actors

/-! ## Single cells -/

section Cells

variable {r : Raster} {x y : Int} {v : UInt8}

/-- The cells of a raster are those between its sides. -/
theorem inBounds_iff : r.inBounds x y = true ↔ 0 ≤ x ∧ x < r.width ∧ 0 ≤ y ∧ y < r.height := by
  simp [inBounds]

/-- The raster after one cell has been painted over, before its index is looked after. -/
private def painted (r : Raster) (x y : Int) (v : UInt8) : Raster :=
  r.repaint (r.columnsFrom x x) (r.rowsFrom y y) fun _ _ _ => v

/-- A note changes the ground row of its own column only. -/
private theorem heightAt_note {r : Raster} {x : Nat} (hx : x < r.width) (row : Nat) {x' : Nat} (hx' : x' < r.width) :
    (r.note x row).heightAt x' = if x' = x then (row : Int) else r.heightAt x' := by
  have hin : x' < (r.note x row).width := hx'
  rw [heightAt_of_lt _ hin, heightAt_of_lt r hx']
  simp only [note, hx, dite_true, Vector.getElem_set, eq_comm (a := x)]
  split <;> rfl

/-- `write` paints its cell and then looks after the index of the column in one of four ways. -/
private theorem write_eq (hb : r.inBounds x y) :
    r.write x y v =
      if y < playfieldTop then r.painted x y v
      else if Cell.isTerrain v ∧ y < r.heightAt x then (r.painted x y v).note x.toNat y.toNat
      else if Cell.isTerrain (r.cell x.toNat y.toNat) ∧ ¬Cell.isTerrain v ∧ y = r.heightAt x then
        (r.painted x y v).rescanColumn x
      else r.painted x y v := by
  have hpos := inBounds_iff.1 hb
  rw [write, if_pos hb, show r.sample x y = r.cell x.toNat y.toNat from
    if_pos ⟨hpos.1, hpos.2.2.1⟩]
  rfl

/-- Painting changes the one cell. -/
private theorem cell_painted (hb : r.inBounds x y) (x' y' : Nat) :
    (r.painted x y v).cell x' y' = if x' = x.toNat ∧ y' = y.toNat then v else r.cell x' y' := by
  rw [inBounds_iff] at hb
  rw [painted, cell_repaint]
  congr 1
  simp only [columnsFrom, rowsFrom, Span.mem_clipped, eq_iff_iff]
  omega

/-- Painting a cell leaves every other column indexed, and its own too if it lies above the
playfield. -/
private theorem painted_columnIndexed (hi : r.Indexed) (hb : r.inBounds x y) {x' : Nat}
    (hx : x' < r.width) (hout : x' = x.toNat → y < playfieldTop) :
    (r.painted x y v).ColumnIndexed x' := by
  refine ((indexed_iff r).1 hi x' hx).congr rfl rfl fun y' htop _ => ?_
  have hpos := inBounds_iff.1 hb
  rw [cell_painted hb, if_neg]
  -- The painted cell would lie in this column, and then above the rows that are indexed.
  intro heq
  have := hout heq.1
  omega

/-- Terrain painted above the ground row is the new ground row. -/
private theorem painted_isGround (hb : r.inBounds x y) (htop : playfieldTop ≤ y) {g : Nat}
    (hg : r.IsGround x.toNat g) (hy : y ≤ g) (hv : Cell.isTerrain v) :
    (r.painted x y v).IsGround x.toNat y.toNat := by
  have hpos := inBounds_iff.1 hb
  refine ⟨.inr ⟨by omega, ?_, ?_⟩, fun y' hy' hlt => ?_⟩
  · show y.toNat < r.height
    omega
  · rw [cell_painted hb, if_pos ⟨rfl, rfl⟩]
    exact hv
  · rw [cell_painted hb, if_neg (by omega)]
    exact hg.2 y' hy' (by omega)

/-- The ground row stays where it is while it is not painted and no terrain is painted above it. -/
private theorem painted_isGround_of_ne (hb : r.inBounds x y) {g : Nat}
    (hg : r.IsGround x.toNat g) (hne : y ≠ g) (hv : y < g → ¬Cell.isTerrain v) :
    (r.painted x y v).IsGround x.toNat g := by
  have hpos := inBounds_iff.1 hb
  refine ⟨?_, fun y' hy' hlt => ?_⟩
  · -- A ground row that is the height of the raster has no cell; any other keeps its terrain.
    obtain hh | ⟨htop, hlt, ht⟩ := hg.1
    · exact .inl hh
    · refine .inr ⟨htop, hlt, ?_⟩
      rw [cell_painted hb, if_neg (by omega)]
      exact ht
  · rw [cell_painted hb]
    split
    · exact hv (by omega)
    · exact hg.2 y' hy' hlt

/-- Where `write` neither notes a new ground row nor scans, the old one still holds. -/
private theorem painted_isGround_of_kept (hb : r.inBounds x y) (htop : playfieldTop ≤ y) {g : Nat}
    (hg : r.IsGround x.toNat g) (hrise : ¬(Cell.isTerrain v ∧ y < g))
    (hcut : ¬(Cell.isTerrain (r.cell x.toNat y.toNat) ∧ ¬Cell.isTerrain v ∧ y = g)) :
    (r.painted x y v).IsGround x.toNat g := by
  by_cases hne : y = g
  · have hpos := inBounds_iff.1 hb
    -- On the ground row itself terrain has been painted over terrain.
    obtain rfl | ⟨_, _, ht⟩ := hg.1
    · omega
    · have hrow : y.toNat = g := by omega
      rw [hrow] at hcut
      have hv : Cell.isTerrain v := Decidable.byContradiction fun hv => hcut ⟨ht, hv, hne⟩
      exact hrow ▸ painted_isGround hb htop hg (by omega) hv
  · exact painted_isGround_of_ne hb hg hne fun hlt hv => hrise ⟨hv, hlt⟩

/-- Writing a cell keeps the size. -/
theorem write_size (r : Raster) (x y : Int) (v : UInt8) :
    (r.write x y v).width = r.width ∧ (r.write x y v).height = r.height := by
  by_cases hb : r.inBounds x y
  · rw [write_eq hb]
    split
    · exact ⟨rfl, rfl⟩
    split
    · exact ⟨rfl, rfl⟩
    split <;> exact ⟨rfl, rfl⟩
  · rw [write, if_neg hb]
    exact ⟨rfl, rfl⟩

/-- Terrain painted above the ground row is indexed by noting its row. -/
private theorem noted_indexed (hi : r.Indexed) (hb : r.inBounds x y) (htop : playfieldTop ≤ y)
    {g : Nat} (hg : r.IsGround x.toNat g) (hy : y ≤ g) (hv : Cell.isTerrain v) :
    ((r.painted x y v).note x.toNat y.toNat).Indexed := by
  rw [indexed_iff]
  intro x' hx'
  have hpos := inBounds_iff.1 hb
  have hin : x.toNat < (r.painted x y v).width := by
    show x.toNat < r.width
    omega
  have hheight := heightAt_note hin y.toNat hx'
  -- In its own column the noted row is the ground row; the others keep theirs.
  by_cases he : x' = x.toNat
  · rw [if_pos he] at hheight
    exact ⟨y.toNat, hheight, he ▸ painted_isGround hb htop hg hy hv⟩
  · rw [if_neg he] at hheight
    have hcolumn := painted_columnIndexed (v := v) hi hb hx' fun h => absurd h he
    exact hcolumn.congr rfl hheight fun _ _ _ => rfl

/-- Writing a cell keeps the index. -/
theorem write_indexed (hi : r.Indexed) (x y : Int) (v : UInt8) : (r.write x y v).Indexed := by
  by_cases hb : r.inBounds x y
  · have hpos := inBounds_iff.1 hb
    obtain ⟨g, hg, hground⟩ := (indexed_iff r).1 hi x.toNat (by omega)
    have hcast : ((x.toNat : Nat) : Int) = x := by omega
    rw [hcast] at hg
    rw [write_eq hb, hg]
    split
    · -- Above the playfield nothing is indexed.
      rename_i hlow
      rw [indexed_iff]
      intro x' hx'
      exact painted_columnIndexed hi hb hx' fun _ => hlow
    rename_i hlow
    split
    · -- The index of the column is moved up to the new cell.
      rename_i hrise
      have hle : y ≤ g := by omega
      exact noted_indexed hi hb (by omega) hground hle hrise.1
    rename_i hrise
    split
    · -- The ground row itself has been dug away, and its column is scanned.
      apply indexed_rescan
      intro x' hx' hout
      apply painted_columnIndexed hi hb hx'
      intro he
      have hlt : x' < r.width := hx'
      have hin : x' ∈ r.columnsFrom x x := by
        simp only [columnsFrom, Span.mem_clipped]
        omega
      exact absurd hin hout
    · -- The painted cell lies below the ground row, or was no terrain and is none.
      rename_i hcut
      rw [indexed_iff]
      intro x' hx'
      by_cases he : x' = x.toNat
      · have hkept := painted_isGround_of_kept hb (by omega) hground hrise hcut
        exact ⟨g, by rw [he, hcast]; exact hg, he ▸ hkept⟩
      · exact painted_columnIndexed hi hb hx' fun h => absurd h he
  · rw [write, if_neg hb]
    exact hi

/-- Writing terrain, or the sky of its row, keeps the sky clear. -/
theorem write_skyClear (hs : r.SkyClear)
    (hv : Cell.isTerrain v = true ∨ v = Cell.sky r.height y) : (r.write x y v).SkyClear := by
  by_cases hb : r.inBounds x y
  · have hp : (r.painted x y v).SkyClear := by
      apply repaint_skyClear hs
      intro x' y' _ hy' _
      simp only [rowsFrom, Span.mem_clipped] at hy'
      have he : y = (y' : Int) := by omega
      obtain hv | hv := hv
      · exact Cell.fits_of_isTerrain hv
      · rw [hv, he]
        exact Cell.fits_sky r.height y'
    rw [write_eq hb]
    -- The index is looked after in different ways, but the cells are the painted ones in all of
    -- them.
    split
    · exact hp
    split
    · exact hp
    split
    · exact rescan_skyClear hp _
    · exact hp
  · rw [write, if_neg hb]
    exact hs

end Cells

end Artillery.Raster
