import Artillery.Proofs.Land

/-!
# Walks that never jump

A walk goes on by a slope that is never steeper than a doubled fresh one, and where it leaves its
ceiling or its lowest row it is put back there.  So the rows of neighbouring columns differ by no
more than a slope, also after they have been moved into the arena, and also where the limits cross:
there the walk has no room at all and stays on its lowest row.

## Key results

- `step_goesOn`: where a step of a walk leads to
- `OnCourse.step`: what a step keeps
- `rows_smooth`: what is kept of a walk is smooth
- `Smooth.zipWith_min`: so is what shows of two of them
- `bounds_crossed`: where the bottom row wraps around, no row can be kept inside
- `walks_smooth`: hills and mountains stay inside and never jump
-/

namespace Artillery.Land

/-- The rows of neighbouring columns differ by at most `d`. -/
def Smooth (d : Nat) (rows : List Int) : Prop := rows.IsChain fun a b => (b - a).natAbs ≤ d

/-- Of two smooth profiles the highest rows are smooth. -/
theorem Smooth.zipWith_min {d : Nat} {as bs : List Int} (ha : Smooth d as) (hb : Smooth d bs) :
    Smooth d (List.zipWith min as bs) := by
  unfold Smooth at *
  rw [List.isChain_iff_getElem] at *
  intro i hi
  rw [List.length_zipWith] at hi
  have hleft := ha i (by omega)
  have hright := hb i (by omega)
  simp only [List.getElem_zipWith]
  omega

namespace Relief

variable {t : Relief} {lowest : Int} {w : Walk}

/-- The steepest slope that a walk can have: a fresh one, doubled. -/
def reach (t : Relief) : Nat := 2 * t.steepest.toNat

/-- There is a fresh slope, and walks are turned back with slopes that they can have. -/
structure Gentle (t : Relief) : Prop where
  fresh : 0 ≤ t.steepest
  descend : t.descend.natAbs ≤ t.reach
  ascend : t.ascend.natAbs ≤ t.reach

/-- The steps of hills are gentle, whatever the bumpiness. -/
theorem hills_gentle (b : Bounds) (bumpiness : Int) : (hills b bumpiness).Gentle :=
  ⟨by simp [hills], by simp [hills, reach], by simp [hills, reach]⟩

/-- The steps of peaks are gentle. -/
theorem peaks_gentle (b : Bounds) : (peaks b).Gentle :=
  ⟨by simp [peaks], by simp [peaks, reach], by simp [peaks, reach]⟩

/-- A walk keeps its slope or takes a fresh one. -/
theorem nextSlope_le (hfresh : 0 ≤ t.steepest) {slope : Int} (hslope : slope.natAbs ≤ t.reach)
    (k : Keystream) : ((t.nextSlope slope).run k).1.natAbs ≤ t.reach := by
  unfold nextSlope
  rw [Draw.run_bind]
  split
  · -- A fresh slope is taken from both sides of level ground, and maybe doubled.
    generalize ((pick 100).run k).2 = k
    have hpos := pick_nonneg (2 * t.steepest + 1) k
    have hlt := pick_lt (n := 2 * t.steepest + 1) (by omega) k
    rw [Draw.run_bind]
    dsimp only
    rw [Draw.run_bind, Draw.run_pure]
    unfold reach
    split <;> omega
  · exact hslope

/-- A step goes by a slope and is then kept between the ceiling and the lowest row, of which the
lowest row wins. -/
theorem step_goesOn (lowest : Int) (hgentle : t.Gentle) (hw : w.slope.natAbs ≤ t.reach)
    (k : Keystream) :
    ∃ slope : Int, slope.natAbs ≤ t.reach ∧
      ((t.step lowest w).run k).1.row = min lowest (max t.ceiling (w.row + slope)) ∧
      ((t.step lowest w).run k).1.slope.natAbs ≤ t.reach := by
  obtain ⟨slope, hs⟩ : ∃ slope, ((t.nextSlope w.slope).run k).1 = slope := ⟨_, rfl⟩
  have hslope : slope.natAbs ≤ t.reach := hs ▸ nextSlope_le hgentle.fresh hw k
  obtain ⟨_, hdescend, hascend⟩ := hgentle
  refine ⟨slope, hslope, ?_⟩
  unfold step
  rw [Draw.run_bind, hs]
  dsimp only
  -- Whether the step leaves the ceiling, and whether what is left of it leaves the lowest row.
  split
  · rw [Draw.run_pure]
    dsimp only
    split
    · refine ⟨by dsimp only; omega, ?_⟩
      dsimp only
      split <;> split <;> omega
    · refine ⟨by dsimp only; omega, ?_⟩
      dsimp only
      split <;> omega
  · rw [Draw.run_pure]
    dsimp only
    split
    · refine ⟨by dsimp only; omega, ?_⟩
      dsimp only
      split <;> omega
    · exact ⟨by dsimp only; omega, hslope⟩

/-- The first row of a walk is where it stands. -/
theorem rows_head {n : Nat} {k : Keystream} {row : Int}
    (h : ((t.rows lowest n w).run k).1.head? = some row) : row = w.row := by
  cases n with
  | zero => exact nomatch h
  | succ n => exact (Option.some.inj h).symm

/-- A walk that has not risen above its ceiling, or above its lowest row where that is the higher
one, and whose slope is one that it can have. -/
structure OnCourse (t : Relief) (lowest : Int) (w : Walk) : Prop where
  row : min t.ceiling lowest ≤ w.row
  slope : w.slope.natAbs ≤ t.reach

/-- A walk stays on its course. -/
theorem OnCourse.step (hgentle : t.Gentle) (h : t.OnCourse lowest w) (k : Keystream) :
    t.OnCourse lowest ((t.step lowest w).run k).1 := by
  obtain ⟨slope, _, hrow, hslope⟩ := step_goesOn lowest hgentle h.slope k
  exact ⟨by omega, hslope⟩

variable {top : Int} (hceiling : top ≤ t.ceiling) (hlowest : top ≤ lowest)
include hceiling hlowest

/-- A step of a walk leads no further than its slope, as far as the rows are kept. -/
theorem OnCourse.near (hgentle : t.Gentle) (h : t.OnCourse lowest w) (k : Keystream) :
    (max top (min ((t.step lowest w).run k).1.row lowest) - max top (min w.row lowest)).natAbs ≤
      t.reach := by
  obtain ⟨slope, hslope, hrow, _⟩ := step_goesOn lowest hgentle h.slope k
  have habove := h.row
  -- Where the ceiling lies below the lowest row, both rows are the lowest one.
  omega

/-- The rows that are kept of a walk are smooth. -/
theorem rows_smooth (hgentle : t.Gentle) (n : Nat) (h : t.OnCourse lowest w) (k : Keystream) :
    Smooth t.reach (((t.rows lowest n w).run k).1.map fun row => max top (min row lowest)) := by
  induction n generalizing w k with
  | zero => exact .nil
  | succ n ih =>
    obtain ⟨next, hnext⟩ : ∃ next, ((t.step lowest w).run k).1 = next := ⟨_, rfl⟩
    obtain ⟨k', hk⟩ : ∃ k', ((t.step lowest w).run k).2 = k' := ⟨_, rfl⟩
    have hrun : ((t.rows lowest (n + 1) w).run k).1 =
        w.row :: ((t.rows lowest n next).run k').1 := by
      rw [← hnext, ← hk]
      rfl
    have hrest := ih (hnext ▸ h.step hgentle k) k'
    rw [hrun, List.map_cons]
    refine List.isChain_cons.2 ⟨?_, hrest⟩
    -- If there is another row, it is the one that the step has led to.
    intro row hrow
    rw [List.head?_map] at hrow
    obtain ⟨first, hfirst, rfl⟩ := Option.map_eq_some_iff.1 hrow
    rw [rows_head hfirst, ← hnext]
    exact h.near hceiling hlowest hgentle k

end Relief

/-! ## Hills and mountains -/

section

variable {b : Bounds} (hrelief : b.top + 20 ≤ b.bottom - 1)
include hrelief

/-- What is kept of a walk is smooth if its ceiling lies where rows are kept. -/
theorem kept_smooth {t : Relief} (hgentle : t.Gentle) (hceiling : b.top + 20 ≤ t.ceiling) {w : Walk}
    (h : t.OnCourse (b.bottom - 1) w) {n : Nat} {k : Keystream} {kept : List Int}
    (hkept : keptInside b ((t.rows (b.bottom - 1) n w).run k).1 = .ok kept) :
    Smooth t.reach kept := by
  unfold keptInside at hkept
  rw [mapM_clampInt hrelief] at hkept
  exact Except.ok.inj hkept ▸ t.rows_smooth hceiling hrelief hgentle n h k

/-- Rolling land is smooth. -/
theorem rolling_smooth {width : Nat} {bumpiness : Int} {k : Keystream} {rows : List Int}
    (h : ((rollingProfile width b bumpiness).run k).1 = .ok rows) : Smooth 2 rows := by
  have hpos := pick_nonneg (b.bottom - b.top - 60) k
  refine kept_smooth hrelief (Relief.hills_gentle b bumpiness) ?_ ⟨?_, Nat.zero_le _⟩ h
  · show b.top + 20 ≤ b.top + 40
    omega
  · show min (b.top + 40) (b.bottom - 1) ≤ ((pick (b.bottom - b.top - 60)).run k).1 + b.top + 40
    omega

/-- A ridge is smooth. -/
theorem ridge_smooth {width : Nat} {k : Keystream} {rows : List Int}
    (h : ((ridge width b).run k).1 = .ok rows) : Smooth 4 rows := by
  have hpos := pick_nonneg (b.bottom - b.top - 80) k
  refine kept_smooth hrelief (Relief.peaks_gentle b) ?_ ⟨?_, Nat.zero_le _⟩ h
  · show b.top + 20 ≤ b.top + 25
    omega
  · show min (b.top + 25) (b.bottom - 1) ≤ ((pick (b.bottom - b.top - 80)).run k).1 + b.top + 50
    omega

/-- Mountains show the highest of three ridges. -/
theorem mountain_smooth {width : Nat} {k : Keystream} {rows : List Int}
    (h : ((mountainProfile width b).run k).1 = .ok rows) : Smooth 4 rows := by
  obtain ⟨first, hfirst, h⟩ := Fault.bind_ok h
  obtain ⟨second, hsecond, h⟩ := Fault.bind_ok h
  obtain ⟨third, hthird, h⟩ := Fault.bind_ok h
  obtain rfl := Except.ok.inj h
  have hbehind := (ridge_smooth hrelief hfirst).zipWith_min (ridge_smooth hrelief hsecond)
  exact hbehind.zipWith_min (ridge_smooth hrelief hthird)

end

/-! ## Arenas whose bottom row wraps around -/

section

variable {b : Bounds} (hcrossed : b.bottom - 1 < b.top + 20)
include hcrossed

/-- Where the bounds are crossed, not even the first row of a walk can be kept inside. -/
theorem Relief.kept_crossed (t : Relief) (lowest : Int) {n : Nat} (h : 0 < n) (w : Walk)
    (k : Keystream) :
    keptInside b ((t.rows lowest n w).run k).1 = .error .crossedBounds := by
  obtain ⟨row, rows, hrows⟩ := List.exists_cons_of_length_pos (t.rows_length lowest n w k ▸ h)
  unfold keptInside
  rw [hrows, List.mapM_cons, clampInt_of_lt _ hcrossed]
  rfl

/-- Rolling land fails on bounds that are crossed, from its first column on. -/
theorem rolling_crossed {width : Nat} (h : 0 < width) (bumpiness : Int) (k : Keystream) :
    ((rollingProfile width b bumpiness).run k).1 = .error .crossedBounds :=
  (hills b bumpiness).kept_crossed hcrossed _ h ..

/-- The first of the three ridges is already one too many. -/
theorem mountain_crossed {width : Nat} (h : 0 < width) (k : Keystream) :
    ((mountainProfile width b).run k).1 = .error .crossedBounds := by
  have hridge : ((ridge width b).run k).1 = .error .crossedBounds :=
    (peaks b).kept_crossed hcrossed _ h ..
  rw [mountainProfile_run, hridge]
  rfl

end

/-- A height that is not a number of 32 bits leaves the bottom row above the display. -/
theorem bounds_crossed {height : Nat} (large : 2 ^ 31 < height) (word : height < 2 ^ 32) :
    (boundsOf height).bottom - 1 < (boundsOf height).top + 20 := by
  have hwrapped : Quantity.int32 ((height : Int) - 1) = (height : Int) - 1 - 0x100000000 :=
    Quantity.int32_of_gt (by unfold Quantity.greatest; omega)
      (by unfold Quantity.greatest Quantity.least; omega)
  unfold boundsOf playfieldTop
  dsimp only
  rw [hwrapped]
  omega

/-- In every arena of an accepted height, however wide the land is made, hills and mountains have a
row for each column that lies at least 20 rows below the display and clear of the bottom, and the
rows of neighbouring columns differ by at most 2 in hills and by at most 4 in mountains.  Heights
beyond 32 bits are accepted as well; there the bottom row wraps around, and neither hills nor
mountains can be generated. -/
theorem walks_smooth {columns height : Nat} (hscreen : Config.checkScreen columns height = .ok ())
    (width : Nat) (bumpiness : Int) (k : Keystream) :
    (Quantity.Fits32 height →
      (∃ rows, ((rolling.profile width height bumpiness).run k).1 = .ok rows ∧
        rows.length = width ∧ Between 35 (height - 2) rows ∧ Smooth 2 rows) ∧
      ∃ rows, ((mountain.profile width height bumpiness).run k).1 = .ok rows ∧
        rows.length = width ∧ Between 35 (height - 2) rows ∧ Smooth 4 rows) ∧
    (2 ^ 31 < height → height < 2 ^ 32 → 0 < width →
      ((rolling.profile width height bumpiness).run k).1 = .error .crossedBounds ∧
      ((mountain.profile width height bumpiness).run k).1 = .error .crossedBounds) := by
  constructor
  · intro fits
    have hrelief := relief_of_height (Config.size_of_checkScreen hscreen).2 fits
    -- The height fits, so that the bottom is the last row and not a wrapped number.
    have hbottom : (boundsOf height).bottom = height - 1 := by
      refine Quantity.int32_of_fits ?_
      unfold Quantity.Fits32 Quantity.least at *
      omega
    have hbounds : (boundsOf height).top + 20 = 35 ∧ (boundsOf height).bottom - 1 = height - 2 :=
      ⟨rfl, by omega⟩
    obtain ⟨rows, hrun, hlength, hrows⟩ :=
      rolling_between hrelief width (Quantity.int32 bumpiness) k
    obtain ⟨rows', hrun', hlength', hrows'⟩ := mountain_between hrelief width k
    rw [hbounds.1, hbounds.2] at hrows hrows'
    exact ⟨⟨rows, hrun, hlength, hrows, rolling_smooth hrelief hrun⟩,
      rows', hrun', hlength', hrows', mountain_smooth hrelief hrun'⟩
  · -- A height from here on is negative as a signed number, and its bottom lies above the top.
    intro large word hwidth
    have hcrossed := bounds_crossed large word
    exact ⟨rolling_crossed hcrossed hwidth _ k, mountain_crossed hcrossed hwidth k⟩

/-- In the lowest arena hills have their ceiling below their lowest row; one of 2147483648 rows and
another hundred has its bottom row far above the display. -/
theorem walks_smooth_extremes :
    (Config.checkScreen 41 55 = .ok () ∧ Quantity.Fits32 (55 : Nat) ∧
      (∃ rows, ((rolling.profile 60 55 100).run (.ofSeed 42)).1 = .ok rows ∧ rows.length = 60 ∧
        Between 35 ((55 : Nat) - 2) rows ∧ Smooth 2 rows) ∧
      ∃ rows, ((mountain.profile 60 55 100).run (.ofSeed 42)).1 = .ok rows ∧ rows.length = 60 ∧
        Between 35 ((55 : Nat) - 2) rows ∧ Smooth 4 rows) ∧
    (Config.checkScreen 41 2147483748 = .ok () ∧ 2 ^ 31 < 2147483748 ∧ 2147483748 < 2 ^ 32 ∧
      0 < 41 ∧
      ((rolling.profile 41 2147483748 20).run (.ofSeed 42)).1 = .error .crossedBounds ∧
      ((mountain.profile 41 2147483748 20).run (.ofSeed 42)).1 = .error .crossedBounds) := by
  have hlowest : Config.checkScreen 41 55 = .ok () := rfl
  have hhighest : Config.checkScreen 41 2147483748 = .ok () := rfl
  have hfits : Quantity.Fits32 (55 : Nat) := by decide
  refine ⟨⟨hlowest, hfits, (walks_smooth hlowest 60 100 _).1 hfits⟩, hhighest, by decide, by decide,
    by decide, ?_⟩
  exact (walks_smooth hhighest 41 20 _).2 (by decide) (by decide) (by decide)

/-- An accepted height for which no hills can be generated. -/
theorem hills_crossed :
    Config.checkScreen 41 2147483748 = .ok () ∧
      ¬∃ rows, ((rolling.profile 41 2147483748 20).run (.ofSeed 42)).1 = .ok rows := by
  have hlarge : 2 ^ 31 < 2147483748 := by decide
  have hword : 2147483748 < 2 ^ 32 := by decide
  have hwidth : 0 < 41 := by decide
  refine ⟨rfl, fun hrows => ?_⟩
  obtain ⟨rows, hrun⟩ := hrows
  have hfault := rolling_crossed (bounds_crossed hlarge hword) hwidth (Quantity.int32 20) (.ofSeed 42)
  cases hfault.symm.trans hrun

end Artillery.Land
