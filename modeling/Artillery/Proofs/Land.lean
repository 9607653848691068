import Artillery.Proofs.Draw
import Artillery.Proofs.Number.Value
import Artillery.Proofs.Raster.Profile

/-!
# Generated land in arenas of every size

A walk stays between the rows it is kept in and a castle grows from a base in the middle of the
arena, so their land fits wherever it can be generated.  Slopes and valleys start at a fixed row
below the display, which the lowest arenas do not reach: there the first column has no ground.

## Key results

- `slopeProfile_between`, `vProfile_between`: a slope and a valley lie between their two ends
- `rolling_between`, `mountain_between`: a walk lies where it is kept
- `castle_between`: neither the base nor the towers of a castle leave the playfield
- `profile_fits`: from which height on each kind of land fits
- `generated_ground`: when every column of generated land has ground
-/

namespace Artillery

namespace Land

open Quantity (HasValue Rounded hasValue_ofNat hasValue_ofInt floor_within)

/-- Every row of a profile lies from one row to another. -/
def Between (lo hi : Int) (rows : List Int) : Prop := ∀ row ∈ rows, lo ≤ row ∧ row ≤ hi

/-- A row that is picked is not negative. -/
theorem pick_nonneg (n : Int) (k : Keystream) : 0 ≤ ((pick n).run k).1 := by
  unfold pick
  split
  · exact Int.natCast_nonneg _
  · exact Int.le_refl 0

/-- It lies below the bound. -/
theorem pick_lt {n : Int} (hn : 0 < n) (k : Keystream) : ((pick n).run k).1 < n := by
  unfold pick
  rw [dif_pos hn]
  have hlt := Draw.below_lt (n := n.toNat) (by omega) k
  show ((((Draw.below n.toNat (by omega)).run k).1 : Nat) : Int) < n
  omega

/-! ## Slopes -/

/-- A part of a way ends between its beginning and its end. -/
theorem quotient_between {d x s : Int} (hs : 0 < s) (hx : 0 ≤ x) (hxs : x ≤ s) :
    min 0 d ≤ Quantity.quotient (d * x) s (Int.ne_of_gt hs) ∧
      Quantity.quotient (d * x) s (Int.ne_of_gt hs) ≤ max 0 d := by
  have hnone : (0 : Int).tdiv s = 0 := Int.zero_tdiv s
  have hall : (d * s).tdiv s = d := Int.mul_tdiv_cancel d hs.ne'
  unfold Quantity.quotient
  -- The quotient grows with the dividend, in the direction of the sign.
  obtain hd | hd := le_total 0 d
  · have hlow := Int.tdiv_le_tdiv hs (mul_nonneg hd hx)
    have hhigh := Int.tdiv_le_tdiv hs (mul_le_mul_of_nonneg_left hxs hd)
    omega
  · have hlow := Int.tdiv_le_tdiv hs (mul_le_mul_of_nonpos_left hxs hd)
    have hhigh := Int.tdiv_le_tdiv hs (mul_nonpos_of_nonpos_of_nonneg hd hx)
    omega

/-- The rows of a slope lie between its ends. -/
theorem slopeProfile_between (width : Nat) (b : Bounds) :
    Between (min (b.top + 40) (b.bottom - 1)) (max (b.top + 40) (b.bottom - 1))
      (slopeProfile width b) := by
  intro row hrow
  obtain ⟨x, hx, rfl⟩ := List.mem_map.1 hrow
  have hlt : x < width := List.mem_range.1 hx
  have hpart := quotient_between (d := b.bottom - 1 - (b.top + 40)) (x := x)
    (s := slopeSpan width) (by unfold slopeSpan; omega) (by omega) (by unfold slopeSpan; omega)
  omega

/-- A slope begins at its upper end. -/
theorem slopeProfile_first {width : Nat} (hw : 0 < width) (b : Bounds) :
    (slopeProfile width b)[0]? = some (b.top + 40) := by
  unfold slopeProfile
  rw [List.getElem?_map, List.getElem?_range hw]
  simp [Quantity.quotient]

/-! ## Valleys -/

/-- How far a column lies from the middle, as a part of the way to the left edge. -/
def vDistance (width x : Nat) : Float :=
  (Float.ofNat x - Float.ofNat (max 1 (width / 2))).abs / Float.ofNat (max 1 (width / 2))

/-- The distance from the middle is a part of its greatest value. -/
theorem vDistance_value {width x : Nat} (hw : width < 2 ^ 31) (hx : x < width) :
    ∃ r, HasValue (vDistance width x) r ∧ 0 ≤ r ∧ r ≤ 1 ∧ (x = 0 → r = 1) := by
  obtain ⟨c, hc⟩ : ∃ c, max 1 (width / 2) = c := ⟨_, rfl⟩
  have hcenter : HasValue (Float.ofNat c) c := hasValue_ofNat (by omega)
  have hpos : (0 : ℚ) < c := by exact_mod_cast (show 0 < c by omega)
  have hoff : HasValue (Float.ofNat x - Float.ofNat c) ((x - c : Int) : ℚ) := by
    have hsub := (hasValue_ofNat (n := x) (by omega)).sub hcenter
    rw [show (x : ℚ) - c = ((x - c : Int) : ℚ) by push_cast; rfl] at hsub
    exact hsub.int (by omega)
  -- The numerator is an integer and exact; only the quotient may be rounded.
  have habs : HasValue (Float.ofNat x - Float.ofNat c).abs ((|(x : Int) - c| : Int) : ℚ) := by
    rw [Int.cast_abs]
    exact hoff.abs
  have hle : |(x : Int) - c| ≤ c := abs_le.2 ⟨by omega, by omega⟩
  have hdiv := habs.div hcenter hpos.ne'
  unfold vDistance
  rw [hc]
  by_cases h0 : x = 0
  · -- The first column is exactly one such way off.
    refine ⟨1, ?_, zero_le_one, le_rfl, fun _ => rfl⟩
    have hwhole : ((|(x : Int) - c| : Int) : ℚ) / c = ((1 : Int) : ℚ) := by
      rw [show |(x : Int) - c| = c by rw [h0, abs_of_nonpos (by omega)]; omega, Int.cast_natCast,
        div_self hpos.ne', Int.cast_one]
    rw [hwhole] at hdiv
    exact_mod_cast hdiv.int (by decide)
  · have hleast : ((0 : Int) : ℚ) ≤ (|(x : Int) - c| : Int) / c := by
      rw [Int.cast_zero]
      positivity
    have hmost : ((|(x : Int) - c| : Int) : ℚ) / c ≤ (1 : Int) := by
      rw [Int.cast_one, div_le_one hpos]
      exact_mod_cast hle
    obtain ⟨r, hr, hlow, hhigh⟩ := hdiv.within (by decide) (by decide) hleast hmost
    exact ⟨r, hr, by exact_mod_cast hlow, by exact_mod_cast hhigh, fun h => absurd h h0⟩

/-- A part of a number lies between zero and the number. -/
theorem mul_between (d : Int) {r : ℚ} (h0 : 0 ≤ r) (h1 : r ≤ 1) :
    ((min 0 d : Int) : ℚ) ≤ d * r ∧ d * r ≤ ((max 0 d : Int) : ℚ) := by
  -- A part of a negative number lies above it.
  obtain hd | hd := le_total 0 d
  · have hd' : (0 : ℚ) ≤ d := by exact_mod_cast hd
    rw [min_eq_left hd, max_eq_right hd, Int.cast_zero]
    exact ⟨mul_nonneg hd' h0, mul_le_of_le_one_right hd' h1⟩
  · have hd' : (d : ℚ) ≤ 0 := by exact_mod_cast hd
    have hwhole := mul_le_mul_of_nonpos_left h1 hd'
    rw [mul_one] at hwhole
    rw [min_eq_right hd, max_eq_left hd, Int.cast_zero]
    exact ⟨hwhole, mul_nonpos_of_nonpos_of_nonneg hd' h0⟩

/-- The row at a distance from the middle of a valley. -/
def vRow (high low : Int) (distance : Float) : Int :=
  Quantity.floor (Quantity.ofInt low - (Quantity.ofInt low - Quantity.ofInt high) * distance)

section

variable {high low : Int} (hhigh : high.natAbs < 2 ^ 31) (hlow : low.natAbs < 2 ^ 31)
include hhigh hlow

/-- The height of a valley is exact. -/
theorem drop_value :
    HasValue (Quantity.ofInt low - Quantity.ofInt high) ((low - high : Int) : ℚ) := by
  have hsub := (hasValue_ofInt (n := low) (by omega)).sub (hasValue_ofInt (n := high) (by omega))
  rw [← Int.cast_sub] at hsub
  exact hsub.int (by omega)

/-- However the products and differences are rounded, the row lies between both ends. -/
theorem vRow_between {distance : Float} {r : ℚ} (hd : HasValue distance r) (h0 : 0 ≤ r)
    (h1 : r ≤ 1) :
    min high low ≤ vRow high low distance ∧ vRow high low distance ≤ max high low := by
  obtain ⟨hpart, hpart'⟩ := mul_between (low - high) h0 h1
  obtain ⟨s, hs, hs0, hs1⟩ :=
    ((drop_value hhigh hlow).mul hd).within (by omega) (by omega) hpart hpart'
  have hrow := (hasValue_ofInt (n := low) (by omega)).sub hs
  -- The part that is taken off is bounded by integers, past which no rounding leads.
  have hleast : ((min high low : Int) : ℚ) ≤ low - s := by
    rw [show min high low = low - max 0 (low - high) by omega, Int.cast_sub]
    linarith
  have hmost : low - s ≤ ((max high low : Int) : ℚ) := by
    rw [show max high low = low - min 0 (low - high) by omega, Int.cast_sub]
    linarith
  exact floor_within hrow (by unfold Quantity.least; omega) (by unfold Quantity.greatest; omega)
    hleast hmost

/-- At the left edge the valley is as high as it gets. -/
theorem vRow_edge {distance : Float} (hd : HasValue distance 1) :
    vRow high low distance = high := by
  have hproduct := (drop_value hhigh hlow).mul hd
  rw [mul_one] at hproduct
  have hrow := (hasValue_ofInt (n := low) (by omega)).sub (hproduct.int (by omega))
  rw [← Int.cast_sub, sub_sub_cancel] at hrow
  have hsame : high ≤ vRow high low distance ∧ vRow high low distance ≤ high :=
    floor_within hrow (by unfold Quantity.least; omega) (by unfold Quantity.greatest; omega)
      le_rfl le_rfl
  exact le_antisymm hsame.2 hsame.1

end

/-- The rows of a valley lie between its ends. -/
theorem vProfile_between {width : Nat} {b : Bounds} (hw : width < 2 ^ 31)
    (hhigh : (b.top + 50).natAbs < 2 ^ 31) (hlow : (b.bottom - 20).natAbs < 2 ^ 31) :
    Between (min (b.top + 50) (b.bottom - 20)) (max (b.top + 50) (b.bottom - 20))
      (vProfile width b) := by
  intro row hrow
  obtain ⟨x, hx, rfl⟩ := List.mem_map.1 hrow
  obtain ⟨r, hr, h0, h1, _⟩ := vDistance_value hw (List.mem_range.1 hx)
  exact vRow_between hhigh hlow hr h0 h1

/-- A valley begins at its upper end. -/
theorem vProfile_first {width : Nat} {b : Bounds} (hpos : 0 < width) (hw : width < 2 ^ 31)
    (hhigh : (b.top + 50).natAbs < 2 ^ 31) (hlow : (b.bottom - 20).natAbs < 2 ^ 31) :
    (vProfile width b)[0]? = some (b.top + 50) := by
  obtain ⟨r, hr, _, _, hedge⟩ := vDistance_value hw hpos
  rw [hedge rfl] at hr
  unfold vProfile
  rw [List.getElem?_map, List.getElem?_range hpos]
  exact congrArg some (vRow_edge hhigh hlow hr)

/-! ## Walks -/

/-- Whatever a walk does, it goes over all columns. -/
theorem Relief.rows_length (t : Relief) (lowest : Int) (n : Nat) (w : Walk) (k : Keystream) :
    ((t.rows lowest n w).run k).1.length = n := by
  induction n generalizing w k with
  | zero => rfl
  | succ n ih =>
    have hrest := ih ((t.step lowest w).run k).1 ((t.step lowest w).run k).2
    exact congrArg (· + 1) hrest

/-- However a walk goes, what is kept of it has a row for every column and lies inside. -/
theorem Relief.kept_between {b : Bounds} (h : b.top + 20 ≤ b.bottom - 1) (t : Relief)
    (lowest : Int) (n : Nat) (w : Walk) (k : Keystream) :
    ∃ kept, keptInside b ((t.rows lowest n w).run k).1 = .ok kept ∧ kept.length = n ∧
      Between (b.top + 20) (b.bottom - 1) kept := by
  refine ⟨_, mapM_clampInt h _, ?_, fun row hrow => ?_⟩
  · rw [List.length_map, t.rows_length]
  · obtain ⟨r, _, rfl⟩ := List.mem_map.1 hrow
    omega

/-- Hills stay between their bounds. -/
theorem rolling_between {b : Bounds} (h : b.top + 20 ≤ b.bottom - 1) (width : Nat)
    (bumpiness : Int) (k : Keystream) :
    ∃ rows, ((rollingProfile width b bumpiness).run k).1 = .ok rows ∧ rows.length = width ∧
      Between (b.top + 20) (b.bottom - 1) rows :=
  (hills b bumpiness).kept_between h ..

/-- So does a ridge. -/
theorem ridge_between {b : Bounds} (h : b.top + 20 ≤ b.bottom - 1) (width : Nat) (k : Keystream) :
    ∃ rows, ((ridge width b).run k).1 = .ok rows ∧ rows.length = width ∧
      Between (b.top + 20) (b.bottom - 1) rows :=
  (peaks b).kept_between h ..

/-- The higher of two rows lies between the same bounds. -/
theorem Between.zipWith_min {lo hi : Int} {as bs : List Int} (ha : Between lo hi as)
    (hb : Between lo hi bs) : Between lo hi (List.zipWith min as bs) := by
  intro row hrow
  obtain ⟨i, hi, rfl⟩ := List.mem_iff_getElem.1 hrow
  rw [List.getElem_zipWith]
  have hleft := ha _ (List.getElem_mem (l := as) (n := i) (by simp at hi; omega))
  have hright := hb _ (List.getElem_mem (l := bs) (n := i) (by simp at hi; omega))
  omega

/-- Three ridges are drawn, one after another. -/
theorem mountainProfile_run (width : Nat) (b : Bounds) (k : Keystream) :
    ((mountainProfile width b).run k).1 = (do
      let behind := List.zipWith min (← ((ridge width b).run k).1)
        (← ((ridge width b).run ((ridge width b).run k).2).1)
      return List.zipWith min behind
        (← ((ridge width b).run ((ridge width b).run ((ridge width b).run k).2).2).1)) := rfl

/-- So does a mountain. -/
theorem mountain_between {b : Bounds} (h : b.top + 20 ≤ b.bottom - 1) (width : Nat)
    (k : Keystream) :
    ∃ rows, ((mountainProfile width b).run k).1 = .ok rows ∧ rows.length = width ∧
      Between (b.top + 20) (b.bottom - 1) rows := by
  obtain ⟨first, hfirst, hlength, hbetween⟩ := ridge_between h width k
  obtain ⟨second, hsecond, hlength', hbetween'⟩ := ridge_between h width ((ridge width b).run k).2
  obtain ⟨third, hthird, hlength'', hbetween''⟩ :=
    ridge_between h width ((ridge width b).run ((ridge width b).run k).2).2
  -- Three ridges are drawn one after another, and the highest of them is seen.
  refine ⟨List.zipWith min (List.zipWith min first second) third, ?_, ?_,
    (hbetween.zipWith_min hbetween').zipWith_min hbetween''⟩
  · rw [mountainProfile_run, hfirst, hsecond, hthird]
    rfl
  · rw [List.length_zipWith, List.length_zipWith]
    omega

/-! ## Castles -/

/-- The base varies by two rows at most. -/
theorem uneven_between (base : Int) (width : Nat) (k : Keystream) :
    Between (base - 2) (base + 2) ((uneven base width).run k).1.toList := by
  induction width with
  | zero => exact fun row hrow => absurd hrow List.not_mem_nil
  | succ width ih =>
    have hpos := pick_nonneg 5 ((uneven base width).run k).2
    have hlt := pick_lt (n := 5) (by omega) ((uneven base width).run k).2
    -- The rows are drawn one after another, so that the last one is drawn from where the others
    -- have left.
    have hrun : ((uneven base (width + 1)).run k).1 = ((uneven base width).run k).1.push
        (base + ((pick 5).run ((uneven base width).run k).2).1 - 2) := rfl
    rw [hrun, Vector.toList_push]
    intro row hrow
    obtain hbefore | rfl := List.mem_append.1 hrow |>.imp_right List.mem_singleton.1
    · exact ih row hbefore
    · omega

/-- A tower only raises the ground, and not above its battlements. -/
theorem Tower.raise_between (t : Tower) (x : Nat) (row : Int) :
    min row (t.roof - 5) ≤ t.raise x row ∧ t.raise x row ≤ row := by
  unfold Tower.raise
  dsimp only
  split <;> omega

/-- What each turn keeps is kept by all of them. -/
private theorem fold_keeps {α : Type} {P : α → Prop} {n : Nat} {f : (i : Nat) → i < n → α → α}
    (hf : ∀ i h a, P a → P (f i h a)) {a : α} (ha : P a) : P (n.fold f a) := by
  induction n with
  | zero => exact ha
  | succ n ih =>
    rw [Nat.fold_succ]
    exact hf n (by omega) _ (ih fun i h a => hf i (by omega) a)

/-- With its roof far enough below the display, so are the columns of a tower. -/
theorem Tower.build_between {lo hi : Int} {width : Nat} (t : Tower) (hroof : lo + 5 ≤ t.roof)
    {rows : Vector Int width} (h : Between lo hi rows.toList) :
    Between lo hi (t.build rows).toList := by
  refine fold_keeps (P := fun rows : Vector Int width => Between lo hi rows.toList)
    (fun i within rows h row hrow => ?_) h
  -- A column of the tower takes the higher one of its row and the row of the tower.
  have hx := Span.lt_of_clipped within
  obtain hbefore | rfl := Vector.mem_or_eq_of_mem_set (Vector.mem_toList_iff.1 hrow)
  · exact h row (Vector.mem_toList_iff.2 hbefore)
  · have hbefore := h _ (Vector.mem_toList_iff.2 (Vector.getElem_mem hx))
    exact ⟨(le_min hbefore.1 (by omega)).trans (t.raise_between ..).1,
      (t.raise_between ..).2.trans hbefore.2⟩

/-- However many towers are built, none rises into the display. -/
theorem buildTowers_between {b : Bounds} {base hi : Int} {width : Nat} (spacing : Int) (n i : Nat)
    {rows : Vector Int width} (h : Between b.top hi rows.toList) (k : Keystream) :
    Between b.top hi ((buildTowers b base spacing n i rows).run k).1.toList := by
  induction n generalizing i rows k with
  | zero => exact h
  | succ n ih =>
    -- Whatever is drawn for it, the first tower has its roof below the display.
    obtain ⟨t, k', hroof, hrun⟩ : ∃ (t : Tower) (k' : Keystream), b.top + 5 ≤ t.roof ∧
        ((buildTowers b base spacing (n + 1) i rows).run k).1 =
          ((buildTowers b base spacing n (i + 1) (t.build rows)).run k').1 :=
      ⟨⟨_, _, _⟩, _, le_max_right _ _, rfl⟩
    rw [hrun]
    exact ih (i + 1) (t.build_between hroof h) k'

/-- The base of a castle leaves room for its unevenness at both ends. -/
theorem castleBase_between {n : Int} (hn : 69 ≤ n) (hlarge : n < 2 ^ 31) :
    17 ≤ Quantity.floor (Quantity.ofInt n * 0.65) ∧
      Quantity.floor (Quantity.ofInt n * 0.65) ≤ n - 17 := by
  have hfactor : HasValue 0.65 (5854679515581645 * 2 ^ (-53 : Int)) := by
    have hunpack : (0.65 : Float).toModel.unpack =
        .finite .positive 5854679515581645 (-53) (by decide) := rfl
    unfold HasValue
    rw [hunpack]
    exact .finite ⟨by decide, by decide, .inl (by decide)⟩
  have hproduct := (hasValue_ofInt (n := n) (by omega)).mul hfactor
  have hn' : (69 : ℚ) ≤ n := by exact_mod_cast hn
  have hhalf : (1 / 2 : ℚ) ≤ 5854679515581645 * 2 ^ (-53 : Int) := by norm_num
  have hmost : (5854679515581645 : ℚ) * 2 ^ (-53 : Int) ≤ 3 / 4 := by norm_num
  -- All that counts of the factor is that it lies between one half and three quarters.
  generalize (5854679515581645 : ℚ) * 2 ^ (-53 : Int) = c at hproduct hhalf hmost
  have hbelow : (n : ℚ) * (1 / 2) ≤ n * c := mul_le_mul_of_nonneg_left hhalf (by linarith)
  have habove : (n : ℚ) * c ≤ n * (3 / 4) := mul_le_mul_of_nonneg_left hmost (by linarith)
  refine floor_within hproduct (by decide) (by unfold Quantity.greatest; omega) ?_ ?_
  · push_cast
    linarith
  · push_cast
    linarith

/-- The rows of a castle lie between the bounds of the arena. -/
theorem castle_between {width : Nat} {b : Bounds} (h : 69 ≤ b.top + b.bottom)
    (hlarge : b.top + b.bottom < 2 ^ 31) (htop : b.top ≤ 15) (k : Keystream) :
    ((castleProfile width b).run k).1.length = width ∧
      Between b.top b.bottom ((castleProfile width b).run k).1 := by
  obtain ⟨base, hbase⟩ : ∃ base, Quantity.floor (Quantity.ofInt (b.top + b.bottom) * 0.65) = base :=
    ⟨_, rfl⟩
  obtain ⟨hleast, hmost⟩ := hbase ▸ castleBase_between h hlarge
  obtain ⟨spacing, n, k', hrun⟩ : ∃ spacing n k', ((castleProfile width b).run k).1 =
      ((buildTowers b base spacing n 0 ((uneven base width).run k).1).run k').1.toList := by
    rw [← hbase]
    exact ⟨_, _, _, rfl⟩
  -- Before the towers each row lies within two rows of the base.
  have hrows : Between b.top b.bottom ((uneven base width).run k).1.toList := fun row hrow => by
    have := uneven_between base width k row hrow
    omega
  rw [hrun]
  exact ⟨Vector.length_toList .., buildTowers_between spacing n 0 hrows k'⟩

/-! ## Land that fits -/

/-- The lowest arena in which a kind of land leaves no column without ground. -/
def leastHeight : Land → Nat
  | slope => playfieldTop + 41
  | vShaped => playfieldTop + 51
  | flat => Config.minHeight
  | rolling => Config.minHeight
  | mountain => Config.minHeight
  | castle => Config.minHeight

/-- A profile has a row for every column, none of them above the playfield.  From a least height on
none lies below the arena; in a lower arena the first one does. -/
structure Fits (width height least : Nat) (rows : List Int) : Prop where
  length : rows.length = width
  above : ∀ row ∈ rows, (playfieldTop : Int) ≤ row
  below : least ≤ height → ∀ row ∈ rows, row < height
  first : height < least → ∃ row, rows[0]? = some row ∧ (height : Int) ≤ row

/-- Rows between two bounds that lie in the arena fit it. -/
theorem Fits.of_between {width height least : Nat} {lo hi : Int} {rows : List Int}
    (hlength : rows.length = width) (h : Between lo hi rows) (hlo : (playfieldTop : Int) ≤ lo)
    (hhi : hi < height) (hleast : least ≤ height) : Fits width height least rows where
  length := hlength
  above row hrow := hlo.trans (h row hrow).1
  below _ row hrow := lt_of_le_of_lt (h row hrow).2 hhi
  first hlow := absurd hlow (not_lt.2 hleast)

/-- Where the ground descends from its first row, that row decides. -/
theorem Fits.of_first {width height least : Nat} {high low : Int} {rows : List Int}
    (hlength : rows.length = width) (h : Between (min high low) (max high low) rows)
    (hfirst : rows[0]? = some high) (hhigh : (playfieldTop : Int) ≤ high)
    (hlow : (playfieldTop : Int) ≤ low) (hbottom : low < height)
    (hleast : (least : Int) = high + 1) : Fits width height least rows where
  length := hlength
  above row hrow := (le_min hhigh hlow).trans (h row hrow).1
  below hfits row hrow := lt_of_le_of_lt (h row hrow).2 (max_lt (by omega) hbottom)
  first hlow := ⟨high, hfirst, by omega⟩

/-- The numbers that a kind of land is made with are numbers of 32 bits. -/
structure Countable (land : Land) (width height : Nat) : Prop where
  columns : Quantity.Fits32 width
  /-- The middle of the arena is half the sum of its ends. -/
  rows : Quantity.Fits32 ((playfieldTop : Int) + (height - 1))
  /-- A slope goes down all the way in every column before it is divided. -/
  slope : land = slope → Quantity.Fits32 ((width : Int) * height)

instance (land : Land) (width height : Nat) : Decidable (land.Countable width height) :=
  decidable_of_iff (Quantity.Fits32 width ∧ Quantity.Fits32 ((playfieldTop : Int) + (height - 1)) ∧
    (land = Land.slope → Quantity.Fits32 ((width : Int) * height)))
    ⟨fun h => ⟨h.1, h.2.1, h.2.2⟩, fun h => ⟨h.columns, h.rows, h.slope⟩⟩

section

variable {width height : Nat} (hscreen : Config.checkScreen width height = .ok ()) {land : Land}
  (hcount : land.Countable width height)
include hscreen hcount

/-- An accepted arena that can be counted is large enough, and not too large to calculate with. -/
theorem size_bounds :
    41 ≤ width ∧ 55 ≤ height ∧ width < 2 ^ 31 ∧ height + 14 < 2 ^ 31 := by
  have hmin : 41 ≤ width ∧ 55 ≤ height := Config.size_of_checkScreen hscreen
  have hwidth := hcount.columns.2
  have hheight := hcount.rows.2
  unfold Quantity.greatest playfieldTop at hheight
  unfold Quantity.greatest at hwidth
  omega

/-- Every kind of land fits from its least height on. -/
theorem profile_fits (bumpiness : Int) (k : Keystream) :
    ∃ rows, ((land.profile width height bumpiness).run k).1 = .ok rows ∧
      Fits width height land.leastHeight rows := by
  obtain ⟨hw, hh, hwidth, hheight⟩ := size_bounds hscreen hcount
  obtain ⟨b, hb⟩ : ∃ b, boundsOf height = b := ⟨_, rfl⟩
  have htop : b.top = 15 := hb ▸ rfl
  have hbottom : b.bottom = height - 1 := by
    rw [← hb]
    exact Quantity.int32_of_fits
      (by unfold Quantity.Fits32 Quantity.least Quantity.greatest; omega)
  have hplayfield : (playfieldTop : Int) = 15 := rfl
  have hmin : Config.minHeight = 55 := rfl
  -- Each kind of land is known by its bounds; slopes and valleys also by where they begin.
  cases land with
  | flat =>
    have hhalf : Quantity.quotient (b.top + b.bottom) 2 (by decide) = (b.top + b.bottom) / 2 :=
      Quantity.quotient_of_nonneg (by omega) _
    have hrows : Between ((b.top + b.bottom) / 2 + 20) ((b.top + b.bottom) / 2 + 20)
        (List.replicate width (Quantity.quotient (b.top + b.bottom) 2 (by decide) + 20)) := by
      intro row hrow
      have := List.eq_of_mem_replicate hrow
      omega
    subst hb
    exact ⟨_, rfl, .of_between List.length_replicate hrows (by omega) (by omega)
      (by show 55 ≤ height; omega)⟩
  | slope =>
    have hrows := slopeProfile_between width b
    have hfirst : (slopeProfile width b)[0]? = some (b.top + 40) :=
      slopeProfile_first (by omega) b
    have hlength : (slopeProfile width b).length = width := by simp [slopeProfile]
    subst hb
    refine ⟨_, rfl, .of_first hlength hrows hfirst (by omega) (by omega) (by omega) ?_⟩
    rw [htop]
    rfl
  | rolling =>
    obtain ⟨rows, hrun, hlength, hrows⟩ :=
      rolling_between (b := b) (by omega) width (Quantity.int32 bumpiness) k
    subst hb
    exact ⟨rows, hrun, .of_between hlength hrows (by omega) (by omega) (by show 55 ≤ height; omega)⟩
  | mountain =>
    obtain ⟨rows, hrun, hlength, hrows⟩ := mountain_between (b := b) (by omega) width k
    subst hb
    exact ⟨rows, hrun, .of_between hlength hrows (by omega) (by omega) (by show 55 ≤ height; omega)⟩
  | vShaped =>
    have hhigh : (b.top + 50).natAbs < 2 ^ 31 := by omega
    have hlow : (b.bottom - 20).natAbs < 2 ^ 31 := by omega
    have hrows := vProfile_between hwidth hhigh hlow
    have hfirst := vProfile_first (by omega) hwidth hhigh hlow
    have hlength : (vProfile width b).length = width := by simp [vProfile]
    subst hb
    refine ⟨_, rfl, .of_first hlength hrows hfirst (by omega) (by omega) (by omega) ?_⟩
    rw [htop]
    rfl
  | castle =>
    obtain ⟨hlength, hrows⟩ : ((castleProfile width b).run k).1.length = width ∧
        Between b.top b.bottom ((castleProfile width b).run k).1 :=
      castle_between (by omega) (by omega) htop.le k
    subst hb
    exact ⟨_, rfl, .of_between hlength hrows (by omega) (by omega) (by show 55 ≤ height; omega)⟩

/-- Land can be generated for every arena of an accepted size that can be counted in 32 bits.  Its
profile has one row for each column, and none above the playfield.  From the least height of its
kind on, and only from there, all rows lie in the arena and every column of the land has ground:
slopes and valleys leave the first column bare in the lowest arenas. -/
theorem generated_ground (bumpiness : Int) (k : Keystream) :
    ∃ rows r, ((land.profile width height bumpiness).run k).1 = .ok rows ∧
      ((land.generate width height bumpiness).run k).1 = .ok r ∧ rows.length = width ∧
      (∀ row ∈ rows, (playfieldTop : Int) ≤ row) ∧
      ((∀ row ∈ rows, row < height) ↔ land.leastHeight ≤ height) ∧
      ((∀ x < width, ∃ y < height, Cell.isTerrain (r.cell x y) = true) ↔
        land.leastHeight ≤ height) := by
  have room := Room.of_checkScreen hscreen
  obtain ⟨rows, hrows, hfits⟩ := profile_fits hscreen hcount bumpiness k
  obtain ⟨r, hr, -, -⟩ := Raster.ofProfile_returns width room.rows rows
  have hgenerate : ((land.generate width height bumpiness).run k).1 = .ok r := by
    show ((land.profile width height bumpiness).run k).1.bind (Raster.ofProfile width height) = _
    rw [hrows]
    exact hr
  refine ⟨rows, r, hrows, hgenerate, hfits.length, hfits.above, ⟨fun hbelow => ?_, hfits.below⟩,
    ⟨fun hground => ?_, fun hleast x hx => ?_⟩⟩
  · by_contra hlow
    obtain ⟨row, hrow, hle⟩ := hfits.first (by omega)
    have := hbelow row (List.mem_of_getElem? hrow)
    omega
  · -- In a lower arena the first column has its row below all cells.
    by_contra hlow
    obtain ⟨row, hrow, hle⟩ := hfits.first (by omega)
    have hpos : 0 < width := by
      have := room.columns
      omega
    obtain ⟨y, hy, hterrain⟩ := hground 0 hpos
    obtain ⟨row', hrow', hle'⟩ := (Raster.isTerrain_ofProfile room.rows hr hpos hy).1 hterrain
    obtain rfl : row = row' := Option.some.inj (hrow.symm.trans hrow')
    omega
  · -- The row of a column is the first one that has ground there.
    have hlt : x < rows.length := hfits.length ▸ hx
    have habove := hfits.above rows[x] (List.getElem_mem hlt)
    have hbelow := hfits.below hleast rows[x] (List.getElem_mem hlt)
    refine ⟨rows[x].toNat, by omega, ?_⟩
    rw [Raster.isTerrain_ofProfile room.rows hr hx (by omega)]
    exact ⟨rows[x], List.getElem?_eq_getElem hlt, by omega⟩

end

/-- A slope in the arena of the usual size. -/
theorem generated_ground_slope :
    Config.checkScreen 320 200 = .ok () ∧ slope.Countable 320 200 ∧
      ∃ rows r, ((slope.profile 320 200 20).run (.ofSeed 7)).1 = .ok rows ∧
        ((slope.generate 320 200 20).run (.ofSeed 7)).1 = .ok r ∧ rows.length = 320 ∧
        (∀ row ∈ rows, (playfieldTop : Int) ≤ row) ∧
        ((∀ row ∈ rows, row < (200 : Nat)) ↔ slope.leastHeight ≤ 200) ∧
        ((∀ x < 320, ∃ y < 200, Cell.isTerrain (r.cell x y) = true) ↔ slope.leastHeight ≤ 200) :=
  ⟨rfl, by decide, generated_ground rfl (by decide) 20 _⟩

/-- In the lowest arenas a slope and a valley begin below the last row. -/
theorem low_land_bare :
    Config.checkScreen 41 55 = .ok () ∧ Config.checkScreen 41 65 = .ok () ∧
      (∃ rows, ((slope.profile 41 55 20).run (.ofSeed 42)).1 = .ok rows ∧
        ¬∀ row ∈ rows, row < (55 : Nat)) ∧
      ∃ rows, ((vShaped.profile 41 65 20).run (.ofSeed 42)).1 = .ok rows ∧
        ¬∀ row ∈ rows, row < (65 : Nat) := by
  refine ⟨rfl, rfl, ⟨slopeProfile 41 (boundsOf 55), rfl, by decide⟩,
    ⟨vProfile 41 (boundsOf 65), rfl, fun h => ?_⟩⟩
  have hfirst : (vProfile 41 (boundsOf 65))[0]? = some ((boundsOf 65).top + 50) :=
    vProfile_first (by decide) (by decide) (by decide) (by decide)
  exact absurd (h _ (List.mem_of_getElem? hfirst)) (by decide)

end Land

end Artillery
