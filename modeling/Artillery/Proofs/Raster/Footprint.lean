import Artillery.Proofs.Raster.History
import Mathlib.Algebra.Order.Ring.Abs

/-!
# What earthworks cover

Digging takes the terrain out of a region and filling lays terrain where nothing is; each then scans
the columns of its region.  A raster that comes out of this is determined by the cells that were
painted and the columns that were scanned, and painting a cell twice is painting it once.  So only
the union of the regions counts, and not the order in which they were painted.

## Key results

- `earthworks_exact`: which cells each earthwork changes, and to what
- `Painted.unique`, `Painted.trans`: a painted raster is determined by what was painted, and
  paintings add up
- `PaintBy.performAll_painted`: what a history of earthworks of one kind paints
- `earthworks_order`: such a history depends only on which earthworks occur in it
-/

namespace Artillery.Raster

/-! ## Painting -/

/-- One raster is another in which some cells have been painted by a rule and some columns have been
scanned, among them those of the painted cells. -/
structure Painted (rule : Nat → UInt8 → UInt8) (cells : Nat → Nat → Prop) (columns : Nat → Prop)
    (r r' : Raster) : Prop where
  width : r'.width = r.width
  height : r'.height = r.height
  within {x y : Nat} : cells x y → columns x
  painted {x y : Nat} : x < r.width → y < r.height → cells x y →
    r'.cell x y = rule y (r.cell x y)
  kept {x y : Nat} : x < r.width → y < r.height → ¬cells x y → r'.cell x y = r.cell x y
  scanned {x : Nat} : x < r.width → columns x → r'.ColumnIndexed x
  unscanned {x : Nat} : x < r.width → ¬columns x → r'.heightAt x = r.heightAt x

namespace Painted

variable {rule : Nat → UInt8 → UInt8} {cells cells' : Nat → Nat → Prop}
  {columns columns' : Nat → Prop} {r r₁ r₂ : Raster}

theorem refl (r : Raster) : Painted rule (fun _ _ => False) (fun _ => False) r r where
  width := rfl
  height := rfl
  within := False.elim
  painted _ _ := False.elim
  kept _ _ _ := rfl
  scanned _ := False.elim
  unscanned _ _ := rfl

/-- What has been painted and scanned determines the raster. -/
theorem unique (h₁ : Painted rule cells columns r r₁) (h₂ : Painted rule cells columns r r₂) :
    r₁ = r₂ := by
  -- A cell of the regions is the rule's, and any other the raster's.
  have hcell (x y : Nat) (hx : x < r.width) (hy : y < r.height) : r₁.cell x y = r₂.cell x y := by
    by_cases hin : cells x y
    · rw [h₁.painted hx hy hin, h₂.painted hx hy hin]
    · rw [h₁.kept hx hy hin, h₂.kept hx hy hin]
  refine ext_cells (h₁.width.trans h₂.width.symm) (h₁.height.trans h₂.height.symm) ?_ ?_
  · intro x y hx hy
    exact hcell x y (h₂.width ▸ hx) (h₂.height ▸ hy)
  · intro x hx
    rw [h₂.width] at hx
    by_cases hin : columns x
    · -- Both columns have been scanned, and they show the same cells.
      obtain ⟨y₁, hrow₁, hground₁⟩ := h₁.scanned hx hin
      obtain ⟨y₂, hrow₂, hground₂⟩ := h₂.scanned hx hin
      have hsame : r₁.IsGround x y₂ := by
        refine hground₂.congr (h₁.height.trans h₂.height.symm) fun y _ hy => ?_
        rw [hcell x y hx (h₂.height ▸ hy)]
      rw [hrow₁, hrow₂, hground₁.unique hsame]
    · rw [h₁.unscanned hx hin, h₂.unscanned hx hin]

/-- Painting with a rule that changes nothing a second time adds the regions up. -/
theorem trans (hrule : ∀ y v, rule y (rule y v) = rule y v) (h : Painted rule cells columns r r₁)
    (h' : Painted rule cells' columns' r₁ r₂) :
    Painted rule (fun x y => cells x y ∨ cells' x y) (fun x => columns x ∨ columns' x) r r₂ where
  width := h'.width.trans h.width
  height := h'.height.trans h.height
  within := Or.imp h.within h'.within
  painted {x y} hx hy hin := by
    have hx₁ : x < r₁.width := h.width ▸ hx
    have hy₁ : y < r₁.height := h.height ▸ hy
    by_cases hsecond : cells' x y
    · rw [h'.painted hx₁ hy₁ hsecond]
      -- Where both have painted, the rule has been applied twice.
      by_cases hfirst : cells x y
      · rw [h.painted hx hy hfirst, hrule]
      · rw [h.kept hx hy hfirst]
    · rw [h'.kept hx₁ hy₁ hsecond, h.painted hx hy (hin.resolve_right hsecond)]
  kept {x y} hx hy hout := by
    rw [not_or] at hout
    rw [h'.kept (h.width ▸ hx) (h.height ▸ hy) hout.2, h.kept hx hy hout.1]
  scanned {x} hx hin := by
    have hx₁ : x < r₁.width := h.width ▸ hx
    by_cases hsecond : columns' x
    · exact h'.scanned hx₁ hsecond
    · -- The second painting has not touched the column that the first one has scanned.
      refine (h.scanned hx (hin.resolve_right hsecond)).congr h'.height
        (h'.unscanned hx₁ hsecond) fun y _ hy => ?_
      rw [h'.kept hx₁ hy fun hcell => hsecond (h'.within hcell)]
  unscanned {x} hx hout := by
    rw [not_or] at hout
    rw [h'.unscanned (h.width ▸ hx) hout.2, h.unscanned hx hout.1]

/-- Repainting a rectangle and scanning its columns paints the cells at which the rule works. -/
theorem of_repaint {xs ys : Span} {change : Nat → Nat → UInt8 → UInt8}
    (hwithin : ∀ x y, cells x y → columns x)
    (hcolumns : ∀ x, x < r.width → (columns x ↔ x ∈ xs))
    (hrows : ∀ x y, y < r.height → cells x y → y ∈ ys)
    (hin : ∀ x y v, cells x y → change x y v = rule y v)
    (hout : ∀ x y v, x ∈ xs → y ∈ ys → ¬cells x y → change x y v = v) :
    Painted rule cells columns r ((r.repaint xs ys change).rescan xs) where
  width := rfl
  height := rfl
  within {x y} := hwithin x y
  painted {x y} hx hy hcell := by
    have hm : x ∈ xs := (hcolumns x hx).1 (hwithin x y hcell)
    rw [cell_rescan, cell_repaint, if_pos ⟨hm, hrows x y hy hcell, hx, hy⟩, hin x y _ hcell]
  kept {x y} _ _ hcell := by
    rw [cell_rescan, cell_repaint]
    split
    · rename_i hm
      exact hout x y _ hm.1 hm.2.1 hcell
    · rfl
  -- The columns that are scanned have the ground row that the scan finds.
  scanned {x} hx hcolumn := by
    refine ⟨_, ?_, isGround_groundRow _ x⟩
    rw [heightAt_rescan, if_pos ⟨(hcolumns x hx).1 hcolumn, hx⟩]
    rfl
  unscanned {x} hx hcolumn := by
    rw [heightAt_rescan, if_neg fun hm => hcolumn ((hcolumns x hx).2 hm.1), heightAt_repaint]

end Painted

/-! ## The region of each earthwork -/

/-- The cells of a disc.  A negative radius makes none. -/
def Disc (cx cy radius : Int) (x y : Nat) : Prop :=
  0 ≤ radius ∧ (x - cx) ^ 2 + (y - cy) ^ 2 ≤ radius ^ 2

/-- The cells of a tunnel: from a mouth in the playfield as many rows up or down as it is deep, as
far as the playfield goes, and a quarter of the depth to each side, but at least 3. -/
def Tunnel (height : Nat) (cx mouth depth : Int) (down : Bool) (x y : Nat) : Prop :=
  playfieldTop ≤ mouth ∧ mouth < height ∧ |x - cx| ≤ max 3 (depth / 4) ∧ playfieldTop ≤ y ∧
    y < height ∧ if down then mouth ≤ y ∧ y < mouth + depth else mouth - depth < y ∧ y ≤ mouth

/-- The cells of a tower of dirt: seven columns, up from a foot as far as the playfield goes. -/
def Tower (cx foot height : Int) (x y : Nat) : Prop :=
  |x - cx| ≤ 3 ∧ max (playfieldTop : Int) (foot - height + 1) ≤ y ∧ y ≤ foot

/-- A disc is measured in squares. -/
theorem inDisc_iff {cx cy radius : Int} {x y : Nat} :
    inDisc cx cy radius x y = true ↔ (x - cx) ^ 2 + (y - cy) ^ 2 ≤ radius ^ 2 := by
  simp [inDisc, sq]

/-- It lies in the square around it. -/
theorem Disc.bounds {cx cy radius : Int} {x y : Nat} (h : Disc cx cy radius x y) :
    (cx - radius ≤ x ∧ x ≤ cx + radius) ∧ cy - radius ≤ y ∧ y ≤ cy + radius := by
  obtain ⟨hradius, hdisc⟩ := h
  have hsquare := sq_nonneg ((x : Int) - cx)
  have hsquare' := sq_nonneg ((y : Int) - cy)
  have hx : |(x : Int) - cx| ≤ radius := abs_le_of_sq_le_sq (by omega) hradius
  have hy : |(y : Int) - cy| ≤ radius := abs_le_of_sq_le_sq (by omega) hradius
  rw [abs_le] at hx hy
  omega

namespace Operation

/-- Whether an operation digs earth away. -/
def Digs : Operation → Prop
  | crater .. => True
  | digTunnel .. => True
  | _ => False

/-- Whether an operation lays earth down. -/
def Fills : Operation → Prop
  | fillDisc .. => True
  | raiseTower .. => True
  | _ => False

/-- The cells at which an earthwork works, in a raster of a given height. -/
def Covers (height : Nat) : Operation → Nat → Nat → Prop
  | crater cx cy radius => Disc cx cy radius
  | digTunnel cx mouth depth down => Tunnel height cx mouth depth down
  | fillDisc cx cy radius => fun x y => playfieldTop ≤ y ∧ Disc cx cy radius x y
  | raiseTower cx foot rise => Tower cx foot rise
  | _ => fun _ _ => False

/-- The columns that an earthwork scans. -/
def Scans : Operation → Nat → Prop
  | crater cx _ radius => fun x => cx - radius ≤ x ∧ x ≤ cx + radius
  | digTunnel cx _ depth _ => fun x =>
    cx - tunnelHalfWidth depth ≤ x ∧ x ≤ cx + tunnelHalfWidth depth
  | fillDisc cx _ radius => fun x => cx - radius ≤ x ∧ x ≤ cx + radius
  | raiseTower cx _ _ => fun x => cx - towerHalfWidth ≤ x ∧ x ≤ cx + towerHalfWidth
  | _ => fun _ => False

end Operation

/-! ## What digging and filling paint -/

/-- Digging twice is digging once. -/
theorem dug_dug (height y : Nat) (v : UInt8) : dug height y (dug height y v) = dug height y v := by
  unfold dug
  split <;> simp [*]

/-- So is filling twice. -/
theorem filled_filled (height y : Nat) (v : UInt8) :
    filled height y (filled height y v) = filled height y v := by
  unfold filled
  split <;> simp [*]

section Earthworks

variable (r : Raster)

/-- A crater digs its disc. -/
theorem crater_painted (cx cy radius : Int) :
    Painted (dug r.height) (Disc cx cy radius) (fun x => cx - radius ≤ x ∧ x ≤ cx + radius) r
      (r.crater cx cy radius) := by
  refine .of_repaint (fun x y h => h.bounds.1) (fun x hx => ?_) (fun x y hy h => ?_)
    (fun x y v h => if_pos (inDisc_iff.2 h.2)) (fun x y v hx _ h => if_neg fun hin => h ⟨?_, ?_⟩)
  · simp [columnsFrom, Span.mem_clipped, hx]
  · -- The rectangle that is gone through covers the disc.
    have := h.bounds.2
    simp [rowsFrom, Span.mem_clipped, hy, this]
  · have := Span.mem_clipped.1 hx
    omega
  · exact inDisc_iff.1 hin

/-- Dirt fills its disc as far as it lies in the playfield. -/
theorem fillDisc_painted (cx cy radius : Int) :
    Painted (filled r.height) (fun x y => playfieldTop ≤ y ∧ Disc cx cy radius x y)
      (fun x => cx - radius ≤ x ∧ x ≤ cx + radius) r (r.fillDisc cx cy radius) := by
  refine .of_repaint (fun x y h => h.2.bounds.1) (fun x hx => ?_) (fun x y hy h => ?_)
    (fun x y v h => if_pos (inDisc_iff.2 h.2.2))
    (fun x y v hx hy h => if_neg fun hin => h ⟨?_, ?_, ?_⟩)
  · -- What is painted lies in the rectangle that is gone through, and beyond the disc nothing is.
    simp [columnsFrom, Span.mem_clipped, hx]
  · have := h.2.bounds.2
    simp [playfieldFrom, Span.mem_clipped, hy, this, h.1]
  · have := Span.mem_clipped.1 hy
    omega
  · have := Span.mem_clipped.1 hx
    omega
  · exact inDisc_iff.1 hin

/-- A tower fills its columns. -/
theorem raiseTower_painted (cx foot height : Int) :
    Painted (filled r.height) (Tower cx foot height)
      (fun x => cx - towerHalfWidth ≤ x ∧ x ≤ cx + towerHalfWidth) r
      (r.raiseTower cx foot height) := by
  have hhalf : towerHalfWidth = 3 := rfl
  refine .of_repaint (fun x y h => ?_) (fun x hx => ?_) (fun x y hy h => ?_)
    (fun x y v _ => rfl) (fun x y v hx hy h => (h ⟨?_, ?_⟩).elim)
  · -- The rectangle that is gone through is the tower itself, on the raster.
    have := abs_le.1 h.1
    omega
  · simp [columnsFrom, Span.mem_clipped, hx]
  · exact Span.mem_clipped.2 ⟨h.2.1, h.2.2, hy⟩
  · have := Span.mem_clipped.1 hx
    rw [abs_le]
    omega
  · have := Span.mem_clipped.1 hy
    omega

/-- The rows of a tunnel. -/
theorem mem_tunnelRows {mouth depth : Int} {down : Bool} {y : Nat} :
    y ∈ r.tunnelRows mouth depth down ↔ playfieldTop ≤ mouth ∧ mouth < r.height ∧
      playfieldTop ≤ y ∧ y < r.height ∧
      if down then mouth ≤ y ∧ y < mouth + depth else mouth - depth < y ∧ y ≤ mouth := by
  unfold tunnelRows
  split
  · -- From a mouth in the playfield the rows are clipped to it at both ends.
    cases down <;> simp [playfieldFrom, Span.mem_clipped] <;> omega
  · simp [Span.mem_iff]
    omega

/-- A tunnel that has any rows is as wide as a quarter of its depth says. -/
theorem Tunnel.halfWidth {height : Nat} {cx mouth depth : Int} {down : Bool} {x y : Nat}
    (h : Tunnel height cx mouth depth down x y) :
    cx - tunnelHalfWidth depth ≤ x ∧ x ≤ cx + tunnelHalfWidth depth := by
  obtain ⟨_, _, hside, _, _, hrows⟩ := h
  have hdepth : 0 ≤ depth := by cases down <;> simp at hrows <;> omega
  rw [tunnelHalfWidth, Quantity.quotient_of_nonneg hdepth]
  rw [abs_le] at hside
  omega

/-- A tunnel digs its rows. -/
theorem digTunnel_painted (cx mouth depth : Int) (down : Bool) :
    Painted (dug r.height) (Tunnel r.height cx mouth depth down)
      (fun x => cx - tunnelHalfWidth depth ≤ x ∧ x ≤ cx + tunnelHalfWidth depth) r
      (r.digTunnel cx mouth depth down) := by
  refine .of_repaint (fun x y h => h.halfWidth) (fun x hx => ?_)
    (fun x y _ h => ?_) (fun x y v _ => rfl) (fun x y v hx hy h => (h ?_).elim)
  · simp [columnsFrom, Span.mem_clipped, hx]
  · obtain ⟨htop, hbottom, _, hrow⟩ := h
    exact (mem_tunnelRows r).2 ⟨htop, hbottom, hrow⟩
  · obtain ⟨htop, hbottom, hrow⟩ := (mem_tunnelRows r).1 hy
    have hside := Span.mem_clipped.1 hx
    -- A tunnel with any row at all has no negative depth.
    have hdepth : 0 ≤ depth := by cases down <;> simp at hrow <;> omega
    rw [tunnelHalfWidth, Quantity.quotient_of_nonneg hdepth] at hside
    exact ⟨htop, hbottom, abs_le.2 (by omega), hrow⟩

/-- Exactly the cells of a region that show a value of some kind have changed, each to the value of
its row. -/
def Alters (r r' : Raster) (region : Nat → Nat → Prop) (kind : UInt8 → Prop)
    (value : Nat → UInt8) : Prop :=
  ∀ x y, x < r.width → y < r.height →
    (region x y ∧ kind (r.cell x y) → r'.cell x y = value y) ∧
      (¬(region x y ∧ kind (r.cell x y)) → r'.cell x y = r.cell x y)

variable {r} {r' : Raster} {cells : Nat → Nat → Prop} {columns : Nat → Prop}

/-- Digging turns the terrain of a region into sky. -/
theorem Painted.alters_dug (h : Painted (dug r.height) cells columns r r') :
    r.Alters r' cells (Cell.isTerrain · = true) fun y => Cell.sky r.height y := by
  intro x y hx hy
  by_cases hin : cells x y
  · rw [h.painted hx hy hin, dug]
    split <;> simp [*]
  · simp [h.kept hx hy hin, hin]

/-- Filling turns what is neither terrain nor a tank in a region into terrain. -/
theorem Painted.alters_filled (h : Painted (filled r.height) cells columns r r') :
    r.Alters r' cells (fun v => Cell.isTerrain v = false ∧ Cell.isActor v = false)
      fun y => Cell.shade r.height y := by
  intro x y hx hy
  -- Terrain and tanks in the region stay, and so does everything outside it.
  by_cases hin : cells x y
  · rw [h.painted hx hy hin, filled]
    split
    · rename_i hv
      refine ⟨fun hfree => ?_, fun _ => rfl⟩
      simp [hfree.2] at hv
    · rename_i hv
      rw [not_or, Bool.not_eq_true, Bool.not_eq_true] at hv
      exact ⟨fun _ => rfl, fun hn => (hn ⟨hin, hv⟩).elim⟩
  · simp [h.kept hx hy hin, hin]

/-- Where nothing is painted nothing changes. -/
theorem Painted.idle {rule : Nat → UInt8 → UInt8} (h : Painted rule cells columns r r')
    (hnone : ∀ x y, ¬cells x y) {x y : Nat} (hx : x < r.width) (hy : y < r.height) :
    r'.cell x y = r.cell x y := h.kept hx hy (hnone x y)

/-- What each earthwork changes.  A crater turns the terrain of its disc into sky, wherever it lies;
a tunnel does so in the rows of the playfield that it reaches from a mouth in the playfield.  Dirt
fills the cells of a disc or of a tower, as far as they lie in the playfield, that show neither
terrain nor a tank.  No other cell changes, and for a negative size none at all. -/
theorem earthworks_exact (r : Raster) (cx cy n : Int) (down : Bool) :
    r.Alters (r.crater cx cy n) (Disc cx cy n) (Cell.isTerrain · = true)
        (fun y => Cell.sky r.height y) ∧
      r.Alters (r.digTunnel cx cy n down) (Tunnel r.height cx cy n down) (Cell.isTerrain · = true)
        (fun y => Cell.sky r.height y) ∧
      r.Alters (r.fillDisc cx cy n) (fun x y => playfieldTop ≤ y ∧ Disc cx cy n x y)
        (fun v => Cell.isTerrain v = false ∧ Cell.isActor v = false)
        (fun y => Cell.shade r.height y) ∧
      r.Alters (r.raiseTower cx cy n) (Tower cx cy n)
        (fun v => Cell.isTerrain v = false ∧ Cell.isActor v = false)
        (fun y => Cell.shade r.height y) ∧
      (n < 0 → ∀ x y, x < r.width → y < r.height →
        (r.crater cx cy n).cell x y = r.cell x y ∧
          (r.digTunnel cx cy n down).cell x y = r.cell x y ∧
          (r.fillDisc cx cy n).cell x y = r.cell x y ∧
          (r.raiseTower cx cy n).cell x y = r.cell x y) := by
  have hcrater := r.crater_painted cx cy n
  have htunnel := r.digTunnel_painted cx cy n down
  have hdisc := r.fillDisc_painted cx cy n
  have htower := r.raiseTower_painted cx cy n
  refine ⟨hcrater.alters_dug, htunnel.alters_dug, hdisc.alters_filled, htower.alters_filled, ?_⟩
  intro hneg x y hx hy
  -- None of the four regions has a cell.
  refine ⟨hcrater.idle (fun x y hin => ?_) hx hy, htunnel.idle (fun x y hin => ?_) hx hy,
    hdisc.idle (fun x y hin => ?_) hx hy, htower.idle (fun x y hin => ?_) hx hy⟩
  · have := hin.1
    omega
  · obtain ⟨_, _, _, _, _, hrows⟩ := hin
    cases down <;> simp at hrows <;> omega
  · have := hin.2.1
    omega
  · have := hin.2
    omega

end Earthworks

/-! ## Histories of digging and of filling -/

namespace Operation

/-- Operations of a kind all paint by one rule, which changes nothing where it has worked before. -/
structure PaintBy (kind : Operation → Prop) (rule : Nat → Nat → UInt8 → UInt8) : Prop where
  once : ∀ height y v, rule height y (rule height y v) = rule height y v
  paints : ∀ op, kind op → ∀ r : Raster, ∃ r', op.perform r = .ok r' ∧
    Painted (rule r.height) (op.Covers r.height) op.Scans r r'

/-- Craters and tunnels dig. -/
theorem paintBy_digs : PaintBy Digs dug where
  once := dug_dug
  paints op h r := by
    cases op with
    | crater cx cy radius => exact ⟨_, rfl, r.crater_painted cx cy radius⟩
    | digTunnel cx mouth depth down => exact ⟨_, rfl, r.digTunnel_painted cx mouth depth down⟩
    | _ => exact h.elim

/-- Discs and towers fill. -/
theorem paintBy_fills : PaintBy Fills filled where
  once := filled_filled
  paints op h r := by
    cases op with
    | fillDisc cx cy radius => exact ⟨_, rfl, r.fillDisc_painted cx cy radius⟩
    | raiseTower cx foot height => exact ⟨_, rfl, r.raiseTower_painted cx foot height⟩
    | _ => exact h.elim

namespace PaintBy

variable {kind : Operation → Prop} {rule : Nat → Nat → UInt8 → UInt8} (h : PaintBy kind rule)
  {ops : List Operation} (hops : ∀ op ∈ ops, kind op) (r : Raster)
include h hops

/-- Operations that paint by one rule paint the union of their regions. -/
theorem performAll_painted :
    ∃ r', performAll ops r = .ok r' ∧
      Painted (rule r.height) (fun x y => ∃ op ∈ ops, op.Covers r.height x y)
        (fun x => ∃ op ∈ ops, op.Scans x) r r' := by
  induction ops generalizing r with
  | nil => exact ⟨r, rfl, by simpa using Painted.refl r⟩
  | cons op ops ih =>
    obtain ⟨hop, hrest⟩ := List.forall_mem_cons.1 hops
    obtain ⟨r₁, hr₁, hfirst⟩ := h.paints op hop r
    obtain ⟨r', hr', hlater⟩ := ih hrest r₁
    -- The regions of the later ones are those that they have in the raster at the start.
    rw [hfirst.height] at hlater
    refine ⟨r', ?_, ?_⟩
    · simp only [performAll, hr₁]
      exact hr'
    · simpa only [List.mem_cons, exists_eq_or_imp] using hfirst.trans (h.once r.height) hlater

/-- So it only counts which operations occur. -/
theorem performAll_same {ops' : List Operation} (hsame : ∀ op, op ∈ ops' ↔ op ∈ ops) :
    ∃ r', performAll ops r = .ok r' ∧ performAll ops' r = .ok r' := by
  obtain ⟨r₁, hr₁, hfirst⟩ := h.performAll_painted hops r
  obtain ⟨r₂, hr₂, hsecond⟩ :=
    h.performAll_painted (fun op hop => hops op ((hsame op).1 hop)) r
  simp only [hsame] at hsecond
  exact ⟨r₁, hr₁, hfirst.unique hsecond ▸ hr₂⟩

end PaintBy

end Operation

open Operation

/-- Digging does not depend on order or repetition, and neither does filling: two histories of
craters and tunnels in which the same ones occur make the same raster of any raster, cells and index
alike, and so do two histories of discs and towers of dirt. -/
theorem earthworks_order {ops ops' : List Operation}
    (hkind : (∀ op ∈ ops, op.Digs) ∨ ∀ op ∈ ops, op.Fills) (hsame : ∀ op, op ∈ ops' ↔ op ∈ ops)
    (r : Raster) : ∃ r', performAll ops r = .ok r' ∧ performAll ops' r = .ok r' := by
  obtain hdigs | hfills := hkind
  · exact paintBy_digs.performAll_same hdigs r hsame
  · exact paintBy_fills.performAll_same hfills r hsame

/-- Two tunnels that meet in a crater, dug in another order and one of them twice. -/
theorem earthworks_order_junction :
    ∃ r', performAll [.crater 4 17 2, .digTunnel 4 15 5 true, .digTunnel 6 19 3 false]
        ((blank 9 20).fillDisc 4 20 6) = .ok r' ∧
      performAll [.digTunnel 6 19 3 false, .digTunnel 4 15 5 true, .crater 4 17 2,
        .digTunnel 6 19 3 false] ((blank 9 20).fillDisc 4 20 6) = .ok r' := by
  refine earthworks_order (.inl ?_) (fun op => ?_) _
  · simp [Digs]
  · simp only [List.mem_cons, List.not_mem_nil, or_false]
    tauto

end Artillery.Raster
