import Artillery.Proofs.Raster.History
import Artillery.Proofs.Raster.Tanks
import Mathlib.Data.List.Induction

/-!
# The picture of the actors

Drawing the actors lays a picture of them over the raster.  What a cell shows afterwards depends on
its own value and on the last actor of the table that is drawn there, and on nothing that the raster
showed elsewhere; and where nobody is drawn, earlier pictures leave nothing behind but sky.

## Key results

- `silhouette_eq`: the pixels of a tank and the values they take
- `cell_stampActors`: what each cell shows after all actors have been drawn
- `overlaid_self`, `overlaid_overlaid`: a picture over the same picture, and over another one
- `stampActors_overlay`: the picture is exact, and replaces the one before
-/

namespace Artillery

namespace Actor

instance (a : Actor) (x y : Int) : Decidable (a.Occupies x y) :=
  inferInstanceAs (Decidable (_ ∨ _))

/-- Which of its values an actor shows in a row.  The rows of the body have one each, counted from
the ground line; the dome has the last of them. -/
def slotAt (a : Actor) (y : Int) : Nat := if a.y - 4 ≤ y then (a.y - y).toNat else 4

/-- The value that an actor shows in a row. -/
def tint (a : Actor) (y : Int) : UInt8 := UInt8.ofNat (a.id * Cell.actorStride + a.slotAt y)

/-- Living actors are drawn at their pixels, as far as there are values for them. -/
def DrawnAt (a : Actor) (x y : Int) : Prop :=
  a.alive = true ∧ a.id < Cell.actorCount ∧ a.Occupies x y

instance (a : Actor) (x y : Int) : Decidable (a.DrawnAt x y) :=
  inferInstanceAs (Decidable (_ ∧ _))

/-- A tank shows the first four of its values only. -/
theorem Occupies.slotAt_bounds {a : Actor} {x y : Int} (h : a.Occupies x y) :
    1 ≤ a.slotAt y ∧ a.slotAt y ≤ 4 := by
  unfold Occupies at h
  unfold slotAt
  split <;> omega

/-- Whoever is drawn at a cell has the value of an actor for it. -/
theorem DrawnAt.isActor_tint {a : Actor} {x y : Int} (h : a.DrawnAt x y) :
    Cell.isActor (a.tint y) = true :=
  Cell.isActor_palette h.2.1 h.2.2.slotAt_bounds.1 h.2.2.slotAt_bounds.2

/-- The values of an actor that is drawn are its own, and none of them is cut to fit a byte. -/
theorem DrawnAt.toNat_tint {a : Actor} {x y : Int} (h : a.DrawnAt x y) :
    (a.tint y).toNat = 8 * a.id + a.slotAt y := by
  have hdiv := Cell.toNat_palette_div h.2.1 h.2.2.slotAt_bounds.2
  have hmod : (a.tint y).toNat % 8 = (a.id * 8 + a.slotAt y) % 8 := by
    rw [tint, UInt8.toNat_ofNat']
    exact Nat.mod_mod_of_dvd _ (by decide)
  have hslot := h.2.2.slotAt_bounds
  change (a.tint y).toNat / 8 = a.id at hdiv
  omega

end Actor

/-- The silhouette of a tank has its values at its pixels. -/
theorem silhouette_eq (a : Actor) (x y : Int) :
    silhouette (x - a.x) (a.y - y) = if a.Occupies x y then some (a.slotAt y) else none := by
  by_cases hin : a.Occupies x y
  · rw [if_pos hin]
    have hin' := hin
    unfold Actor.Occupies at hin'
    unfold silhouette Actor.slotAt
    have hbody : Actor.bodyHeight = 4 := rfl
    have hhalf : Actor.halfWidth = 3 := rfl
    have hdome : Actor.domeHeight = 4 := rfl
    -- The body reaches down to the actor's line, and the dome stands on it.
    by_cases hlow : a.y - 4 ≤ y
    · rw [if_pos (by omega), if_pos hlow]
    · rw [if_neg (by omega), if_neg hlow, if_pos (by omega)]
  · rw [if_neg hin, ← Option.not_isSome_iff_eq_none, isSome_silhouette]
    exact hin

/-- The actor that is seen at a pixel: of those that are drawn there, the last in the table. -/
def topmost? (as : List Actor) (x y : Int) : Option Actor :=
  (as.filter (·.DrawnAt x y)).getLast?

/-- What a cell of a raster shows once the actors are drawn.  Terrain hides them; where nobody is
drawn, a pixel that belonged to an actor is sky. -/
def overlaid (height : Nat) (as : List Actor) (x y : Nat) (v : UInt8) : UInt8 :=
  if Cell.isTerrain v then v
  else match topmost? as x y with
    | some a => a.tint y
    | none => if Cell.isActor v then Cell.sky height y else v

section Pictures

variable {height x y : Nat} {as bs : List Actor} {v : UInt8}

/-- The topmost actor at a cell is drawn there. -/
theorem drawnAt_of_topmost? {a : Actor} {x y : Int} (h : topmost? as x y = some a) :
    a.DrawnAt x y := by
  have hm := List.mem_of_getLast? h
  exact of_decide_eq_true (List.mem_filter.1 hm).2

theorem topmost?_concat (as : List Actor) (a : Actor) (x y : Int) :
    topmost? (as ++ [a]) x y = if a.DrawnAt x y then some a else topmost? as x y := by
  unfold topmost?
  rw [List.filter_append]
  by_cases ha : a.DrawnAt x y <;> simp [ha]

/-- Whoever is drawn at a pixel is seen there if nobody after it in the table is drawn there. -/
theorem topmost?_of_last {before after : List Actor} {a : Actor} {x y : Int} (ha : a.DrawnAt x y)
    (hlast : ∀ b ∈ after, ¬b.DrawnAt x y) : topmost? (before ++ a :: after) x y = some a := by
  have hafter : after.filter (·.DrawnAt x y) = [] :=
    List.filter_eq_nil_iff.2 fun b hb => by simpa using hlast b hb
  have hself : (a :: after).filter (·.DrawnAt x y) = [a] := by
    rw [List.filter_cons, if_pos (decide_eq_true ha), hafter]
  rw [topmost?, List.filter_append, hself, List.getLast?_concat]

/-- Where nobody is drawn, nobody is topmost. -/
theorem topmost?_of_nobody {x y : Int} (h : ∀ a ∈ as, ¬a.DrawnAt x y) : topmost? as x y = none := by
  have hnone : as.filter (·.DrawnAt x y) = [] :=
    List.filter_eq_nil_iff.2 fun a ha => by simpa using h a ha
  rw [topmost?, hnone, List.getLast?_nil]

/-- Terrain shows through every picture. -/
theorem overlaid_of_isTerrain (h : Cell.isTerrain v = true) : overlaid height as x y v = v :=
  if_pos h

/-- Outside of the terrain the topmost actor is seen. -/
theorem overlaid_of_topmost {a : Actor} (h : Cell.isTerrain v = false)
    (ha : topmost? as x y = some a) : overlaid height as x y v = a.tint y := by
  unfold overlaid
  rw [if_neg (Bool.eq_false_iff.1 h), ha]

/-- Where nobody is drawn an actor of before gives way to the sky. -/
theorem overlaid_of_nobody (h : Cell.isTerrain v = false) (ha : topmost? as x y = none) :
    overlaid height as x y v = if Cell.isActor v then Cell.sky height y else v := by
  unfold overlaid
  rw [if_neg (Bool.eq_false_iff.1 h), ha]

/-- A picture makes and removes no terrain. -/
theorem isTerrain_overlaid : Cell.isTerrain (overlaid height as x y v) = Cell.isTerrain v := by
  cases hv : Cell.isTerrain v with
  | true => rw [overlaid_of_isTerrain hv, hv]
  | false =>
    -- Neither the value of an actor nor that of the sky is terrain.
    cases ha : topmost? as x y with
    | some a =>
      rw [overlaid_of_topmost hv ha]
      exact Cell.not_isTerrain_of_isActor (drawnAt_of_topmost? ha).isActor_tint
    | none =>
      rw [overlaid_of_nobody hv ha]
      split
      · exact Cell.isTerrain_sky height y
      · exact hv

/-- Where nobody is drawn, no picture is left of anybody. -/
theorem isActor_overlaid (ha : topmost? as x y = none) :
    Cell.isActor (overlaid height as x y v) = false := by
  cases hv : Cell.isTerrain v with
  | true =>
    rw [overlaid_of_isTerrain hv]
    exact Bool.eq_false_iff.2 fun h => by simp [Cell.not_isTerrain_of_isActor h] at hv
  | false =>
    rw [overlaid_of_nobody hv ha]
    split
    · exact Cell.isActor_sky height y
    · rename_i hfree
      exact Bool.eq_false_iff.2 hfree

/-- A value that fits its row becomes one that does. -/
theorem fits_overlaid (h : Cell.Fits height y v) :
    Cell.Fits height y (overlaid height as x y v) := by
  cases hv : Cell.isTerrain v with
  | true =>
    rw [overlaid_of_isTerrain hv]
    exact h
  | false =>
    -- What may come out is an actor, the sky of the row, or the value that was there.
    cases ha : topmost? as x y with
    | some a =>
      rw [overlaid_of_topmost hv ha]
      exact Cell.fits_of_isActor (drawnAt_of_topmost? ha).isActor_tint
    | none =>
      rw [overlaid_of_nobody hv ha]
      split
      · exact Cell.fits_sky height y
      · exact h

/-- The same picture once more changes nothing. -/
theorem overlaid_self :
    overlaid height as x y (overlaid height as x y v) = overlaid height as x y v := by
  have hkept : Cell.isTerrain (overlaid height as x y v) = Cell.isTerrain v := isTerrain_overlaid
  cases hv : Cell.isTerrain v with
  | true => exact overlaid_of_isTerrain (hkept.trans hv)
  | false =>
    rw [hv] at hkept
    cases ha : topmost? as x y with
    | some a => rw [overlaid_of_topmost hkept ha, overlaid_of_topmost hv ha]
    | none => rw [overlaid_of_nobody hkept ha, isActor_overlaid ha, if_neg Bool.false_ne_true]

/-- Where everything fits its row, nobody can tell what was drawn before. -/
theorem overlaid_overlaid (h : Cell.Fits height y v) :
    overlaid height bs x y (overlaid height as x y v) = overlaid height bs x y v := by
  have hkept : Cell.isTerrain (overlaid height as x y v) = Cell.isTerrain v := isTerrain_overlaid
  cases hv : Cell.isTerrain v with
  | true => rw [overlaid_of_isTerrain hv]
  | false =>
    rw [hv] at hkept
    cases hb : topmost? bs x y with
    | some b => rw [overlaid_of_topmost hkept hb, overlaid_of_topmost hv hb]
    | none =>
      -- Both times the sky comes out, be it put there or left there.
      have sky {w : UInt8} (hw : Cell.isTerrain w = false) (hfits : Cell.Fits height y w) :
          overlaid height bs x y w = Cell.sky height y := by
        rw [overlaid_of_nobody hw hb]
        split
        · rfl
        · rename_i hfree
          exact hfits hw (Bool.eq_false_iff.2 hfree)
      rw [sky hkept (fits_overlaid h), sky hv h]

end Pictures

namespace Raster

/-- The last living actor is drawn over the picture of those before it. -/
theorem stampActors_concat (r : Raster) (as : List Actor) (a : Actor) :
    r.stampActors (as ++ [a]) =
      if a.alive = true then (r.stampActors as).stampActor a.id a.x a.y else r.stampActors as := by
  unfold stampActors
  rw [List.filter_append]
  cases ha : a.alive <;> simp [ha]

/-- Drawing a tank paints its pixels outside of the terrain. -/
theorem cell_stampActor (r : Raster) (a : Actor) {x y : Nat} (hx : x < r.width) (hy : y < r.height) :
    (r.stampActor a.id a.x a.y).cell x y =
      if Cell.isTerrain (r.cell x y) = false ∧ a.id < Cell.actorCount ∧ a.Occupies x y then a.tint y
      else r.cell x y := by
  unfold stampActor
  by_cases hid : a.id < Cell.actorCount
  · rw [if_pos hid, cell_repaint]
    -- Terrain is left out by the mask, and all else by the shape of the tank.
    cases hv : Cell.isTerrain (r.cell x y) with
    | true =>
      rw [if_neg (c := _ ∧ _ ∧ a.Occupies x y) fun h => nomatch h.1]
      exact ite_self _
    | false =>
      rw [if_neg Bool.false_ne_true, silhouette_eq]
      by_cases hin : a.Occupies x y
      · -- The rectangle that is repainted has room for the whole tank.
        have hrect : x ∈ r.columnsFrom (a.x - Actor.halfWidth) (a.x + Actor.halfWidth) ∧
            y ∈ r.rowsFrom (a.y - Actor.bodyHeight - Actor.domeHeight) (a.y - 1) := by
          have hin' := hin
          unfold Actor.Occupies at hin'
          simp only [columnsFrom, rowsFrom, Span.mem_clipped, Actor.halfWidth, Actor.bodyHeight,
            Actor.domeHeight]
          omega
        rw [if_pos ⟨hrect.1, hrect.2, hx, hy⟩, if_pos hin, if_pos ⟨rfl, hid, hin⟩]
        rfl
      · rw [if_neg hin, if_neg (c := _ ∧ _ ∧ a.Occupies x y) fun h => hin h.2.2]
        exact ite_self _
  · rw [if_neg hid, if_neg fun h => hid h.2.1]

/-- After all actors have been drawn, every cell shows its part of the picture. -/
theorem cell_stampActors (r : Raster) (as : List Actor) {x y : Nat} (hx : x < r.width)
    (hy : y < r.height) :
    (r.stampActors as).cell x y = overlaid r.height as x y (r.cell x y) := by
  -- The picture of a table is that of the actors before the last one, with the last one over it.
  induction as using List.reverseRecOn with
  | nil =>
    show r.eraseActors.cell x y = _
    rw [eraseActors, cell_mapRows, if_pos ⟨hx, hy⟩]
    cases hv : Cell.isTerrain (r.cell x y) with
    | true =>
      rw [overlaid_of_isTerrain hv, if_neg fun h => by simp [Cell.not_isTerrain_of_isActor h] at hv]
    | false => rw [overlaid_of_nobody hv rfl]
  | append_singleton as a ih =>
    obtain ⟨hwidth, hheight⟩ := r.stampActors_size as
    have hdrawn := (r.stampActors as).cell_stampActor a (hwidth ▸ hx) (hheight ▸ hy)
    rw [ih, isTerrain_overlaid] at hdrawn
    rw [stampActors_concat]
    cases hv : Cell.isTerrain (r.cell x y) with
    | true =>
      rw [hv, if_neg fun h => absurd h.1.symm Bool.false_ne_true] at hdrawn
      rw [overlaid_of_isTerrain hv] at ih hdrawn ⊢
      split
      · exact hdrawn
      · exact ih
    | false =>
      have htop := topmost?_concat as a x y
      by_cases ha : a.DrawnAt x y
      · obtain ⟨alive, hid, hin⟩ := ha
        rw [if_pos ⟨alive, hid, hin⟩] at htop
        rw [if_pos ⟨hv, hid, hin⟩] at hdrawn
        rw [if_pos alive, overlaid_of_topmost hv htop]
        exact hdrawn
      · rw [if_neg ha] at htop
        -- The last one is not drawn here, so that those before it are all there is to see.
        have hsame : overlaid r.height (as ++ [a]) x y (r.cell x y) =
            overlaid r.height as x y (r.cell x y) := by
          unfold overlaid
          rw [htop]
        rw [hsame]
        split
        · rename_i alive
          rw [hdrawn, if_neg fun h => ha ⟨alive, h.2⟩]
        · exact ih

/-- A picture over another one is all that is seen, where everything else fits its row. -/
theorem stampActors_stampActors {r : Raster} (clear : r.SkyClear) (as bs : List Actor) :
    (r.stampActors as).stampActors bs = r.stampActors bs := by
  obtain ⟨hwidth, hheight⟩ := r.stampActors_size as
  obtain ⟨hwidth', hheight'⟩ := r.stampActors_size bs
  obtain ⟨hwidth'', hheight''⟩ := (r.stampActors as).stampActors_size bs
  -- Both rasters are given by their cells, and the index has not moved in either.
  refine ext_cells ((hwidth''.trans hwidth).trans hwidth'.symm)
    ((hheight''.trans hheight).trans hheight'.symm) (fun x y hx hy => ?_) fun x _ => ?_
  · rw [hwidth'] at hx
    rw [hheight'] at hy
    rw [cell_stampActors _ bs (hwidth ▸ hx) (hheight ▸ hy), cell_stampActors r bs hx hy,
      cell_stampActors r as hx hy, hheight, overlaid_overlaid (clear x y hx hy)]
  · rw [stampActors_heightAt, stampActors_heightAt, stampActors_heightAt]

/-- The same picture once more changes nothing, whatever else the raster shows. -/
theorem stampActors_self (r : Raster) (as : List Actor) :
    (r.stampActors as).stampActors as = r.stampActors as := by
  obtain ⟨hwidth, hheight⟩ := r.stampActors_size as
  obtain ⟨hwidth', hheight'⟩ := (r.stampActors as).stampActors_size as
  refine ext_cells hwidth' hheight' (fun x y hx hy => ?_) fun x _ => stampActors_heightAt _ as x
  rw [cell_stampActors _ as hx hy, cell_stampActors r as (hwidth ▸ hx) (hheight ▸ hy), hheight,
    overlaid_self]

/-- Drawing the actors is an exact overlay.  Terrain stays; elsewhere a cell shows the last actor of
the table that is drawn there, with the value of its row, or loses the actor that it showed.  The
index stays.  To draw the same actors twice is to draw them once, and where all else is the sky of
its row, to draw others first makes no difference. -/
theorem stampActors_overlay (r : Raster) (as : List Actor) :
    ((r.stampActors as).width = r.width ∧ (r.stampActors as).height = r.height ∧
      ∀ x : Int, (r.stampActors as).heightAt x = r.heightAt x) ∧
    (∀ x y : Nat, x < r.width → y < r.height →
      (Cell.isTerrain (r.cell x y) = true → (r.stampActors as).cell x y = r.cell x y) ∧
      (Cell.isTerrain (r.cell x y) = false →
        (∀ before a after, as = before ++ a :: after → a.DrawnAt x y →
          (∀ b ∈ after, ¬b.DrawnAt x y) →
          ((r.stampActors as).cell x y).toNat = 8 * a.id + a.slotAt y) ∧
        ((∀ a ∈ as, ¬a.DrawnAt x y) →
          (r.stampActors as).cell x y =
            if Cell.isActor (r.cell x y) then Cell.sky r.height y else r.cell x y))) ∧
    (r.stampActors as).stampActors as = r.stampActors as ∧
    (r.SkyClear → ∀ bs, (r.stampActors as).stampActors bs = r.stampActors bs) := by
  refine ⟨⟨(r.stampActors_size as).1, (r.stampActors_size as).2, r.stampActors_heightAt as⟩, ?_,
    r.stampActors_self as, fun clear bs => stampActors_stampActors clear as bs⟩
  -- All about the cells is in what the picture of the table makes of each value.
  intro x y hx hy
  rw [cell_stampActors r as hx hy]
  refine ⟨overlaid_of_isTerrain, fun hv => ⟨?_, fun hnobody => ?_⟩⟩
  · rintro before a after rfl ha hlast
    rw [overlaid_of_topmost hv (topmost?_of_last ha hlast)]
    exact ha.toNat_tint
  · exact overlaid_of_nobody hv (topmost?_of_nobody hnobody)

/-- A mound, and the tank that was drawn beside it. -/
def mound : Raster := ((blank 16 24).fillDisc 3 16 3).stampActor 5 12 20

/-- Two tanks that stand in each other's way, and one that is out of the match. -/
def crowd : List Actor := [.fresh 0 5 16, .fresh 1 8 16, { Actor.fresh 2 8 16 with alive := false }]

/-- Between the two the second one is seen, the mound hides the first, and nothing is left of the
tank of before, as if it had not been drawn. -/
theorem stampActors_overlay_crowd :
    ((mound.stampActors crowd).cell 6 12).toNat = 12 ∧
      (mound.stampActors crowd).cell 4 15 = mound.cell 4 15 ∧
      mound.cell 12 18 = 42 ∧ (mound.stampActors crowd).cell 12 18 = Cell.sky 24 18 ∧
      mound.SkyClear ∧ (mound.stampActors [.fresh 7 6 15]).stampActors crowd =
        mound.stampActors crowd := by
  -- A mound and a tank on a blank raster: everything else is the sky of its row.
  have hclear : mound.SkyClear :=
    stampActor_skyClear (fillDisc_skyClear (blank_skyClear 16 24) 3 16 3) 5 12 20
  obtain ⟨_, hcells, _⟩ := stampActors_overlay mound crowd
  obtain ⟨_, _, _, hreplaced⟩ := stampActors_overlay mound [.fresh 7 6 15]
  refine ⟨?_, ?_, by decide +kernel, ?_, hclear, hreplaced hclear crowd⟩
  · exact ((hcells 6 12 (by decide) (by decide)).2 (by decide +kernel)).1 [.fresh 0 5 16]
      (.fresh 1 8 16) _ rfl (by decide) (by decide)
  · exact (hcells 4 15 (by decide) (by decide)).1 (by decide +kernel)
  · rw [((hcells 12 18 (by decide) (by decide)).2 (by decide +kernel)).2 (by decide)]
    exact if_pos (by decide +kernel)

end Raster

end Artillery
