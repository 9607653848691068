import Artillery.Proofs.Falling
import Artillery.Proofs.Land
import Artillery.Proofs.Placement.Columns
import Artillery.Proofs.Raster.Level

/-!
# The ground under placed actors

Actors are placed one after another, each on ground that is levelled for it.  The ground under one
stays as it is if those after it have the same column, where there is nothing left to level, or
columns beyond its footprint.  An actor a few columns further right takes a part of the footprint
along whenever its own ground is not level.

## Key results

- `groundLevel_of_levelAt`, `groundLevel_lt`: the mean of level ground and of ground with a pillar
- `placeEach_levels`: everybody stands on level ground if all are clear of each other
- `pillar_uneven`: a land on which neighbours that are not clear leave one of them uneven
- `placed_level`: for which sizes and counts actors stand on level ground, whatever the land
-/

namespace Artillery

namespace Raster

/-! ## Level ground under a tank -/

/-- The footprint of a tank in some column lies on the raster. -/
def Holds (r : Raster) (cx : Int) : Prop := Actor.halfWidth ≤ cx ∧ cx + Actor.halfWidth < r.width

/-- The ground under a tank in some column is level at a row. -/
def LevelAt (r : Raster) (cx row : Int) : Prop :=
  ∀ x : Int, cx - Actor.halfWidth ≤ x → x ≤ cx + Actor.halfWidth → r.heightAt x = row

/-- Level ground has the row of its middle column. -/
theorem LevelAt.self {r : Raster} {cx row : Int} (h : r.LevelAt cx row) : r.heightAt cx = row := by
  have hhalf : Actor.halfWidth = 3 := rfl
  exact h cx (by omega) (by omega)

/-- Where footprints share a column they are level at the same row. -/
theorem LevelAt.row_eq {r : Raster} {cx cx' row row' : Int} (h : r.LevelAt cx row)
    (h' : r.LevelAt cx' row') (hle : cx ≤ cx') (hnear : cx' - cx ≤ 2 * Actor.halfWidth) :
    row = row' := by
  have hhalf : Actor.halfWidth = 3 := rfl
  exact (h (cx' - Actor.halfWidth) (by omega) (by omega)).symm.trans (h' _ (by omega) (by omega))

section

variable {r : Raster} {cx row : Int} (hin : r.Holds cx)
include hin

/-- Where a footprint is held none of its columns is cut off. -/
theorem Holds.mem_columns {x : Nat} :
    x ∈ r.columnsFrom (cx - Actor.halfWidth) (cx + Actor.halfWidth) ↔
      cx - Actor.halfWidth ≤ x ∧ x ≤ cx + Actor.halfWidth := by
  obtain ⟨_, hright⟩ := hin
  unfold columnsFrom
  rw [Span.mem_clipped]
  omega

/-- A footprint that is held has a column. -/
theorem Holds.exists_mem :
    ∃ x, x ∈ r.columnsFrom (cx - Actor.halfWidth) (cx + Actor.halfWidth) := by
  have hhalf : Actor.halfWidth = 3 := rfl
  obtain ⟨hleft, _⟩ := id hin
  exact ⟨cx.toNat, hin.mem_columns.2 ⟨by omega, by omega⟩⟩

/-- Level ground is levelled to where it is. -/
theorem groundLevel_of_levelAt (hlevel : r.LevelAt cx row) (htop : (playfieldTop : Int) ≤ row)
    (hbottom : row ≤ r.height) : r.groundLevel cx Actor.halfWidth = row := by
  have hmean : r.meanRow (r.columnsFrom (cx - Actor.halfWidth) (cx + Actor.halfWidth)) = row :=
    meanRow_eq hin.exists_mem fun x hx =>
      hlevel x (hin.mem_columns.1 hx).1 (hin.mem_columns.1 hx).2
  unfold groundLevel
  rw [hmean]
  omega

/-- A column that stands out raises the level. -/
theorem groundLevel_lt (htop : (playfieldTop : Int) < row)
    (hrow : ∀ x : Nat, cx - Actor.halfWidth ≤ x → x ≤ cx + Actor.halfWidth → r.heightAt x ≤ row)
    (hlow : ∃ x : Nat, cx - Actor.halfWidth ≤ x ∧ x ≤ cx + Actor.halfWidth ∧
      r.heightAt x < row) : r.groundLevel cx Actor.halfWidth < row := by
  obtain ⟨x, hleft, hright, hlt⟩ := hlow
  have hmean : r.meanRow (r.columnsFrom (cx - Actor.halfWidth) (cx + Actor.halfWidth)) < row :=
    meanRow_lt (fun x hx => hrow x (hin.mem_columns.1 hx).1 (hin.mem_columns.1 hx).2)
      ⟨x, hin.mem_columns.2 ⟨hleft, hright⟩, hlt⟩
  unfold groundLevel
  omega

end

section

variable {r r' : Raster} {cx : Int} (free : r.TankFree)
  (h : r.level cx Actor.halfWidth = .ok r')
include free h

/-- After levelling a footprint is level, at the mean that was computed for it. -/
theorem level_levelAt (hin : r.Holds cx) :
    r'.LevelAt cx (r.groundLevel cx Actor.halfWidth) := by
  obtain ⟨hleft, hright⟩ := hin
  intro x hlow hhigh
  obtain ⟨x, rfl⟩ := Int.eq_ofNat_of_zero_le (show 0 ≤ x by omega)
  exact level_heightAt free h ⟨hlow, hhigh⟩ (by omega)

/-- Levelling level ground moves no ground row. -/
theorem level_heightAt_of_levelAt {row : Int} (hin : r.Holds cx) (hlevel : r.LevelAt cx row)
    (htop : (playfieldTop : Int) ≤ row) (hbottom : row ≤ r.height) (x : Int) :
    r'.heightAt x = r.heightAt x := by
  by_cases hx : cx - Actor.halfWidth ≤ x ∧ x ≤ cx + Actor.halfWidth
  · -- In the footprint the mean of the ground rows is the row that they all have.
    rw [level_levelAt free h hin x hx.1 hx.2, groundLevel_of_levelAt hin hlevel htop hbottom,
      hlevel x hx.1 hx.2]
  · exact (level_sameEarth h hx).ground

end

/-- On land that has just been made there are no tanks. -/
theorem ofProfile_tankFree {width height : Nat} {profile : List Int} {r : Raster}
    (h : ofProfile width height profile = .ok r) : r.TankFree := by
  obtain ⟨tops, rfl⟩ := ofProfile_eq h
  intro x y
  have hblank : Cell.isActor ((blank width height).cell x y) = false := by
    rw [cell_blank]
    -- Above its row a column is sky, below it terrain, and outside the raster nothing at all.
    split
    · exact Cell.isActor_sky ..
    · rfl
  rw [rescanAll, cell_rescan, cell_repaint]
  split
  · split
    · exact Cell.isActor_shade ..
    · exact hblank
  · exact hblank

end Raster

namespace Placement

/-! ## One actor after another -/

/-- Some actors, out of `n`, have given columns, in which the raster holds their tanks. -/
def Assigned (r : Raster) (n : Nat) (xs : Nat → Int) (is : List Nat) : Prop :=
  ∀ i ∈ is, column r.width n i = .ok (xs i) ∧ r.Holds (xs i)

theorem Assigned.congr {r r' : Raster} {n : Nat} {xs : Nat → Int} {is : List Nat}
    (h : Assigned r n xs is) (hw : r'.width = r.width) : Assigned r' n xs is := by
  unfold Assigned Raster.Holds at *
  rwa [hw]

section

variable {n : Nat} {terrain terrain' : Raster} {xs : Nat → Int} {is : List Nat}
  {actors : List Actor}

/-- The first actor stands on ground levelled for it, and the others follow. -/
theorem placeEach_cons {i : Nat} (hxs : Assigned terrain n xs (i :: is))
    (h : placeEach n (i :: is) terrain = .ok (actors, terrain')) :
    ∃ levelled others, terrain.level (xs i) Actor.halfWidth = .ok levelled ∧
      Assigned levelled n xs is ∧ placeEach n is levelled = .ok (others, terrain') ∧
      actors = .fresh i (xs i) (levelled.heightAt (xs i)) :: others := by
  obtain ⟨x, hx, h⟩ := Fault.bind_ok h
  obtain rfl : xs i = x := Except.ok.inj ((hxs i List.mem_cons_self).1.symm.trans hx)
  obtain ⟨levelled, hlevel, h⟩ := Fault.bind_ok h
  obtain ⟨⟨others, last⟩, hrest, h⟩ := Fault.bind_ok h
  obtain ⟨rfl, rfl⟩ := Prod.mk.inj (Except.ok.inj h)
  -- Levelling keeps the width, on which the columns of the others depend.
  have hassigned : Assigned terrain n xs is := fun j hj => hxs j (List.mem_cons_of_mem i hj)
  exact ⟨levelled, others, hlevel, hassigned.congr (Raster.level_size hlevel).1, hrest, rfl⟩

/-- The first actors are placed on the land as it is, and the rest on what they leave. -/
theorem placeEach_append {js : List Nat}
    (h : placeEach n (is ++ js) terrain = .ok (actors, terrain')) :
    ∃ first middle second, placeEach n is terrain = .ok (first, middle) ∧
      placeEach n js middle = .ok (second, terrain') ∧ actors = first ++ second := by
  induction is generalizing terrain actors with
  | nil => exact ⟨[], terrain, actors, rfl, h, rfl⟩
  | cons i is ih =>
    obtain ⟨x, hx, h⟩ := Fault.bind_ok h
    obtain ⟨levelled, hlevel, h⟩ := Fault.bind_ok h
    obtain ⟨⟨others, last⟩, hrest, h⟩ := Fault.bind_ok h
    obtain ⟨rfl, rfl⟩ := Prod.mk.inj (Except.ok.inj h)
    -- The split happens among the others, and the first one is put before it again.
    obtain ⟨first, middle, second, hfirst, hsecond, rfl⟩ := ih hrest
    refine ⟨.fresh i x (levelled.heightAt x) :: first, middle, second, ?_, hsecond, rfl⟩
    simp only [placeEach, hx, hlevel, hfirst, bind, Except.bind, pure, Except.pure]

/-- Every number is given to a living actor in its column. -/
theorem placeEach_actors (hxs : Assigned terrain n xs is)
    (h : placeEach n is terrain = .ok (actors, terrain')) :
    actors.map Actor.id = is ∧ actors.map Actor.x = is.map xs ∧
      ∀ a ∈ actors, a.alive = true := by
  induction is generalizing terrain actors with
  | nil =>
    obtain ⟨rfl, rfl⟩ := Prod.mk.inj (Except.ok.inj h)
    exact ⟨rfl, rfl, fun a ha => nomatch ha⟩
  | cons i is ih =>
    obtain ⟨levelled, others, _, hothers, hrest, rfl⟩ := placeEach_cons hxs h
    obtain ⟨hids, hcolumns, halive⟩ := ih hothers hrest
    simpa [hids, hcolumns, Actor.fresh] using halive

/-- Nobody is drawn while actors are placed. -/
theorem placeEach_tankFree (free : terrain.TankFree) (hxs : Assigned terrain n xs is)
    (h : placeEach n is terrain = .ok (actors, terrain')) : terrain'.TankFree := by
  induction is generalizing terrain actors with
  | nil =>
    obtain ⟨rfl, rfl⟩ := Prod.mk.inj (Except.ok.inj h)
    exact free
  | cons i is ih =>
    obtain ⟨levelled, others, hlevel, hothers, hrest, rfl⟩ := placeEach_cons hxs h
    exact ih (free.level hlevel) hothers hrest

/-- Level ground stays as it is while those who are placed have its column or are clear of it. -/
theorem placeEach_keeps {x row : Int} (free : terrain.TankFree) (hxs : Assigned terrain n xs is)
    (htop : (playfieldTop : Int) ≤ row) (hbottom : row ≤ terrain.height)
    (hlevel : terrain.LevelAt x row) (hclear : ∀ i ∈ is, Clear x (xs i))
    (h : placeEach n is terrain = .ok (actors, terrain')) : terrain'.LevelAt x row := by
  induction is generalizing terrain actors with
  | nil =>
    obtain ⟨rfl, rfl⟩ := Prod.mk.inj (Except.ok.inj h)
    exact hlevel
  | cons i is ih =>
    obtain ⟨levelled, others, hl, hothers, hrest, rfl⟩ := placeEach_cons hxs h
    obtain ⟨_, hin⟩ := hxs i List.mem_cons_self
    have hsize := Raster.level_size hl
    refine ih (free.level hl) hothers (hsize.2 ▸ hbottom) (fun c hlow hhigh => ?_)
      (fun j hj => hclear j (List.mem_cons_of_mem i hj)) hrest
    rw [← hlevel c hlow hhigh]
    obtain hsame | hfar := hclear i List.mem_cons_self
    · -- In the same column there is nothing left to level.
      exact Raster.level_heightAt_of_levelAt free hl hin (hsame ▸ hlevel) htop hbottom c
    · exact (Raster.level_sameEarth hl (by omega)).ground

/-- Everybody stands on level ground if each is clear of those before it. -/
theorem placeEach_levels (free : terrain.TankFree) (hxs : Assigned terrain n xs is)
    (rows : (playfieldTop : Int) ≤ terrain.height)
    (hclear : is.Pairwise fun i j => Clear (xs i) (xs j))
    (h : placeEach n is terrain = .ok (actors, terrain')) :
    ∀ a ∈ actors, terrain'.LevelAt a.x a.y := by
  induction is generalizing terrain actors with
  | nil =>
    obtain ⟨rfl, rfl⟩ := Prod.mk.inj (Except.ok.inj h)
    exact fun a ha => nomatch ha
  | cons i is ih =>
    obtain ⟨levelled, others, hl, hothers, hrest, rfl⟩ := placeEach_cons hxs h
    obtain ⟨_, hin⟩ := hxs i List.mem_cons_self
    obtain ⟨hfirst, hclear⟩ := List.pairwise_cons.1 hclear
    have hsize := Raster.level_size hl
    -- The line of the first one lies in the playfield, as the lemma about those who come later
    -- asks.
    obtain ⟨htop, hbottom⟩ := Raster.groundLevel_bounds rows (xs i) Actor.halfWidth
    have hlevel := Raster.level_levelAt free hl hin
    have hline := hlevel.self
    rintro a (_ | ⟨_, ha⟩)
    · -- The ground of the first one was levelled to its line and outlasts the others.
      show terrain'.LevelAt (xs i) (levelled.heightAt (xs i))
      rw [hline]
      exact placeEach_keeps (free.level hl) hothers htop (hsize.2 ▸ hbottom) hlevel hfirst hrest
    · exact ih (free.level hl) hothers (hsize.2 ▸ rows) hclear hrest a ha

/-- On ground that is level already nobody is lifted and no ground row moves. -/
theorem placeEach_flat {row : Int} (free : terrain.TankFree) (hxs : Assigned terrain n xs is)
    (htop : (playfieldTop : Int) ≤ row) (hbottom : row ≤ terrain.height)
    (hlevel : ∀ i ∈ is, terrain.LevelAt (xs i) row)
    (h : placeEach n is terrain = .ok (actors, terrain')) :
    (∀ a ∈ actors, a.y = row) ∧ ∀ x, terrain'.heightAt x = terrain.heightAt x := by
  induction is generalizing terrain actors with
  | nil =>
    obtain ⟨rfl, rfl⟩ := Prod.mk.inj (Except.ok.inj h)
    exact ⟨fun a ha => (nomatch ha), fun _ => rfl⟩
  | cons i is ih =>
    obtain ⟨levelled, others, hl, hothers, hrest, rfl⟩ := placeEach_cons hxs h
    obtain ⟨_, hin⟩ := hxs i List.mem_cons_self
    -- Levelling for the first one moves no ground row, so that the ground is as level for the
    -- others.
    have hheights := Raster.level_heightAt_of_levelAt free hl hin (hlevel i List.mem_cons_self)
      htop hbottom
    obtain ⟨hlines, hrows⟩ := ih (free.level hl) hothers ((Raster.level_size hl).2 ▸ hbottom)
      (fun j hj x hlow hhigh => (hheights x).trans
        (hlevel j (List.mem_cons_of_mem i hj) x hlow hhigh)) hrest
    refine ⟨fun a ha => ?_, fun x => (hrows x).trans (hheights x)⟩
    obtain _ | ⟨_, ha⟩ := ha
    · exact (hheights _).trans (hlevel i List.mem_cons_self).self
    · exact hlines a ha

end

/-! ## A column that stands out -/

/-- Flat land at the bottom, with one column as high as the playfield. -/
def pillar (width height z : Nat) : List Int :=
  (List.range width).map fun x => if x = z then (playfieldTop : Int) else (height : Int) - 1

section

variable {width height z : Nat} {terrain : Raster} (hrows : playfieldTop + 1 < height)
  (hz : z < width) (h : Raster.ofProfile width height (pillar width height z) = .ok terrain)
include hrows hz h

omit hz in
/-- The ground rows of the land with a pillar are the ones of its profile. -/
theorem heightAt_pillar {x : Nat} (hx : x < width) :
    terrain.heightAt x = if x = z then (playfieldTop : Int) else (height : Int) - 1 := by
  have hrow : (pillar width height z)[x]? =
      some (if x = z then (playfieldTop : Int) else (height : Int) - 1) := by
    rw [pillar, List.getElem?_map, List.getElem?_range hx]
    rfl
  rw [Raster.heightAt_ofProfile (by omega) h hx hrow]
  split <;> omega

/-- To the left of the pillar the ground is level. -/
theorem pillar_levelAt {x : Int} (hleft : Actor.halfWidth ≤ x) (hright : x + Actor.halfWidth < z) :
    terrain.LevelAt x (height - 1) := by
  intro c hlow hhigh
  obtain ⟨c, rfl⟩ := Int.eq_ofNat_of_zero_le (show 0 ≤ c by omega)
  rw [heightAt_pillar hrows h (by omega), if_neg (by omega)]

/-- A footprint with the pillar in it is lifted, as long as nobody has moved the ground rows. -/
theorem pillar_lifts {r : Raster} (hsame : ∀ x, r.heightAt x = terrain.heightAt x) {cx : Int}
    (hin : r.Holds cx) (hw : r.width = width) (hleft : cx - Actor.halfWidth ≤ z)
    (hright : z ≤ cx + Actor.halfWidth) :
    r.groundLevel cx Actor.halfWidth < (height : Int) - 1 := by
  obtain ⟨_, hwithin⟩ := id hin
  refine Raster.groundLevel_lt hin (by omega) (fun x _ hhigh => ?_) ⟨z, hleft, hright, ?_⟩
  · rw [hsame, heightAt_pillar hrows h (by omega)]
    split <;> omega
  · rw [hsame, heightAt_pillar hrows h hz, if_pos rfl]
    omega

end

/-- The numbers below `n`, up to one of them and from the next one on. -/
theorem range_split {n i : Nat} (hi : i + 1 < n) :
    ∃ rest, List.range n = List.range (i + 1) ++ (i + 1) :: rest := by
  obtain ⟨m, rfl⟩ : ∃ m, n = i + 1 + (m + 1) := ⟨n - (i + 2), by omega⟩
  exact ⟨_, by rw [List.range_add, List.range_succ_eq_map (n := m)]; rfl⟩

section

variable {width height n : Nat} {xs : Nat → Int} (hxs : Lineup width n xs)
include hxs

/-- Every actor of a lineup gets a column that holds its footprint. -/
theorem Lineup.assigned {r : Raster} (hw : r.width = width) : Assigned r n xs (List.range n) := by
  have hhalf : Actor.halfWidth = 3 := rfl
  intro i hi
  have hbounds := hxs.bounds (List.mem_range.1 hi)
  refine ⟨hw ▸ hxs.column i (List.mem_range.1 hi), ?_⟩
  unfold Raster.Holds
  omega

/-- If the tanks of two neighbours share some columns but not all, then on flat land with a pillar
under the right edge of the second one the first is left on uneven ground. -/
theorem pillar_uneven (hheight : Config.minHeight ≤ height) {i z : Nat} (hi : i + 1 < n)
    (hnot : ¬Clear (xs i) (xs (i + 1))) (hz : xs (i + 1) + Actor.halfWidth = z)
    {terrain terrain' : Raster} {actors : List Actor}
    (hterrain : Raster.ofProfile width height (pillar width height z) = .ok terrain)
    (hplaced : placeEach n (List.range n) terrain = .ok (actors, terrain')) :
    ¬∀ a ∈ actors, terrain'.LevelAt a.x a.y := by
  have hmin : Config.minHeight = 55 := rfl
  have hhalf : Actor.halfWidth = 3 := rfl
  have htop : playfieldTop = 15 := rfl
  have hsize := Raster.ofProfile_size hterrain
  have free := Raster.ofProfile_tankFree hterrain
  have hright := hxs.bounds hi
  have hmono : xs i ≤ xs (i + 1) := hxs.mono (Nat.le_succ i) hi
  -- Not being clear, the two columns differ, but by less than two halves of a tank.
  have hgap : xs i < xs (i + 1) ∧ xs (i + 1) - xs i ≤ 2 * Actor.halfWidth := by
    unfold Clear at hnot
    omega
  intro hlevel
  obtain ⟨rest, hsplit⟩ := range_split hi
  have hall := hxs.assigned hsize.1
  rw [hsplit] at hplaced hall
  obtain ⟨first, middle, second, hfirst, hsecond, rfl⟩ := placeEach_append hplaced
  -- Those before the pillar are placed on ground that is level already.
  have hassigned : Assigned terrain n xs (List.range (i + 1)) := fun j hj =>
    hall j (List.mem_append_left _ hj)
  obtain ⟨hlines, hrows⟩ := placeEach_flat free hassigned (by omega) (by omega) (fun j hj =>
    have hj := List.mem_range.1 hj
    have hleft := hxs.bounds (i := j) (by omega)
    have hle := hxs.mono (Nat.le_of_lt_succ hj) (by omega)
    pillar_levelAt (by omega) (by omega) hterrain (by omega) (by omega)) hfirst
  obtain ⟨a, ha, hcolumn⟩ : ∃ a ∈ first, a.x = xs i := by
    rw [← List.mem_map, (placeEach_actors hassigned hfirst).2.1]
    exact List.mem_map_of_mem (List.mem_range.2 (Nat.lt_succ_self i))
  -- The second neighbour has the pillar in its footprint and stands higher.
  have hmiddle := placeEach_size hfirst
  have hassigned' : Assigned middle n xs ((i + 1) :: rest) :=
    Assigned.congr (fun j hj => hall j (List.mem_append_right _ hj)) hmiddle.1
  obtain ⟨levelled, others, hl, _, _, rfl⟩ := placeEach_cons hassigned' hsecond
  have hin := (hassigned' (i + 1) List.mem_cons_self).2
  have hline := (Raster.level_levelAt (placeEach_tankFree free hassigned hfirst) hl hin).self
  have hlift := pillar_lifts (by omega) (by omega) hterrain hrows hin (hmiddle.1.trans hsize.1)
    (by omega) (by omega)
  -- On level ground both would have the same line, since they share a column.
  have hflat := hlevel a (List.mem_append_left _ ha)
  have hlifted := hlevel _ (List.mem_append_right _ List.mem_cons_self)
  have hsame := hflat.row_eq hlifted (by rw [hcolumn]; exact hmono) (by rw [hcolumn]; exact hgap.2)
  rw [hlines a ha] at hsame
  exact absurd (hsame.trans hline) (by omega)

end

/-- Actors are placed alive, in the order of their numbers and between the margins, no matter what
the land is like; beyond ten there are no more.  In an arena of a given size and with a given count
they stand on level ground on every land exactly if there is one of them at most, or only one column
to stand in, or a share of seven columns for each. -/
theorem placed_level {width height : Nat} (hscreen : Config.checkScreen width height = .ok ())
    (hw : width < 2 ^ 31) (count : Nat) :
    (∀ terrain : Raster, terrain.width = width → terrain.height = height →
      ∃ actors terrain', place terrain count = .ok (actors, terrain') ∧
        actors.map Actor.id = List.range (min count Cell.actorCount) ∧
        (∀ a ∈ actors, a.alive = true ∧ Config.placementMargin ≤ a.x ∧
          a.x ≤ (width : Int) - Config.placementMargin - 1) ∧
        (actors.map Actor.x).Pairwise (· ≤ ·)) ∧
    ((∀ terrain actors terrain', terrain.width = width → terrain.height = height →
      terrain.TankFree → place terrain count = .ok (actors, terrain') →
        ∀ a ∈ actors, ∀ x, a.Covers x → terrain'.heightAt x = a.y) ↔
      min count Cell.actorCount ≤ 1 ∨ width = Config.minWidth ∨
        2 * Config.placementMargin + 7 * min count Cell.actorCount ≤ width) := by
  have hmargin : Config.placementMargin = 20 := rfl
  have hmost : Cell.actorCount = 10 := rfl
  obtain ⟨hwidth, hheight⟩ := Config.size_of_checkScreen hscreen
  have room := Room.of_checkScreen hscreen
  unfold place
  dsimp only
  obtain ⟨n, hcount⟩ : ∃ n, min count Cell.actorCount = n := ⟨_, rfl⟩
  rw [hcount]
  obtain ⟨xs, hxs⟩ := exists_lineup hwidth hw (show n ≤ 10 by omega)
  constructor
  · intro terrain hsize hsize'
    obtain ⟨⟨actors, terrain'⟩, hplaced⟩ :=
      placeEach_returns n (List.range n) (room.congr ⟨hsize, hsize'⟩)
    obtain ⟨hids, hcolumns, halive⟩ := placeEach_actors (hxs.assigned hsize) hplaced
    refine ⟨actors, terrain', hplaced, hids, fun a ha => ⟨halive a ha, ?_⟩, ?_⟩
    · obtain ⟨i, hi, hx⟩ := List.mem_map.1 (hcolumns ▸ List.mem_map_of_mem ha)
      have hbounds := hxs.bounds (List.mem_range.1 hi)
      omega
    · rw [hcolumns, List.pairwise_map]
      exact List.pairwise_lt_range.imp_of_mem fun _ hj hlt => hxs.mono hlt.le (List.mem_range.1 hj)
  · rw [show 2 * Config.placementMargin = 40 from rfl, ← hxs.clear_iff]
    constructor
    · -- Neighbours that are not clear of each other have a land on which one stands unevenly.
      intro hlevel i hi
      by_contra hnot
      have hbounds := hxs.bounds hi
      have hhalf : Actor.halfWidth = 3 := rfl
      obtain ⟨z, hz⟩ : ∃ z : Nat, xs (i + 1) + Actor.halfWidth = z :=
        Int.eq_ofNat_of_zero_le (by omega)
      obtain ⟨terrain, hterrain, hsize⟩ := Raster.ofProfile_returns width room.rows (pillar width height z)
      obtain ⟨⟨actors, terrain'⟩, hplaced⟩ :=
        placeEach_returns n (List.range n) (room.congr hsize)
      exact pillar_uneven hxs hheight hi hnot hz hterrain hplaced fun a ha x hlow hhigh =>
        hlevel terrain actors terrain' hsize.1 hsize.2 (Raster.ofProfile_tankFree hterrain) hplaced
          a ha x ⟨hlow, hhigh⟩
    · intro hclear terrain actors terrain' hsize hsize' free hplaced a ha x hx
      have hpairs : (List.range n).Pairwise fun i j => Clear (xs i) (xs j) :=
        List.pairwise_lt_range.imp_of_mem fun _ hj hlt =>
          clear_of_le hclear hlt.le (List.mem_range.1 hj)
      have rows : (playfieldTop : Int) ≤ terrain.height := hsize' ▸ room.rows
      exact placeEach_levels free (hxs.assigned hsize) rows hpairs hplaced a ha x hx.1 hx.2

theorem placed_level_four :
    Config.checkScreen 320 200 = .ok () ∧ 320 < 2 ^ 31 ∧
      (∀ terrain : Raster, terrain.width = 320 → terrain.height = 200 →
        ∃ actors terrain', place terrain 4 = .ok (actors, terrain') ∧
          actors.map Actor.id = [0, 1, 2, 3]) ∧
      ∀ terrain actors terrain', terrain.width = 320 → terrain.height = 200 →
        terrain.TankFree → place terrain 4 = .ok (actors, terrain') →
          ∀ a ∈ actors, ∀ x, a.Covers x → terrain'.heightAt x = a.y := by
  have hscreen : Config.checkScreen 320 200 = .ok () := rfl
  obtain ⟨hplaced, hlevel⟩ := placed_level hscreen (by decide) 4
  refine ⟨hscreen, by decide, fun terrain hsize hsize' => ?_, hlevel.2 (by decide)⟩
  obtain ⟨actors, terrain', hplace, hids, _⟩ := hplaced terrain hsize hsize'
  exact ⟨actors, terrain', hplace, hids⟩

/-- Two actors in a narrow arena.  The second one has a pillar under its right edge and takes the
right half of the ground of the first one along. -/
theorem placed_uneven :
    Config.checkScreen 46 55 = .ok () ∧ ∃ terrain actors terrain',
      Raster.ofProfile 46 55 (pillar 46 55 27) = .ok terrain ∧ terrain.TankFree ∧
      place terrain 2 = .ok (actors, terrain') ∧ actors.map Actor.x = [21, 24] ∧
      ¬∀ a ∈ actors, ∀ x, a.Covers x → terrain'.heightAt x = a.y := by
  have hscreen : Config.checkScreen 46 55 = .ok () := rfl
  obtain ⟨xs, hxs⟩ : ∃ xs, Lineup 46 2 xs := exists_lineup (by decide) (by decide) (by decide)
  have hfirst : xs 0 = 21 := by
    obtain ⟨hle, hge, _⟩ := hxs.central 0 (by decide)
    omega
  have hsecond : xs 1 = 24 := by
    obtain ⟨hle, hge, _⟩ := hxs.central 1 (by decide)
    omega
  have room := Room.of_checkScreen hscreen
  obtain ⟨terrain, hterrain, hsize⟩ := Raster.ofProfile_returns 46 room.rows (pillar 46 55 27)
  obtain ⟨⟨actors, terrain'⟩, hplaced⟩ := placeEach_returns 2 [0, 1] (room.congr hsize)
  obtain ⟨_, hcolumns, _⟩ := placeEach_actors (hxs.assigned hsize.1) hplaced
  -- Three columns apart, the two tanks share four of their seven columns.
  have hnot : ¬Clear (xs 0) (xs 1) := by
    rw [hfirst, hsecond]
    unfold Clear
    decide
  refine ⟨hscreen, terrain, actors, terrain', hterrain, Raster.ofProfile_tankFree hterrain, hplaced,
    hcolumns.trans ?_, fun hlevel => ?_⟩
  · rw [← hfirst, ← hsecond]
    rfl
  · exact pillar_uneven hxs (by decide) (i := 0) (by decide) hnot (by rw [hsecond]; rfl) hterrain
      hplaced fun a ha x hlow hhigh => hlevel a ha x ⟨hlow, hhigh⟩

end Placement

end Artillery
