import Artillery.Land
import Artillery.Proofs.Raster.Index

/-!
# Histories of a raster

A raster comes into being as sky, as a height profile or as generated land, and from then on it is
changed by operations in any order.  After each of them the index names the ground row of every
column, and as long as single cells are only written with terrain or with the sky of their row, the
sky is clear.

## Key results

- `made_indexed`, `made_skyClear`: how a raster starts
- `perform_indexed`, `perform_skyClear`: what one operation keeps
- `history_indexed`: what every history of a raster keeps
-/

namespace Artillery.Raster

/-! ## How a raster comes into being -/

/-- A blank raster shows the sky of each row, and nothing beyond its edges. -/
theorem cell_blank (width height x y : Nat) :
    (blank width height).cell x y = if x < width ∧ y < height then Cell.sky height y else 0 := by
  by_cases hb : x < width ∧ y < height
  · simp [cell, blank, Grid.get, Grid.ofRows, hb]
  · rw [if_neg hb]
    exact cell_of_not_lt (blank width height) hb

/-- A blank raster is indexed. -/
theorem blank_indexed (width height : Nat) : (blank width height).Indexed := by
  rw [indexed_iff]
  intro x hx
  refine ⟨height, ?_, .inl rfl, ?_⟩
  · rw [heightAt_of_lt _ hx]
    simp [blank]
  · intro y _ hy
    rw [cell_blank, if_pos ⟨hx, hy⟩, Cell.isTerrain_sky]
    exact Bool.false_ne_true

/-- A blank raster is all sky. -/
theorem blank_skyClear (width height : Nat) : (blank width height).SkyClear := by
  intro x y hx hy
  rw [cell_blank, if_pos ⟨hx, hy⟩]
  exact Cell.fits_sky height y

/-- A height profile paints terrain onto the sky and then indexes all columns. -/
theorem ofProfile_eq {width height : Nat} {profile : List Int} {r : Raster}
    (h : ofProfile width height profile = .ok r) :
    ∃ tops : Array Nat,
      r = ((blank width height).repaint ⟨0, width⟩ ⟨0, height⟩ fun x y v =>
        if (tops[x]?).getD height ≤ y then Cell.shade height y else v).rescanAll := by
  simp only [ofProfile, withProfile, bind, Except.bind] at h
  split at h
  · exact nomatch h
  · exact ⟨_, (Except.ok.inj h).symm⟩

/-- A raster made from a profile is indexed. -/
theorem ofProfile_indexed {width height : Nat} {profile : List Int} {r : Raster}
    (h : ofProfile width height profile = .ok r) : r.Indexed := by
  obtain ⟨tops, rfl⟩ := ofProfile_eq h
  exact rescanAll_indexed _

/-- Besides its terrain a raster made from a profile is all sky. -/
theorem ofProfile_skyClear {width height : Nat} {profile : List Int} {r : Raster}
    (h : ofProfile width height profile = .ok r) : r.SkyClear := by
  obtain ⟨tops, rfl⟩ := ofProfile_eq h
  apply rescan_skyClear
  apply repaint_skyClear (blank_skyClear width height)
  intro x y v _ hv
  split
  · exact Cell.fits_of_isTerrain (Cell.isTerrain_shade height y)
  · exact hv

/-- Generated land is rasterized as a height profile. -/
theorem generate_eq {land : Land} {width height : Nat} {bumpiness : Int} {k k' : Keystream}
    {r : Raster} (h : (land.generate width height bumpiness).run k = (.ok r, k')) :
    ∃ rows, ofProfile width height rows = .ok r := by
  have hr : ((land.profile width height bumpiness).run k).1.bind (ofProfile width height) =
      .ok r := congrArg Prod.fst h
  cases hp : ((land.profile width height bumpiness).run k).1 with
  | error f =>
    rw [hp] at hr
    exact nomatch hr
  | ok rows =>
    rw [hp] at hr
    exact ⟨rows, hr⟩

/-- The ways in which a raster comes into being. -/
inductive Made : Raster → Prop
  | blank (width height : Nat) : Made (.blank width height)
  | ofProfile {width height : Nat} {profile : List Int} {r : Raster}
      (h : Raster.ofProfile width height profile = .ok r) : Made r
  | flat {width height : Nat} {ground : Int} {r : Raster}
      (h : Raster.flat width height ground = .ok r) : Made r
  | generate {land : Land} {width height : Nat} {bumpiness : Int} {k k' : Keystream} {r : Raster}
      (h : (land.generate width height bumpiness).run k = (.ok r, k')) : Made r

/-- A new raster is indexed. -/
theorem made_indexed {r : Raster} (h : r.Made) : r.Indexed := by
  cases h with
  | blank width height => exact blank_indexed width height
  | ofProfile h => exact ofProfile_indexed h
  | flat h => exact ofProfile_indexed h
  | generate h =>
    obtain ⟨rows, hr⟩ := generate_eq h
    exact ofProfile_indexed hr

/-- The sky of a new raster is clear. -/
theorem made_skyClear {r : Raster} (h : r.Made) : r.SkyClear := by
  cases h with
  | blank width height => exact blank_skyClear width height
  | ofProfile h => exact ofProfile_skyClear h
  | flat h => exact ofProfile_skyClear h
  | generate h =>
    obtain ⟨rows, hr⟩ := generate_eq h
    exact ofProfile_skyClear hr

/-! ## What happens to it -/

/-- The operations on a raster. -/
inductive Operation where
  | write (x y : Int) (v : UInt8)
  | rescanColumn (x : Int)
  | rescanAll
  | eraseActors
  | stampActor (id : ActorId) (cx ground : Int)
  | crater (cx cy radius : Int)
  | fillDisc (cx cy radius : Int)
  | raiseTower (cx foot height : Int)
  | digTunnel (cx mouth depth : Int) (down : Bool)
  | compact (cx radius : Int)
  | level (cx halfWidth : Int)

namespace Operation

/-- Carries an operation out. -/
def perform (r : Raster) : Operation → Except Fault Raster
  | write x y v => .ok (r.write x y v)
  | rescanColumn x => .ok (r.rescanColumn x)
  | rescanAll => .ok r.rescanAll
  | eraseActors => .ok r.eraseActors
  | stampActor id cx ground => .ok (r.stampActor id cx ground)
  | crater cx cy radius => .ok (r.crater cx cy radius)
  | fillDisc cx cy radius => .ok (r.fillDisc cx cy radius)
  | raiseTower cx foot height => .ok (r.raiseTower cx foot height)
  | digTunnel cx mouth depth down => .ok (r.digTunnel cx mouth depth down)
  | compact cx radius => .ok (r.compact cx radius)
  | level cx halfWidth => r.level cx halfWidth

/-- Carries out operations one after another. -/
def performAll : List Operation → Raster → Except Fault Raster
  | [], r => .ok r
  | op :: ops, r => do performAll ops (← op.perform r)

/-- Whether what an operation writes into single cells is terrain or the sky of the row. -/
def KeepsSky (height : Nat) : Operation → Prop
  | write _ y v => Cell.isTerrain v = true ∨ v = Cell.sky height y
  | _ => True

end Operation

open Operation

/-- Every operation leaves the index in agreement with the cells. -/
theorem perform_indexed {r r' : Raster} {op : Operation} (hi : r.Indexed)
    (h : op.perform r = .ok r') : r'.Indexed := by
  cases op with
  | write x y v => exact Except.ok.inj h ▸ write_indexed hi x y v
  | rescanColumn x => exact Except.ok.inj h ▸ rescan_indexed hi _
  | rescanAll => exact Except.ok.inj h ▸ rescanAll_indexed r
  | eraseActors => exact Except.ok.inj h ▸ eraseActors_indexed hi
  | stampActor id cx ground => exact Except.ok.inj h ▸ stampActor_indexed hi id cx ground
  | crater cx cy radius => exact Except.ok.inj h ▸ crater_indexed hi cx cy radius
  | fillDisc cx cy radius => exact Except.ok.inj h ▸ fillDisc_indexed hi cx cy radius
  | raiseTower cx foot height => exact Except.ok.inj h ▸ raiseTower_indexed hi cx foot height
  | digTunnel cx mouth depth down =>
    exact Except.ok.inj h ▸ digTunnel_indexed hi cx mouth depth down
  | compact cx radius => exact Except.ok.inj h ▸ compact_indexed hi cx radius
  | level cx half => exact level_indexed hi h

/-- Every operation that writes nothing else into single cells than terrain and the sky of the row
keeps the sky clear. -/
theorem perform_skyClear {r r' : Raster} {op : Operation} (hs : r.SkyClear)
    (hk : op.KeepsSky r.height) (h : op.perform r = .ok r') : r'.SkyClear := by
  cases op with
  | write x y v => exact Except.ok.inj h ▸ write_skyClear hs hk
  | rescanColumn x => exact Except.ok.inj h ▸ rescan_skyClear hs _
  | rescanAll => exact Except.ok.inj h ▸ rescan_skyClear hs _
  | eraseActors => exact Except.ok.inj h ▸ eraseActors_skyClear hs
  | stampActor id cx ground => exact Except.ok.inj h ▸ stampActor_skyClear hs id cx ground
  | crater cx cy radius => exact Except.ok.inj h ▸ crater_skyClear hs cx cy radius
  | fillDisc cx cy radius => exact Except.ok.inj h ▸ fillDisc_skyClear hs cx cy radius
  | raiseTower cx foot height => exact Except.ok.inj h ▸ raiseTower_skyClear hs cx foot height
  | digTunnel cx mouth depth down =>
    exact Except.ok.inj h ▸ digTunnel_skyClear hs cx mouth depth down
  | compact cx radius => exact Except.ok.inj h ▸ compact_skyClear hs cx radius
  | level cx half => exact level_skyClear hs h

/-- No operation changes the size of a raster. -/
theorem perform_size {r r' : Raster} {op : Operation} (h : op.perform r = .ok r') :
    r'.width = r.width ∧ r'.height = r.height := by
  cases op with
  | write x y v => exact Except.ok.inj h ▸ write_size r x y v
  | rescanColumn x => exact Except.ok.inj h ▸ ⟨rfl, rfl⟩
  | rescanAll => exact Except.ok.inj h ▸ ⟨rfl, rfl⟩
  | eraseActors => exact Except.ok.inj h ▸ ⟨rfl, rfl⟩
  | stampActor id cx ground => exact Except.ok.inj h ▸ stampActor_size r id cx ground
  | crater cx cy radius => exact Except.ok.inj h ▸ ⟨rfl, rfl⟩
  | fillDisc cx cy radius => exact Except.ok.inj h ▸ ⟨rfl, rfl⟩
  | raiseTower cx foot height => exact Except.ok.inj h ▸ ⟨rfl, rfl⟩
  | digTunnel cx mouth depth down => exact Except.ok.inj h ▸ ⟨rfl, rfl⟩
  | compact cx radius => exact Except.ok.inj h ▸ compact_size r cx radius
  | level cx half => exact level_size h

/-- The same for a whole history, which starts from any raster in order. -/
theorem performAll_keeps {r r' : Raster} {ops : List Operation}
    (h : performAll ops r = .ok r') (hi : r.Indexed) :
    r'.Indexed ∧ (r.SkyClear → (∀ op ∈ ops, op.KeepsSky r.height) → r'.SkyClear) := by
  induction ops generalizing r with
  | nil =>
    obtain rfl := Except.ok.inj h
    exact ⟨hi, fun hs _ => hs⟩
  | cons op ops ih =>
    simp only [performAll, bind, Except.bind] at h
    cases hp : op.perform r with
    | error f =>
      rw [hp] at h
      exact nomatch h
    | ok r₁ =>
      rw [hp] at h
      obtain ⟨hi', hs'⟩ := ih h (perform_indexed hi hp)
      refine ⟨hi', ?_⟩
      intro hs hk
      rw [List.forall_mem_cons] at hk
      -- The rows keep their sky because no operation changes the height.
      have hheight : r₁.height = r.height := (perform_size hp).2
      exact hs' (perform_skyClear hs hk.1 hp) (hheight ▸ hk.2)

/-- After any history the index is consistent: the height of each column is its first terrain row in
the playfield, or the height of the raster where there is none.  If single cells were only written
with terrain or with the sky of their row, then every cell that is neither terrain nor an actor is
the sky of its row. -/
theorem history_indexed {r r' : Raster} (made : r.Made) {ops : List Operation}
    (h : performAll ops r = .ok r') :
    r'.Indexed ∧
      (∀ x : Nat, x < r'.width → ∃ y : Nat, r'.heightAt x = y ∧ r'.IsGround x y) ∧
      ((∀ op ∈ ops, op.KeepsSky r.height) →
        ∀ x y : Nat, x < r'.width → y < r'.height →
          Cell.isTerrain (r'.cell x y) = false → Cell.isActor (r'.cell x y) = false →
            r'.cell x y = Cell.sky r'.height y) := by
  obtain ⟨hi, hs⟩ := performAll_keeps h (made_indexed made)
  exact ⟨hi, (indexed_iff r').1 hi, hs (made_skyClear made)⟩

/-- A history that levels, writes and raises terrain, draws a tank, and digs some of it away. -/
theorem history_indexed_earthworks :
    ∃ r', performAll [.raiseTower 4 19 3, .level 4 2, .write 2 14 130, .stampActor 1 4 17,
        .crater 4 19 1, .write 2 14 (Cell.sky 20 14), .compact 4 (-1)] (blank 8 20) = .ok r' ∧
      r'.Indexed ∧ (∀ x y : Nat, x < r'.width → y < r'.height →
          Cell.isTerrain (r'.cell x y) = false → Cell.isActor (r'.cell x y) = false →
            r'.cell x y = Cell.sky r'.height y) := by
  have run : ∃ r', performAll [.raiseTower 4 19 3, .level 4 2, .write 2 14 130, .stampActor 1 4 17,
      .crater 4 19 1, .write 2 14 (Cell.sky 20 14), .compact 4 (-1)] (blank 8 20) = .ok r' :=
    ⟨_, rfl⟩
  obtain ⟨r', hr⟩ := run
  have h := history_indexed (.blank 8 20) hr
  refine ⟨r', hr, h.1, h.2.2 ?_⟩
  -- The two writes are one of terrain and one of the sky of its row.
  simp only [List.forall_mem_cons]
  exact ⟨trivial, trivial, .inl (by decide), trivial, trivial, .inr rfl, trivial,
    List.forall_mem_nil _⟩

end Artillery.Raster
