import Artillery.Proofs.Ledger.Table
import Artillery.Proofs.Raster.Tanks

/-!
# The terrain under moves

What projectiles do to the terrain, they tell: where no event reaches, the earth stays as it is.  No
move touches a drawn tank, so that whatever is struck in a run of moves was drawn before it.

## Key results

- `Moves.earth`: a column has the same earth after a run of moves, or one of its events covers it
- `Moves.tank`: every pixel of a tank stays as it is
- `Moves.struck`: a tank that an impact is told of was there before the run
- `Moves.places`: nobody changes number or column
-/

namespace Artillery

/-! ## Where events reach -/

/-- How far an earthwork reaches to each side of its column. -/
def Earthwork.reach : Earthwork → Int
  | none => -1
  | dirtAdd radius => radius
  | dirtTower _ => 3
  | tunnel depth _ => Raster.tunnelHalfWidth depth
  | disrupt radius => radius

/-- An event announces that the earth of a column may have changed: a crater or an earthwork within
its reach, or the landing of an actor under its footprint. -/
def Event.Covers (as : List Actor) (x : Int) : Event → Prop
  | explosion cx _ radius _ => cx - radius ≤ x ∧ x ≤ cx + radius
  | terrainChanged cx _ work => cx - work.reach ≤ x ∧ x ≤ cx + work.reach
  | actorLanded id _ _ _ => ∃ a ∈ as, a.id = id ∧ a.x - 3 ≤ x ∧ x ≤ a.x + 3
  | _ => False

/-- Beyond its reach an earthwork changes no earth. -/
theorem Earthwork.perform_sameEarth {work : Earthwork} {terrain : Raster} {center : Pixel} {x : Int}
    (far : ¬(center.x - work.reach ≤ x ∧ x ≤ center.x + work.reach)) :
    terrain.SameEarth (work.perform terrain center) x := by
  cases work with
  | none => exact .refl terrain x
  | dirtAdd radius => exact terrain.fillDisc_sameEarth _ _ far
  | dirtTower height => exact terrain.raiseTower_sameEarth _ _ far
  | tunnel depth down => exact terrain.digTunnel_sameEarth _ _ _ far
  | disrupt radius => exact terrain.compact_sameEarth _ far

/-- Earthworks make and erase no pixels of tanks. -/
theorem Earthwork.perform_tank (work : Earthwork) (terrain : Raster) (center : Pixel) (x y : Nat) :
    Cell.tank ((work.perform terrain center).cell x y) = Cell.tank (terrain.cell x y) := by
  cases work with
  | none => rfl
  | dirtAdd radius => exact terrain.fillDisc_tank x y _ _ _
  | dirtTower height => exact terrain.raiseTower_tank x y _ _ _
  | tunnel depth down => exact terrain.digTunnel_tank x y _ _ _ _
  | disrupt radius => exact terrain.compact_tank x y _ _

/-! ## What a blast leaves of an actor -/

/-- A hit changes nothing of an actor but its life, its energy and its shield. -/
theorem hit_frame {a a' : Actor} {raw : Int} {h : ActorHit} {k k' : Keystream}
    (hh : (Shock.hit a raw).run k = ((a', h), k')) :
    ∃ alive energy shield shieldEnergy, a' = { a with
      alive := alive, energy := energy, shield := shield, shieldEnergy := shieldEnergy } := by
  have hurt (b : Actor) (damage : Int) : ∃ alive energy, b.hurt damage =
      { b with alive := alive, energy := energy } := by
    unfold Actor.hurt
    split
    · exact ⟨_, _, rfl⟩
    · exact ⟨b.alive, _, rfl⟩
  -- The shield comes first, then the loss of energy, each a change of its own fields.
  have ha' : a' = ((a.absorb raw).run k).1.1.hurt ((a.absorb raw).run k).1.2.1 :=
    (congrArg (·.1.1) hh).symm
  obtain ⟨alive, energy, hb⟩ := hurt ((a.absorb raw).run k).1.1 ((a.absorb raw).run k).1.2.1
  rw [ha', hb]
  obtain hc | ⟨_, _, hc⟩ := absorb_cases a raw k
  · rw [hc]
    exact ⟨alive, energy, a.shield, a.shieldEnergy, rfl⟩
  · rw [hc]
    unfold Actor.drainShield
    split
    · exact ⟨alive, energy, a.shield, _, rfl⟩
    · exact ⟨alive, energy, _, _, rfl⟩

/-- A shock moves nobody. -/
theorem strike_places {s : Shock} {as as' : List Actor} {carried : Option Vec2} {k k' : Keystream}
    {report : DamageReport} (h : (s.strike as carried).run k = ((as', report), k')) :
    Falling.places as' = Falling.places as := by
  induction as generalizing carried k as' report with
  | nil =>
    obtain ⟨hr, _⟩ := Prod.mk.inj h
    obtain ⟨rfl, rfl⟩ := Prod.mk.inj hr
    rfl
  | cons a as ih =>
    -- An actor that is out of reach is left as it is, and one that is hit keeps its number and
    -- column.
    obtain ⟨_, rest, hs, rfl⟩ | ⟨_, _, a', _, _, rest, _, _, hh, hs, rfl, _⟩ := strike_cons h
    · exact congrArg ((a.id, a.x) :: ·) (ih hs)
    · obtain ⟨_, _, _, _, rfl⟩ := hit_frame hh
      exact congrArg ((a.id, a.x) :: ·) (ih hs)

namespace Arena

variable {a a' : Arena} {es : List Event}

/-! ## Actors -/

/-- Nobody is moved by a move of the arena. -/
theorem Move.places (h : a.Move es a') : Falling.places a'.actors = Falling.places a.actors := by
  cases h with
  | shock s carried => exact strike_places (k := a.keystream) rfl
  | dig center work hw => rw [dig_actors]
  | queue weapon spawn hs => rw [queue_actors]
  | @deflect p p' id i target target' depleted k hi ht hd =>
    show Falling.places (a.actors.set i target') = _
    obtain ⟨_, _, _, rfl⟩ := deflect_eq hd
    obtain ⟨hlt, rfl⟩ := List.getElem?_eq_some_iff.1 ht
    -- The place in the table is given the number and the column that it has.
    have hi : i < (Falling.places a.actors).length := by rwa [Falling.places, List.length_map]
    have hself : (Falling.places a.actors).set i (Falling.places a.actors)[i] =
        Falling.places a.actors := List.set_getElem_self hi
    simp only [Falling.places, List.getElem_map] at hself
    rw [Falling.places, List.map_set]
    exact hself
  | _ => rfl

/-- Nobody is moved by any number of them. -/
theorem Moves.places (h : a.Moves es a') : Falling.places a'.actors = Falling.places a.actors := by
  induction h with
  | nil => rfl
  | cons h _ ih => exact ih.trans h.places

/-! ## Earth -/

/-- A move changes the earth of a column only if it tells of it. -/
theorem Move.earth (h : a.Move es a') (as : List Actor) (x : Int) :
    a.terrain.SameEarth a'.terrain x ∨ ∃ e ∈ es, e.Covers as x := by
  cases h with
  | blow b hr =>
    by_cases hx : b.center.x - b.radius ≤ x ∧ x ≤ b.center.x + b.radius
    · exact .inr ⟨_, List.mem_singleton_self _, hx⟩
    · -- Earth that falls after a blast falls within the columns of the crater.
      left
      have hcrater := a.terrain.crater_sameEarth b.center.y b.radius hx
      show a.terrain.SameEarth (if b.earthMoving then _ else _) x
      split
      · exact hcrater.trans (Raster.compact_sameEarth _ _ hx)
      · exact hcrater
  | dig center work hw =>
    rw [Arena.dig, if_neg hw]
    by_cases hx : center.x - work.reach ≤ x ∧ x ≤ center.x + work.reach
    · exact .inr ⟨_, List.mem_singleton_self _, hx⟩
    · exact .inl (Earthwork.perform_sameEarth hx)
  | queue weapon spawn hs =>
    rw [queue_terrain]
    exact .inl (.refl _ x)
  | _ => exact .inl (.refl _ x)

/-- A column keeps its earth unless it was announced. -/
theorem Moves.earth (h : a.Moves es a') (as : List Actor) (x : Int) :
    a.terrain.SameEarth a'.terrain x ∨ ∃ e ∈ es, e.Covers as x := by
  induction h with
  | nil => exact .inl (.refl _ x)
  | cons h _ ih =>
    obtain hfirst | ⟨e, he, hc⟩ := h.earth as x
    · obtain hrest | ⟨e, he, hc⟩ := ih
      · exact .inl (hfirst.trans hrest)
      · exact .inr ⟨e, List.mem_append_right _ he, hc⟩
    · exact .inr ⟨e, List.mem_append_left _ he, hc⟩

/-! ## Tanks -/

/-- A blast makes and erases no pixels of tanks. -/
theorem blow_tank (a : Arena) (b : Blast) (x y : Nat) :
    Cell.tank ((a.blow b).terrain.cell x y) = Cell.tank (a.terrain.cell x y) := by
  have hcrater := a.terrain.crater_tank x y b.center.x b.center.y b.radius
  show Cell.tank ((if b.earthMoving then _ else _ : Raster).cell x y) = _
  split
  · exact (Raster.compact_tank _ x y _ _).trans hcrater
  · exact hcrater

/-- Hurting the actors happens beside the raster. -/
theorem explode_tank (a : Arena) (b : Blast) (x y : Nat) :
    Cell.tank ((a.explode b).2.terrain.cell x y) = Cell.tank (a.terrain.cell x y) := by
  rw [explode_eq]
  split <;> exact a.blow_tank b x y

/-- Digging makes and erases no pixels of tanks. -/
theorem dig_tank (a : Arena) (center : Pixel) (work : Earthwork) (x y : Nat) :
    Cell.tank ((a.dig center work).terrain.cell x y) = Cell.tank (a.terrain.cell x y) := by
  unfold dig
  split
  · rfl
  · exact work.perform_tank a.terrain center x y

/-- No move touches a drawn tank. -/
theorem Move.tank (h : a.Move es a') (x y : Nat) :
    Cell.tank (a'.terrain.cell x y) = Cell.tank (a.terrain.cell x y) := by
  cases h with
  | blow b hr => exact a.blow_tank b x y
  | dig center work hw => exact a.dig_tank center work x y
  | queue weapon spawn hs => rw [queue_terrain]
  | _ => rfl

/-- The moves of an arena make and erase no pixels of tanks. -/
theorem Moves.tank (h : a.Moves es a') (x y : Nat) :
    Cell.tank (a'.terrain.cell x y) = Cell.tank (a.terrain.cell x y) := by
  induction h with
  | nil => rfl
  | cons h _ ih => exact ih.trans (h.tank x y)

/-- A move that tells of an impact on a tank has found the tank on the raster. -/
theorem Move.contact {x y : Int} {id : ActorId} (h : a.Move es a')
    (hm : .impact x y (.tank id) ∈ es) : a.terrain.contactAt x y = .tank id := by
  cases h with
  | draw k => exact nomatch hm
  | impact p hit ht =>
    obtain ⟨rfl, rfl, rfl⟩ := Event.impact.inj (List.mem_singleton.1 hm)
    exact ht
  | shock s carried =>
    obtain ⟨_, _, _, he⟩ | ⟨_, he⟩ | ⟨_, he⟩ := DamageReport.mem_events hm <;> exact nomatch he
  | @deflect p p' id' i target target' depleted k hi ht hd =>
    cases depleted <;> simp at hm
  | _ => exact nomatch List.mem_singleton.1 hm

/-- A tank that a run of moves tells of having struck was drawn before the run. -/
theorem Moves.struck {x y : Int} {id : ActorId} (h : a.Moves es a')
    (hm : .impact x y (.tank id) ∈ es) :
    ∃ (n m : Nat) (v : UInt8), x = n ∧ y = m ∧ Cell.tank (a.terrain.cell n m) = some v ∧
      v.toNat / Cell.actorStride = id := by
  induction h with
  | nil => exact nomatch hm
  | cons h _ ih =>
    -- Whenever it was struck, it was on the raster then, and so before every move until then.
    obtain hm | hm := List.mem_append.1 hm
    · exact Raster.contactAt_tank (h.contact hm)
    · obtain ⟨n, m, v, hx, hy, hv, hid⟩ := ih hm
      exact ⟨n, m, v, hx, hy, (h.tank n m).symm.trans hv, hid⟩

end Arena

end Artillery
