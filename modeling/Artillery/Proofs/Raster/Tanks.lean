import Artillery.Proofs.Raster.Frames

/-!
# Drawn tanks

After the living actors have been drawn, whatever the raster showed before, a pixel of a tank is a
pixel of a living actor at its place, and its value tells whose.

## Key results

- `isSome_silhouette`: the silhouette is the shape that `Actor.Occupies` describes
- `stampActors_shows`: drawing the actors leaves no pixel of a tank that is not theirs
- `contactAt_tank`: what a projectile takes for a tank is a pixel of a tank
-/

namespace Artillery

/-- The pixels of a tank.  The body is four rows over the ground line and seven columns wide; on top
of it stands a dome of four rows, which starts as wide as the body and ends in a point. -/
def Actor.Occupies (a : Actor) (x y : Int) : Prop :=
  (a.y - 4 ≤ y ∧ y ≤ a.y - 1 ∧ a.x - 3 ≤ x ∧ x ≤ a.x + 3) ∨
    (a.y - 8 ≤ y ∧ y ≤ a.y - 5 ∧ a.x - (y - (a.y - 8)) ≤ x ∧ x ≤ a.x + (y - (a.y - 8)))

/-- The silhouette is drawn where a tank is. -/
theorem isSome_silhouette (a : Actor) (x y : Int) :
    (silhouette (x - a.x) (a.y - y)).isSome = true ↔ a.Occupies x y := by
  unfold silhouette Actor.Occupies
  have hbody : Actor.bodyHeight = 4 := rfl
  have hdome : Actor.domeHeight = 4 := rfl
  have hhalf : Actor.halfWidth = 3 := rfl
  split
  · exact iff_of_true rfl (by omega)
  · dsimp only
    split
    · exact iff_of_true rfl (by omega)
    · exact iff_of_false Bool.false_ne_true (by omega)

/-- The values of an actor tell its number. -/
theorem Cell.toNat_palette_div {id slot : Nat} (hid : id < actorCount) (hslot : slot ≤ 4) :
    (UInt8.ofNat (id * actorStride + slot)).toNat / actorStride = id := by
  -- Ten actors with eight values each do not reach the end of a byte.
  rw [UInt8.toNat_ofNat']
  simp only [actorCount, actorStride] at *
  omega

namespace Raster

/-- Every pixel of a tank belongs to a living actor at its place, whose number its value tells. -/
def Shows (r : Raster) (as : List Actor) : Prop :=
  ∀ (x y : Nat) (v : UInt8), Cell.tank (r.cell x y) = some v →
    ∃ a ∈ as, a.alive = true ∧ a.id < Cell.actorCount ∧ v.toNat / Cell.actorStride = a.id ∧
      a.Occupies x y

variable {r : Raster} {as : List Actor}

/-- After the erasing there is no pixel of a tank. -/
theorem eraseActors_tank (r : Raster) (x y : Nat) : Cell.tank (r.eraseActors.cell x y) = none := by
  rw [eraseActors, cell_mapRows]
  split
  · split
    · exact Cell.tank_sky r.height y
    · rename_i ha
      exact Cell.tank_eq_none (Bool.eq_false_iff.2 ha)
  · rename_i hout
    rw [cell_of_not_lt r hout]
    rfl

/-- Drawing a living actor adds no pixel that is not its own. -/
theorem stampActor_shows (hs : r.Shows as) {a : Actor} (ha : a ∈ as) (alive : a.alive = true) :
    (r.stampActor a.id a.x a.y).Shows as := by
  unfold stampActor
  split
  · rename_i hid
    intro x y v hv
    rw [cell_repaint] at hv
    split at hv
    · split at hv
      · exact hs x y v hv
      · split at hv
        · -- The pixel is painted: its value is one of the actor's, within the silhouette.
          rename_i slot hslot
          have hb := silhouette_bounds hslot
          rw [Cell.tank, if_pos (Cell.isActor_palette hid hb.1 hb.2)] at hv
          obtain rfl := Option.some.inj hv
          exact ⟨a, ha, alive, hid, Cell.toNat_palette_div hid hb.2,
            (isSome_silhouette a x y).1 (by rw [hslot]; rfl)⟩
        · exact hs x y v hv
    · exact hs x y v hv
  · exact hs

/-- After all living actors have been drawn, only they are seen. -/
theorem stampActors_shows (r : Raster) (as : List Actor) : (r.stampActors as).Shows as := by
  unfold stampActors
  have hnone : r.eraseActors.Shows as := by
    intro x y v hv
    rw [eraseActors_tank] at hv
    exact nomatch hv
  have hliving : ∀ a ∈ as.filter Actor.alive, a ∈ as ∧ a.alive = true := by
    intro a ha
    exact List.mem_filter.1 ha
  generalize r.eraseActors = drawn at hnone
  generalize as.filter Actor.alive = living at hliving
  -- The actors are drawn one over the other, and each keeps what was right before.
  induction living generalizing drawn with
  | nil => exact hnone
  | cons a living ih =>
    obtain ⟨ha, hliving⟩ := List.forall_mem_cons.1 hliving
    exact ih _ (stampActor_shows hnone ha.1 ha.2) hliving

/-- Where a projectile meets a tank there is a pixel of a tank with that number. -/
theorem contactAt_tank {x y : Int} {id : ActorId} (h : r.contactAt x y = .tank id) :
    ∃ (n m : Nat) (v : UInt8), x = n ∧ y = m ∧ Cell.tank (r.cell n m) = some v ∧
      v.toNat / Cell.actorStride = id := by
  unfold contactAt at h
  -- A contact is with something on the raster, and terrain is told first.
  split at h
  · rename_i hin
    obtain ⟨hx, _, hy, _⟩ := inBounds_iff.1 hin
    rw [sample, if_pos ⟨hx, hy⟩, Contact.ofCell] at h
    split at h
    · exact nomatch h
    · split at h
      · rename_i ha
        exact ⟨x.toNat, y.toNat, _, (Int.toNat_of_nonneg hx).symm, (Int.toNat_of_nonneg hy).symm,
          if_pos ha, Contact.tank.inj h⟩
      · exact nomatch h
  · exact nomatch h

end Raster

end Artillery
