import Artillery.Raster.Earthwork
import Artillery.Raster.Silhouette

/-!
# The bands of cell values

Sky, terrain and actors keep to bands of their own, whatever the row and the raster.  A value *fits*
its row if it is terrain, an actor, or exactly the sky of that row; digging, filling and drawing
turn values that fit into values that fit.
-/

namespace Artillery.Cell

theorem isTerrain_iff (v : UInt8) : isTerrain v = true ↔ 105 ≤ v.toNat := by
  simp [isTerrain, terrainStart, UInt8.le_iff_toNat_le]

theorem isActor_iff (v : UInt8) : isActor v = true ↔ 0 < v.toNat ∧ v.toNat < 80 := by
  simp [isActor, actorEnd, UInt8.lt_iff_toNat_lt]

/-- The step of the sky: rows beyond the first and the last count as these. -/
theorem sky_eq (height : Nat) (y : Int) :
    sky height y = UInt8.ofNat (80 + (max 0 (min y (skySpan height)) * 23 / skySpan height).toNat) := by
  unfold sky
  dsimp only
  rw [Quantity.quotient_of_nonneg, Quantity.within]
  have := (Quantity.within_bounds y (Int.le_of_lt (skySpan_pos height))).1
  omega

/-- The sky of a row takes one of 24 values. -/
theorem toNat_sky (height : Nat) (y : Int) :
    80 ≤ (sky height y).toNat ∧ (sky height y).toNat ≤ 103 := by
  have hspan := skySpan_pos height
  have hle : max 0 (min y (skySpan height)) * 23 / skySpan height ≤ 23 := by
    rw [Int.ediv_le_iff_le_mul hspan]
    omega
  have hge : 0 ≤ max 0 (min y (skySpan height)) * 23 / skySpan height :=
    Int.ediv_nonneg (by omega) (by omega)
  rw [sky_eq, UInt8.toNat_ofNat']
  omega

/-- Terrain of a row takes one of 30 values, also where the product in it wraps around. -/
theorem toNat_shade (height : Nat) (y : Int) :
    120 ≤ (shade height y).toNat ∧ (shade height y).toNat ≤ 149 := by
  unfold shade
  dsimp only
  have hstep := @Quantity.within_bounds 0 29
    (Quantity.quotient (Quantity.int32 ((height - 1 - y) * 29)) (shadeSpan height)
      (Int.ne_of_gt (shadeSpan_pos height))) (by decide)
  rw [UInt8.toNat_ofNat']
  omega

/-- No sky is terrain. -/
@[simp] theorem isTerrain_sky (height : Nat) (y : Int) : isTerrain (sky height y) = false := by
  have := toNat_sky height y
  rw [Bool.eq_false_iff, ne_eq, isTerrain_iff]
  omega

/-- No sky is an actor's. -/
@[simp] theorem isActor_sky (height : Nat) (y : Int) : isActor (sky height y) = false := by
  have := toNat_sky height y
  rw [Bool.eq_false_iff, ne_eq, isActor_iff]
  omega

/-- Every shade is terrain. -/
@[simp] theorem isTerrain_shade (height : Nat) (y : Int) : isTerrain (shade height y) = true := by
  have := toNat_shade height y
  rw [isTerrain_iff]
  omega

/-- No actor's value is terrain. -/
theorem not_isTerrain_of_isActor {v : UInt8} (h : isActor v = true) : isTerrain v = false := by
  rw [isActor_iff] at h
  rw [Bool.eq_false_iff, ne_eq, isTerrain_iff]
  omega

/-- So no shade is an actor's. -/
@[simp] theorem isActor_shade (height : Nat) (y : Int) : isActor (shade height y) = false :=
  Bool.eq_false_iff.2 fun h => by simpa using not_isTerrain_of_isActor h

/-- Nothing that has been dug is terrain. -/
@[simp] theorem isTerrain_dug (height y : Nat) (v : UInt8) :
    isTerrain (Raster.dug height y v) = false := by
  unfold Raster.dug
  split <;> simp [*]

/-- Everything that has been filled is terrain, except for the pixels of tanks. -/
@[simp] theorem isTerrain_filled (height y : Nat) (v : UInt8) :
    isTerrain (Raster.filled height y v) = !isActor v := by
  cases hactor : isActor v with
  | true => simp [Raster.filled, hactor, not_isTerrain_of_isActor hactor]
  | false =>
    by_cases hterrain : isTerrain v = true
    · simp [Raster.filled, hterrain]
    · simp [Raster.filled, hterrain, hactor]

/-- The values that an actor is drawn in belong to the band of actors. -/
theorem isActor_palette {id slot : Nat} (hid : id < actorCount) (hpos : 1 ≤ slot)
    (hslot : slot ≤ 4) : isActor (UInt8.ofNat (id * actorStride + slot)) = true := by
  rw [isActor_iff, UInt8.toNat_ofNat']
  simp only [actorCount, actorStride] at *
  omega

/-- A value fits its row: what is neither terrain nor an actor is the sky of the row. -/
def Fits (height y : Nat) (v : UInt8) : Prop :=
  isTerrain v = false → isActor v = false → v = sky height y

/-- Sky fits in its row. -/
theorem fits_sky (height y : Nat) : Fits height y (sky height y) := fun _ _ => rfl

/-- Terrain fits in every row. -/
theorem fits_of_isTerrain {height y : Nat} {v : UInt8} (h : isTerrain v = true) :
    Fits height y v := fun hn => absurd h (by simp [hn])

/-- So do the values of actors. -/
theorem fits_of_isActor {height y : Nat} {v : UInt8} (h : isActor v = true) :
    Fits height y v := fun _ hn => absurd h (by simp [hn])

/-- Digging leaves a value that fits. -/
theorem fits_dug {height y : Nat} {v : UInt8} (h : Fits height y v) :
    Fits height y (Raster.dug height y v) := by
  unfold Raster.dug
  split
  · exact fits_sky height y
  · exact h

/-- Filling leaves a value that fits. -/
theorem fits_filled {height y : Nat} {v : UInt8} (h : Fits height y v) :
    Fits height y (Raster.filled height y v) := by
  unfold Raster.filled
  split
  · exact h
  · exact fits_of_isTerrain (isTerrain_shade height y)

end Artillery.Cell

namespace Artillery

/-- A row of a tank shows one of four values. -/
theorem silhouette_bounds {dx rise : Int} {slot : Nat} (h : silhouette dx rise = some slot) :
    1 ≤ slot ∧ slot ≤ 4 := by
  unfold silhouette at h
  split at h
  · rename_i hbody
    obtain rfl := Option.some.inj h
    simp only [Actor.bodyHeight] at hbody
    omega
  · -- Above the body the barrel has a value of its own.
    dsimp only at h
    split at h
    · obtain rfl := Option.some.inj h
      omega
    · exact nomatch h

end Artillery
