/-! # Faults

The one way in which a step of the simulation can break down: a value was to be kept between bounds
that leave no room for it.  Arenas that are too small for their playfield are the usual cause; an
arena and a configuration that pass their checks never get here. -/

namespace Artillery

/-- Why a step could not be carried out. -/
inductive Fault where
  /-- The lower bound of an interval lies above its upper bound, or a bound is not a number. -/
  | crossedBounds
  deriving DecidableEq, Repr

/-- A computation that gives a result has gone through its first part. -/
theorem Fault.bind_ok {ε α β : Type} {x : Except ε α} {f : α → Except ε β} {r : β}
    (h : x >>= f = .ok r) : ∃ v, x = .ok v ∧ f v = .ok r := by
  cases x with
  | error e => exact nomatch h
  | ok v => exact ⟨v, rfl, h⟩

/-- A computation gives a result if its first part does and the rest does with that. -/
theorem Fault.exists_bind {ε α β : Type} {x : Except ε α} {f : α → Except ε β}
    (hx : ∃ v, x = .ok v) (hf : ∀ v, x = .ok v → ∃ r, f v = .ok r) : ∃ r, x >>= f = .ok r := by
  obtain ⟨v, rfl⟩ := hx
  exact hf v rfl

/-- Whether a computation gives a result can be tested. -/
theorem Fault.exists_of_isOk {ε α : Type} {x : Except ε α} (h : x.isOk = true) :
    ∃ v, x = .ok v := by
  cases x with
  | error e => exact nomatch h
  | ok v => exact ⟨v, rfl⟩

/-- So can whether the result has a property. -/
theorem Fault.exists_of_any {ε α : Type} {x : Except ε α} {p : α → Bool}
    (h : x.toOption.any p = true) : ∃ v, x = .ok v ∧ p v = true := by
  cases x with
  | error e => exact nomatch h
  | ok v => exact ⟨v, rfl, h⟩

/-- The nearest integer to `x` in `lo .. hi`. -/
def clampInt (lo hi x : Int) : Except Fault Int :=
  if lo ≤ hi then .ok (max lo (min x hi)) else .error .crossedBounds

theorem clampInt_of_le {lo hi : Int} (x : Int) (h : lo ≤ hi) :
    clampInt lo hi x = .ok (max lo (min x hi)) := if_pos h

theorem clampInt_of_lt {lo hi : Int} (x : Int) (h : hi < lo) :
    clampInt lo hi x = .error .crossedBounds := if_neg (by omega)

/-- What has been kept between bounds shows that they were not crossed. -/
theorem le_of_clampInt {lo hi x y : Int} (h : clampInt lo hi x = .ok y) :
    lo ≤ hi ∧ y = max lo (min x hi) := by
  unfold clampInt at h
  split at h
  · rename_i room
    exact ⟨room, (Except.ok.inj h).symm⟩
  · exact nomatch h

end Artillery
