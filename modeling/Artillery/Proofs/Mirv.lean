import Artillery.Behavior.Mirv

/-!
# When a warhead splits

A splitting warhead sees its velocity once in every step.  It splits where that turns from rising to
falling for the first time, and never again; what the velocity was before it is set on its way makes
no difference.

## Key results

- `ApogeeAt`: the first place where the velocities of a flight turn
- `fly_watches`: a step of a warhead that has not split yet
- `flyAll_splits`: a flight splits at its first apogee and nowhere else
-/

namespace Artillery.Mirv

/-! ## Velocities that turn -/

/-- The velocity before a place of a flight rises, and the one there does not. -/
def TurnsAt (vs : List Float) (i : Nat) : Prop :=
  0 < i ∧ ∃ u ∈ vs[i - 1]?, ∃ v ∈ vs[i]?, 0 < u ∧ v ≤ 0

instance (vs : List Float) (i : Nat) : Decidable (TurnsAt vs i) :=
  inferInstanceAs (Decidable (_ ∧ _))

/-- The first place where the velocities of a flight turn. -/
def ApogeeAt (vs : List Float) (i : Nat) : Prop := TurnsAt vs i ∧ ∀ j < i, ¬TurnsAt vs j

instance (vs : List Float) (i : Nat) : Decidable (ApogeeAt vs i) :=
  inferInstanceAs (Decidable (_ ∧ _))

variable {seen vs : List Float} {v : Float} {i j : Nat}

/-- There is one apogee at most. -/
theorem ApogeeAt.unique (hi : ApogeeAt vs i) (hj : ApogeeAt vs j) : i = j := by
  obtain h | h | h := Nat.lt_trichotomy i j
  · exact absurd hi.1 (hj.2 i h)
  · exact h
  · exact absurd hj.1 (hi.2 j h)

/-- Later velocities do not change where a flight has turned before. -/
theorem turnsAt_append (h : i < seen.length) : TurnsAt (seen ++ vs) i ↔ TurnsAt seen i := by
  unfold TurnsAt
  rw [List.getElem?_append_left h, List.getElem?_append_left (by omega)]

/-- A flight turns at a velocity if the one before it was rising. -/
theorem turnsAt_length :
    TurnsAt (seen ++ v :: vs) seen.length ↔ isApogee seen.getLast? v = true := by
  have hv : (seen ++ v :: vs)[seen.length]? = some v := by simp
  unfold TurnsAt isApogee
  rw [hv]
  obtain rfl | ⟨init, u, rfl⟩ := seen.eq_nil_or_concat
  · simp
  · have hu : (init.concat u ++ v :: vs)[(init.concat u).length - 1]? = some u := by simp
    rw [hu]
    simp

/-! ## Steps -/

/-- A warhead has seen some velocities, among which it has not found its apogee. -/
structure Watches (p : Projectile) (seen : List Float) : Prop where
  maneuver : p.maneuver = .splitTracked seen.getLast? false
  rises : ∀ j < seen.length, ¬TurnsAt seen j

/-- A warhead that begins has seen nothing. -/
theorem Watches.start {p : Projectile} (h : p.maneuver = .splitTracked none false) : Watches p [] :=
  ⟨h, fun _ hj => absurd hj (Nat.not_lt_zero _)⟩

/-- What a warhead does is decided by its maneuver and not by where it is. -/
theorem Watches.congr {p q : Projectile} (h : Watches p seen) (hq : q.maneuver = p.maneuver) :
    Watches q seen := ⟨hq.trans h.maneuver, h.rises⟩

/-- The apogee is where a warhead that has not found it yet turns. -/
theorem Watches.apogeeAt_length {p : Projectile} (h : Watches p seen) :
    ApogeeAt (seen ++ v :: vs) seen.length ↔ TurnsAt (seen ++ v :: vs) seen.length :=
  and_iff_left fun j hj => by
    rw [turnsAt_append hj]
    exact h.rises j hj

/-- A step of a warhead that watches its velocity splits it where that turns; otherwise it does nothing
and has seen one velocity more. -/
theorem fly_watches {p : Projectile} (h : Watches p seen) (weapon : Weapon) (vs : List Float) :
    TurnsAt (seen ++ p.velocity.y :: vs) seen.length ∧
        (fly p weapon).1 = { split := true, remove := true, spawn := fan p weapon } ∧
        (fly p weapon).2.maneuver = .splitTracked (some p.velocity.y) true ∨
      ¬TurnsAt (seen ++ p.velocity.y :: vs) seen.length ∧ (fly p weapon).1 = .nothing ∧
        Watches (fly p weapon).2 (seen ++ [p.velocity.y]) := by
  rw [turnsAt_length]
  unfold fly
  rw [h.maneuver]
  dsimp only
  -- It splits at the turn, and otherwise goes on watching with one velocity more.
  cases hturns : isApogee seen.getLast? p.velocity.y with
  | true => exact .inl ⟨rfl, rfl, rfl⟩
  | false =>
    refine .inr ⟨Bool.false_ne_true, rfl, by simp, fun j hj => ?_⟩
    rw [List.length_append, List.length_singleton] at hj
    obtain hj | rfl := Nat.lt_succ_iff_lt_or_eq.1 hj
    · rw [turnsAt_append hj]
      exact h.rises j hj
    · rw [turnsAt_length, hturns]
      exact Bool.false_ne_true

/-- The effect of a flight changes neither the weapon nor the owner. -/
theorem fly_frame (p : Projectile) (weapon : Weapon) :
    (fly p weapon).2.weapon = p.weapon ∧ (fly p weapon).2.owner = p.owner := by
  unfold fly
  split
  · dsimp only
    split <;> exact ⟨rfl, rfl⟩
  · exact ⟨rfl, rfl⟩

/-- A warhead that has split does nothing any more. -/
theorem fly_spent {p : Projectile} {previous : Option Float}
    (h : p.maneuver = .splitTracked previous true) (weapon : Weapon) :
    fly p weapon = (.nothing, p) := by
  unfold fly
  rw [h]

/-! ## Flights -/

/-- The effects of a warhead that is at some place with some velocity before each of its steps. -/
def flyAll (weapon : Weapon) : List (Vec2 × Vec2) → Projectile → List FlightEffect
  | [], _ => []
  | (x, v) :: legs, p =>
    (fly { p with position := x, velocity := v } weapon).1 ::
      flyAll weapon legs (fly { p with position := x, velocity := v } weapon).2

/-- An effect ends a warhead and releases six bombs of its own where it is. -/
structure IsFan (p : Projectile) (weapon : Weapon) (x : Vec2) (effect : FlightEffect) : Prop where
  split : effect.split = true
  remove : effect.remove = true
  explodeHere : effect.explodeHere = none
  earthwork : effect.earthwork = .none
  six : effect.spawn.length = 6
  bombs : ∀ s ∈ effect.spawn, s.position = x ∧ s.weapon = p.weapon ∧ s.owner = p.owner ∧
    s.maneuver = .none ∧ s.warhead = .sub (if weapon.param = 1 then 25 else 15)

/-- What a projectile splits into is a fan of its weapon. -/
theorem isFan_fan (p : Projectile) (weapon : Weapon) :
    IsFan p weapon p.position { split := true, remove := true, spawn := fan p weapon } where
  split := rfl
  remove := rfl
  explodeHere := rfl
  earthwork := rfl
  six := rfl
  bombs := by
    intro s hs
    obtain ⟨i, _, rfl⟩ := List.mem_map.1 hs
    have hradius : (fanOf weapon).2 = if weapon.param = 1 then 25 else 15 := by
      unfold fanOf
      split <;> rfl
    exact ⟨rfl, rfl, rfl, rfl, congrArg Warhead.sub hradius⟩

theorem IsFan.congr {p q : Projectile} {weapon : Weapon} {x : Vec2} {effect : FlightEffect}
    (h : IsFan p weapon x effect) (hw : p.weapon = q.weapon) (ho : p.owner = q.owner) :
    IsFan q weapon x effect :=
  { h with bombs := hw ▸ ho ▸ h.bombs }

/-- There is an effect for every leg of the flight. -/
theorem length_flyAll (weapon : Weapon) (legs : List (Vec2 × Vec2)) (p : Projectile) :
    (flyAll weapon legs p).length = legs.length := by
  induction legs generalizing p with
  | nil => rfl
  | cons leg legs ih => exact congrArg (· + 1) (ih _)

/-- The flight of a warhead that has split has no effects. -/
theorem flyAll_spent {p : Projectile} {previous : Option Float}
    (h : p.maneuver = .splitTracked previous true) (weapon : Weapon) (legs : List (Vec2 × Vec2)) :
    flyAll weapon legs p = List.replicate legs.length .nothing := by
  induction legs generalizing p with
  | nil => rfl
  | cons leg legs ih =>
    have hfly := fly_spent (p := { p with position := leg.1, velocity := leg.2 }) h weapon
    show (fly { p with position := leg.1, velocity := leg.2 } weapon).1 ::
      flyAll weapon legs (fly { p with position := leg.1, velocity := leg.2 } weapon).2 = _
    rw [hfly, ih (p := { p with position := leg.1, velocity := leg.2 }) h]
    rfl

/-- The flight of a warhead that has seen some velocities splits where these and the ones to come turn
for the first time. -/
theorem flyAll_watches {p : Projectile} (h : Watches p seen) (weapon : Weapon)
    (legs : List (Vec2 × Vec2)) {x v : Vec2} (hleg : legs[i]? = some (x, v)) :
    (ApogeeAt (seen ++ legs.map (·.2.y)) (seen.length + i) →
        ∃ effect, (flyAll weapon legs p)[i]? = some effect ∧ IsFan p weapon x effect) ∧
      (¬ApogeeAt (seen ++ legs.map (·.2.y)) (seen.length + i) →
        (flyAll weapon legs p)[i]? = some .nothing) := by
  induction legs generalizing p seen i with
  | nil => exact nomatch hleg
  | cons leg legs ih =>
    have here : Watches { p with position := leg.1, velocity := leg.2 } seen := h.congr rfl
    have hcons : flyAll weapon (leg :: legs) p =
        (fly { p with position := leg.1, velocity := leg.2 } weapon).1 ::
          flyAll weapon legs (fly { p with position := leg.1, velocity := leg.2 } weapon).2 := rfl
    have hframe := fly_frame { p with position := leg.1, velocity := leg.2 } weapon
    have hstep := fly_watches here weapon (legs.map (·.2.y))
    have hfan := isFan_fan { p with position := leg.1, velocity := leg.2 } weapon
    rw [hcons, List.map_cons]
    -- From here on only what is known about the first leg counts.
    generalize fly { p with position := leg.1, velocity := leg.2 } weapon = r at hframe hstep
    dsimp only at hframe hstep hfan
    obtain ⟨hturns, heffect, hspent⟩ | ⟨hrises, heffect, hnext⟩ := hstep
    · have hapogee := here.apogeeAt_length.2 hturns
      cases i with
      | zero =>
        obtain ⟨rfl, rfl⟩ := Prod.mk.inj (Option.some.inj hleg)
        rw [List.getElem?_cons_zero, heffect]
        exact ⟨fun _ => ⟨_, rfl, hfan.congr rfl rfl⟩, fun hc => absurd hapogee hc⟩
      | succ i =>
        -- There is one apogee at most, and it was the first leg.
        have hnot : ¬ApogeeAt (seen ++ leg.2.y :: legs.map (·.2.y)) (seen.length + (i + 1)) :=
          fun hc => by have := hapogee.unique hc; omega
        refine ⟨fun hc => absurd hc hnot, fun _ => ?_⟩
        rw [List.getElem?_cons_succ, flyAll_spent hspent, List.getElem?_replicate]
        have hlt : i + 1 < legs.length + 1 := (List.getElem?_eq_some_iff.1 hleg).1
        rw [if_pos (Nat.lt_of_succ_lt_succ hlt)]
    · cases i with
      | zero =>
        rw [List.getElem?_cons_zero, heffect]
        exact ⟨fun hc => absurd (here.apogeeAt_length.1 hc) hrises, fun _ => rfl⟩
      | succ i =>
        obtain ⟨hsplits, hquiet⟩ := ih hnext (i := i) hleg
        have hvs : seen ++ [leg.2.y] ++ legs.map (·.2.y) = seen ++ leg.2.y :: legs.map (·.2.y) := by
          simp
        have hi : (seen ++ [leg.2.y]).length + i = seen.length + (i + 1) := by
          simp only [List.length_append, List.length_singleton]
          omega
        rw [hvs, hi] at hsplits hquiet
        rw [List.getElem?_cons_succ]
        refine ⟨fun hc => ?_, hquiet⟩
        obtain ⟨effect, heffect, hisFan⟩ := hsplits hc
        exact ⟨effect, heffect, hisFan.congr hframe.1 hframe.2⟩

/-- A warhead that begins its flight splits at its first apogee, where it ends and leaves six bombs, and
has no other effects. -/
theorem flyAll_splits {p : Projectile} (h : p.maneuver = .splitTracked none false) (weapon : Weapon)
    (legs : List (Vec2 × Vec2)) {x v : Vec2} (hleg : legs[i]? = some (x, v)) :
    (ApogeeAt (legs.map (·.2.y)) i →
        ∃ effect, (flyAll weapon legs p)[i]? = some effect ∧ IsFan p weapon x effect) ∧
      (¬ApogeeAt (legs.map (·.2.y)) i → (flyAll weapon legs p)[i]? = some .nothing) := by
  have hwatches := flyAll_watches (.start h) weapon legs hleg
  rwa [List.nil_append, List.length_nil, Nat.zero_add] at hwatches

end Artillery.Mirv
