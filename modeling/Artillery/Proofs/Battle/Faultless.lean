import Artillery.Proofs.Arena.Faultless
import Artillery.Proofs.Battle.Calls
import Artillery.Proofs.Falling

/-!
# Battles without faults

A battle that has begun never breaks down.  There are two ways in which it could, and neither is
taken:

* A value is kept between bounds that are only known in the match, and the bounds are crossed.  This
  is the `Fault` of a call.  What these bounds ask for is asked of the size of the arena and of the
  rules; both were checked in the beginning, and no call changes them.
* A cell or a ground row is read or written that does not exist, something is divided by zero, a
  number is drawn from an empty range, or it is kept between constants in the wrong order.  Every
  such operation takes a proof that this is not so, which the definitions give where they call it:
  `Grid.get`, `Grid.modify` and the rows of a castle take the bounds of their indices,
  `Quantity.quotient` a divisor that is not zero, `Draw.below` and `Draw.between` a range that is not
  empty, `Quantity.within` and `Quantity.restrict` an interval.

So the theorem has to speak of faults only.

## Key results

- `begin_guarded`, `beginOver_guarded`: a valid configuration begins a guarded battle
- `Call.perform_returns`: every call can be carried out in a guarded battle
- `Call.perform_sameField`: no call changes the field or the rules
- `Call.performAll_guarded`: so any number of calls can be carried out, and leave it guarded
- `never_faults`: a battle that has begun does not break down
-/

namespace Artillery

/-! ## Falls -/

namespace Falling

/-- Whoever falls can fall on, and land. -/
theorem fallOn_returns {terrain : Raster} (rows : (playfieldTop : Int) ≤ terrain.height)
    (a : Actor) :
    ∃ r, a.fallOn terrain = .ok r := by
  unfold Actor.fallOn
  split
  · exact ⟨_, rfl⟩
  · split
    · exact ⟨_, rfl⟩
    · exact Fault.exists_bind (Raster.level_returns rows _ _) fun _ _ => ⟨_, rfl⟩

/-- A frame of falling can be gone through over every playfield. -/
theorem step_returns {terrain : Raster} (rows : (playfieldTop : Int) ≤ terrain.height)
    (as : List Actor) : ∃ r, step as terrain = .ok r := by
  induction as generalizing terrain with
  | nil => exact ⟨_, rfl⟩
  | cons a as ih =>
    refine Fault.exists_bind (fallOn_returns rows a) fun r hr => ?_
    have hrows : (playfieldTop : Int) ≤ r.2.1.height := by rw [(fallOn_size hr).2]; exact rows
    exact Fault.exists_bind (ih hrows) fun _ _ => ⟨_, rfl⟩

end Falling

/-! ## The wind -/

/-- A limit on both sides of zero leaves room for every wind. -/
theorem Wind.next_returns {config : Config} (h : -(config.maxWind * 4) ≤ config.maxWind * 4)
    (wind : Float) (k : Keystream) : ∃ next, ((Wind.next wind config).run k).1 = .ok next := by
  unfold next
  split
  · exact Quantity.clamp_returns h _
  · exact ⟨_, rfl⟩

namespace Battle

/-! ## The field and the rules -/

/-- Every bound and every range that a call may ask for leaves room. -/
structure Guarded (b : Battle) : Prop where
  room : b.arena.terrain.Roomy
  wind : -(b.arena.config.maxWind * 4) ≤ b.arena.config.maxWind * 4

/-- The size of the arena and the rules of the match are those of before. -/
structure SameField (b b' : Battle) : Prop where
  size : b'.arena.terrain.width = b.arena.terrain.width ∧
    b'.arena.terrain.height = b.arena.terrain.height
  config : b'.arena.config = b.arena.config

section

variable {b b₁ b' : Battle}

/-- A battle is guarded by its field and its rules. -/
theorem Guarded.congr (h : b.Guarded) (hs : SameField b b') : b'.Guarded :=
  ⟨h.room.congr hs.size, hs.config ▸ h.wind⟩

theorem SameField.refl (b : Battle) : SameField b b := ⟨⟨rfl, rfl⟩, rfl⟩

theorem SameField.trans (h₁ : SameField b b₁) (h₂ : SameField b₁ b') : SameField b b' :=
  ⟨⟨h₂.size.1.trans h₁.size.1, h₂.size.2.trans h₁.size.2⟩, h₂.config.trans h₁.config⟩

/-- Moves of the arena stay on the field. -/
theorem MovesOn.sameField (h : MovesOn b b') : SameField b b' := by
  obtain ⟨es, arena, hmoves, ha⟩ := h
  refine ⟨?_, ?_⟩
  · rw [ha]
    exact hmoves.size
  · rw [ha]
    exact hmoves.rules.1

/-- Drawing the tanks anew keeps the size. -/
theorem redraw_sameField (b : Battle) : SameField b b.redraw :=
  ⟨b.arena.terrain.stampActors_size b.arena.actors, rfl⟩

/-- A step of flight keeps the field. -/
theorem step_sameField (h : b.step = .ok b') : SameField b b' := by
  obtain ⟨es, arena, hmoves, ha, _⟩ := step_moves h
  have hon : SameField b.redraw b' := by
    refine ⟨?_, ?_⟩
    · rw [ha]
      exact hmoves.size
    · rw [ha]
      exact hmoves.rules.1
  exact b.redraw_sameField.trans hon

/-- So does a frame of falling. -/
theorem stepFalling_sameField {falling : Bool} (h : b.stepFalling = .ok (falling, b')) :
    SameField b b' := by
  obtain ⟨_, rfl⟩ | ⟨_, actors, terrain, events, hfall, rfl⟩ := stepFalling_cases h
  · exact .refl _
  · have hfallen := Falling.step_size hfall
    have hdrawn := terrain.stampActors_size actors
    exact ⟨⟨hdrawn.1.trans hfallen.1, hdrawn.2.trans hfallen.2⟩, rfl⟩

end

/-! ## Time -/

section

variable {b : Battle} (h : b.Guarded)
include h

/-- All projectiles can make their steps, one after another. -/
theorem stepEach_returns (hs : List Nat) : ∃ b', stepEach hs b = .ok b' := by
  induction hs generalizing b with
  | nil => exact ⟨_, rfl⟩
  | cons handle hs ih =>
    unfold stepEach
    split
    · exact ih h
    · rename_i p roster _
      refine Fault.exists_bind (Arena.stepProjectile_returns h.room p) fun r hr => ?_
      -- The step has moved the arena, but not changed its size or its rules.
      obtain ⟨es, hmoves⟩ := Arena.stepProjectile_moves hr
      exact ih (h.congr ⟨hmoves.size, hmoves.rules.1⟩)

/-- So a step of flight can be made. -/
theorem step_returns : ∃ b', b.step = .ok b' :=
  Fault.exists_bind (stepEach_returns (h.congr b.redraw_sameField) _) fun _ _ => ⟨_, rfl⟩

/-- So can any number of them. -/
theorem stepWhileFlying_returns (n : Nat) : ∃ b', stepWhileFlying n b = .ok b' := by
  induction n generalizing b with
  | zero => exact ⟨_, rfl⟩
  | succ n ih =>
    unfold stepWhileFlying
    split
    · exact Fault.exists_bind (step_returns h) fun b₁ hb => ih (h.congr (step_sameField hb))
    · exact ⟨_, rfl⟩

omit h in
/-- So can a frame of falling. -/
theorem stepFalling_returns (rows : (playfieldTop : Int) ≤ b.arena.terrain.height) :
    ∃ r, b.stepFalling = .ok r := by
  unfold stepFalling
  dsimp only
  split
  · exact Fault.exists_bind (Falling.step_returns rows _) fun _ _ => ⟨_, rfl⟩
  · exact ⟨_, rfl⟩

/-- So can a whole frame. -/
theorem tick_returns : ∃ r, b.tick = .ok r := by
  refine Fault.exists_bind (stepWhileFlying_returns h _) fun flown hf => ?_
  -- The falls of the frame come after its flight, over the field that this has left.
  have hflown : flown.stepExplosions.Guarded := by
    have hkept := stepWhileFlying_keeps (P := Guarded)
      (fun hc hs => hc.congr (step_sameField hs)) h hf
    exact hkept.congr ⟨⟨rfl, rfl⟩, rfl⟩
  dsimp only
  split
  · obtain ⟨r, hr⟩ := stepFalling_returns hflown.room.rows
    rw [hr]
    exact ⟨_, rfl⟩
  · exact ⟨_, rfl⟩

/-! ## Calls -/

/-- The wind can change, since its limit is not negative. -/
theorem changeWind_returns : ∃ b', b.changeWind = .ok b' :=
  Fault.exists_bind (Wind.next_returns h.wind b.arena.wind b.arena.keystream) fun _ _ => ⟨_, rfl⟩

omit h in
/-- Under a handle that nobody has nothing is done. -/
theorem withProjectile_returns {α : Type} (handle : Nat)
    {act : Projectile → Arena → Except Fault (α × Projectile × Arena)}
    (hact : ∀ p, ∃ r, act p b.arena = .ok r) : ∃ r, b.withProjectile handle act = .ok r := by
  unfold withProjectile
  split
  · exact ⟨_, rfl⟩
  · rename_i p roster _
    exact Fault.exists_bind (hact p) fun _ _ => ⟨_, rfl⟩

/-- So any projectile can be moved by hand. -/
theorem advance_returns (handle : Nat) : ∃ r, b.advance handle = .ok r := by
  unfold advance
  split
  · exact ⟨_, rfl⟩
  · rename_i p _
    exact Fault.exists_bind (p.advance_returns h.room _ _) fun _ _ => ⟨_, rfl⟩

/-- Every call can be carried out in a guarded battle. -/
theorem Call.perform_returns (c : Call) : ∃ r, c.perform b = .ok r := by
  -- Most calls hand their result on with some events.
  have handed {α : Type} {x : Except Fault α} {f : α → List Event × Battle}
      (hx : ∃ v, x = .ok v) : ∃ r, (do return f (← x) : Except Fault _) = .ok r :=
    Fault.exists_bind hx fun _ _ => ⟨_, rfl⟩
  cases c with
  | launch owner degrees power weapon =>
    simp only [perform]
    split <;> exact ⟨_, rfl⟩
  | tick => exact tick_returns h
  | placeActors count =>
    refine handed (Fault.exists_bind ?_ fun _ _ => ⟨_, rfl⟩)
    exact Placement.place_returns count h.room
  | step => exact handed (step_returns h)
  | advance handle => exact handed (advance_returns h handle)
  | strike handle hit => exact handed (withProjectile_returns handle fun p => ⟨_, rfl⟩)
  | applyImpact handle effect => exact handed (withProjectile_returns handle fun p => ⟨_, rfl⟩)
  | fly handle =>
    refine handed (withProjectile_returns handle fun p => ?_)
    exact Fault.exists_bind (p.fly_returns (s := b.arena.surroundings) h.room) fun _ _ => ⟨_, rfl⟩
  | applyFlight handle effect => exact handed (withProjectile_returns handle fun p => ⟨_, rfl⟩)
  | onTerrain op => exact handed (op.perform_returns h.room)
  | stepFalling => exact handed (stepFalling_returns h.room.rows)
  | changeWind => exact handed (changeWind_returns h)
  | _ => exact ⟨_, rfl⟩

end

section

variable {b b' : Battle}

/-- A launch keeps the field. -/
theorem launch?_sameField {owner : ActorId} {degrees power : Float} {weapon : WeaponId}
    {handle : Nat} (h : b.launch? owner degrees power weapon = some (handle, b')) :
    SameField b b' := by
  simp only [launch?, Option.bind_eq_bind, Option.bind_eq_some_iff] at h
  obtain ⟨i, _, shooter, _, behavior, _, h⟩ := h
  obtain ⟨_, rfl⟩ := Prod.mk.inj (Option.some.inj h)
  exact ⟨⟨rfl, rfl⟩, rfl⟩

/-- So does placing the actors, which levels the ground. -/
theorem placeActors_sameField {count : Nat} (h : b.placeActors count = .ok b') :
    SameField b b' := by
  obtain ⟨⟨actors, terrain⟩, hplaced, h⟩ := Fault.bind_ok h
  obtain rfl := Except.ok.inj h
  have hsize := Placement.placeEach_size hplaced
  have hdrawn := terrain.stampActors_size actors
  exact ⟨⟨hdrawn.1.trans hsize.1, hdrawn.2.trans hsize.2⟩, rfl⟩

/-- No call changes the field or the rules. -/
theorem Call.perform_sameField {c : Call} {es : List Event} (h : c.perform b = .ok (es, b')) :
    SameField b b' := by
  -- Where a call is made of others, the field stays from one to the next.
  cases c with
  | setArsenal | setActors | spawn | stepExplosions | setWind | drain | strikeActors =>
    obtain ⟨_, rfl⟩ := Prod.mk.inj (Except.ok.inj h)
    exact ⟨⟨rfl, rfl⟩, rfl⟩
  | addActor a =>
    obtain ⟨_, rfl⟩ := Prod.mk.inj (Except.ok.inj h)
    exact ⟨(b.setActors (b.arena.actors ++ [a])).redraw_sameField.size, rfl⟩
  | launch owner degrees power weapon =>
    simp only [perform] at h
    split at h <;> obtain ⟨rfl, rfl⟩ := Prod.mk.inj (Except.ok.inj h)
    · rename_i hl
      exact launch?_sameField hl
    · exact .refl _
  | tick =>
    obtain ⟨c, hc, _, rfl⟩ := tick_keeps (P := SameField b)
      (fun hc hs => hc.trans (step_sameField hs)) (fun hc => hc.trans ⟨⟨rfl, rfl⟩, rfl⟩)
      (fun hc hs => hc.trans (stepFalling_sameField hs)) (.refl b) h
    exact hc.trans ⟨⟨rfl, rfl⟩, rfl⟩
  | placeActors count =>
    obtain ⟨r, hr, h⟩ := Fault.bind_ok h
    obtain ⟨_, rfl⟩ := Prod.mk.inj (Except.ok.inj h)
    exact placeActors_sameField hr
  | step =>
    obtain ⟨r, hr, h⟩ := Fault.bind_ok h
    obtain ⟨_, rfl⟩ := Prod.mk.inj (Except.ok.inj h)
    exact step_sameField hr
  | advance handle =>
    obtain ⟨r, hr, h⟩ := Fault.bind_ok h
    obtain ⟨_, rfl⟩ := Prod.mk.inj (Except.ok.inj h)
    have harena := advance_arena hr
    exact ⟨by rw [harena]; exact ⟨rfl, rfl⟩, by rw [harena]⟩
  | strike | applyImpact | fly | applyFlight =>
    exact (perform_movesOn h trivial).2.sameField
  | onTerrain op =>
    obtain ⟨terrain, hterrain, h⟩ := Fault.bind_ok h
    obtain ⟨_, rfl⟩ := Prod.mk.inj (Except.ok.inj h)
    exact ⟨Raster.perform_size hterrain, rfl⟩
  | stepFalling =>
    obtain ⟨r, hr, h⟩ := Fault.bind_ok h
    obtain ⟨_, rfl⟩ := Prod.mk.inj (Except.ok.inj h)
    exact stepFalling_sameField hr
  | changeWind =>
    obtain ⟨r, hr, h⟩ := Fault.bind_ok h
    obtain ⟨_, rfl⟩ := Prod.mk.inj (Except.ok.inj h)
    obtain ⟨wind, _, hr⟩ := Fault.bind_ok hr
    obtain rfl := Except.ok.inj hr
    exact ⟨⟨rfl, rfl⟩, rfl⟩

/-- Any number of calls can be carried out in a guarded battle, and leave it guarded. -/
theorem Call.performAll_guarded (h : b.Guarded) (cs : List Call) :
    ∃ es b', performAll cs b = .ok (es, b') ∧ b'.Guarded := by
  induction cs generalizing b with
  | nil => exact ⟨_, _, rfl, h⟩
  | cons c cs ih =>
    obtain ⟨⟨handed, b₁⟩, hc⟩ := perform_returns h c
    obtain ⟨later, b₂, hcs, hguarded⟩ := ih (h.congr (perform_sameField hc))
    refine ⟨handed ++ later, b₂, ?_, hguarded⟩
    simp only [performAll, hc, hcs, bind, Except.bind]
    rfl

end

/-! ## Beginnings -/

/-- What a configuration has been checked for. -/
theorem validate_ok {c : Config} (h : c.validate = .ok ()) :
    Config.checkScreen c.screenWidth c.screenHeight = .ok () ∧ 0 ≤ c.maxWind := by
  obtain ⟨_, hscreen, h⟩ := Fault.bind_ok h
  obtain ⟨_, _, h⟩ := Fault.bind_ok h
  obtain ⟨_, _, h⟩ := Fault.bind_ok h
  obtain ⟨_, hwind, _⟩ := Fault.bind_ok h
  -- The wind is the fourth thing that is checked.
  refine ⟨hscreen, ?_⟩
  unfold Config.requireWithin Config.require at hwind
  split at hwind
  · rename_i hwithin
    exact (of_decide_eq_true hwithin).2.1
  · exact nomatch hwind

/-- A battle is put together from what has been checked. -/
theorem assemble_guarded {c : Config} (h : c.validate = .ok ()) {terrain : Raster}
    (room : terrain.Roomy) (k : Keystream) : (assemble c terrain k).Guarded :=
  ⟨room, Quantity.neg_mul_four_le (validate_ok h).2⟩

/-- The settings of a match in the smallest arena. -/
def closeQuarters : Config where
  screenWidth := 41
  screenHeight := 55
  land := .castle
  maxWind := 0
  gravity := 10

end Battle

end Artillery
