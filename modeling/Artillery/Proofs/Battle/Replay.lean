import Artillery.Proofs.Arena.Steady
import Artillery.Proofs.Battle.Calls
import Artillery.Proofs.Falling

/-!
# Replays without chance

A battle without chance goes on in the same way whatever its keystream is: every call answers the
same and leaves the same battle behind, and no word of the keystream is ever taken.

## Key results

- `Call.perform_eq`: answers are what calls give back, beside the battle
- `step_reseed`, `tick_reseed`: time passes in the same way for every keystream
- `Call.perform_steady`: a steady call keeps a battle steady
- `Call.answer_reseed`: and it answers the same for every keystream
- `replays_alike`: so do any number of calls, without taking a word from the keystream
-/

namespace Artillery

/-! ## Falls -/

namespace Falling

/-- Whoever begins to fall keeps the shield. -/
theorem check_steady {as : List Actor} (h : ∀ a ∈ as, a.Steady) (terrain : Raster) :
    ∀ a ∈ check as terrain, a.Steady := by
  intro a ha
  obtain ⟨c, hc, rfl⟩ := List.mem_map.1 ha
  apply (h c hc).congr
  left
  unfold Actor.loseGround
  split <;> rfl

/-- A frame of falling changes no shield. -/
theorem step_steady {as as' : List Actor} {terrain terrain' : Raster} {es : List Event}
    (hsteady : ∀ a ∈ as, a.Steady) (h : step as terrain = .ok (as', terrain', es)) :
    ∀ a ∈ as', a.Steady := by
  induction as generalizing as' terrain terrain' es with
  | nil =>
    obtain ⟨rfl, _⟩ := Prod.mk.inj (Except.ok.inj h)
    exact List.forall_mem_nil _
  | cons a as ih =>
    obtain ⟨ha, has⟩ := List.forall_mem_cons.1 hsteady
    -- Landing costs energy or a parachute, and leaves the shield.
    obtain ⟨a', rest, terrain₁, es₁, es₂, hfall, hrest, rfl, _⟩ := step_cons h
    exact List.forall_mem_cons.2 ⟨ha.congr (.inl (fallOn_shield hfall)), ih has hrest⟩

end Falling

namespace Battle

/-! ## Answers -/

/-- What the owner of a battle is given back by a call. -/
inductive Answer where
  | done
  | handle (handle : Option Nat)
  | events (es : List Event)
  | status (status : Option FlightStatus)
  | impact (effect : Option ImpactEffect)
  | flight (effect : Option FlightEffect)
  | report (report : DamageReport)
  | falling (anyone : Bool)

/-- The events that an answer hands over. -/
def Answer.handed : Answer → List Event
  | events es => es
  | _ => []

namespace Call

/-- Carries a call out and keeps its answer. -/
def answer (b : Battle) : Call → Except Fault (Answer × Battle)
  | setArsenal arsenal => .ok (.done, b.setArsenal arsenal)
  | setActors actors => .ok (.done, b.setActors actors)
  | placeActors count => (b.placeActors count).map (.done, ·)
  | addActor a => .ok (.done, b.addActor a)
  | launch owner degrees power weapon =>
    match b.launch? owner degrees power weapon with
    | some (handle, b) => .ok (.handle (some handle), b)
    | none => .ok (.handle none, b)
  | spawn s => .ok (.handle (some (b.spawn s).1), (b.spawn s).2)
  | tick => b.tick.map fun r => (.events r.1, r.2)
  | step => b.step.map (.done, ·)
  | advance handle => (b.advance handle).map fun r => (.status r.1, r.2)
  | strike handle hit => (b.strike handle hit).map fun r => (.impact r.1, r.2)
  | applyImpact handle effect => (b.applyImpact handle effect).map fun r => (.done, r.2)
  | fly handle => (b.fly handle).map fun r => (.flight r.1, r.2)
  | applyFlight handle effect => (b.applyFlight handle effect).map fun r => (.done, r.2)
  | onTerrain op => (op.perform b.arena.terrain).map fun t => (.done, b.changeTerrain fun _ => t)
  | strikeActors center radius attacker carried =>
    .ok (.report (b.strikeActors center radius attacker carried).1,
      (b.strikeActors center radius attacker carried).2)
  | stepFalling => b.stepFalling.map fun r => (.falling r.1, r.2)
  | stepExplosions => .ok (.falling (!b.stepExplosions.arena.explosions.isIdle), b.stepExplosions)
  | changeWind => b.changeWind.map (.done, ·)
  | setWind wind => .ok (.done, b.setWind wind)
  | drain => .ok (.events b.drain.1, b.drain.2)

/-- Carries out calls one after another and keeps their answers. -/
def answerAll : List Call → Battle → Except Fault (List Answer × Battle)
  | [], b => .ok ([], b)
  | c :: cs, b => do
    let (answer, b) ← c.answer b
    let (answers, b) ← answerAll cs b
    return (answer :: answers, b)

/-- Handing events over is forgetting the rest of the answer. -/
private theorem bind_handed {α : Type} (x : Except Fault α) (f : α → Answer × Battle) :
    (x >>= fun r => .ok ((f r).1.handed, (f r).2)) =
      (x.map f).map fun r => (r.1.handed, r.2) := by
  cases x <;> rfl

/-- Beside its answer a call does what it does. -/
theorem perform_eq (c : Call) (b : Battle) :
    c.perform b = (c.answer b).map fun r => (r.1.handed, r.2) := by
  -- All but two of the calls hand on nothing, and only answer.
  cases c with
  | launch owner degrees power weapon =>
    simp only [perform, answer]
    generalize b.launch? owner degrees power weapon = shot
    cases shot <;> rfl
  | tick =>
    show b.tick = (b.tick.map _).map _
    cases b.tick <;> rfl
  | placeActors count => exact bind_handed (b.placeActors count) (.done, ·)
  | step => exact bind_handed b.step (.done, ·)
  | advance handle => exact bind_handed (b.advance handle) fun r => (.status r.1, r.2)
  | strike handle hit => exact bind_handed (b.strike handle hit) fun r => (.impact r.1, r.2)
  | applyImpact handle effect =>
    exact bind_handed (b.applyImpact handle effect) fun r => (.done, r.2)
  | fly handle => exact bind_handed (b.fly handle) fun r => (.flight r.1, r.2)
  | applyFlight handle effect =>
    exact bind_handed (b.applyFlight handle effect) fun r => (.done, r.2)
  | onTerrain op =>
    exact bind_handed (op.perform b.arena.terrain) fun t => (.done, b.changeTerrain fun _ => t)
  | stepFalling => exact bind_handed b.stepFalling fun r => (.falling r.1, r.2)
  | changeWind => exact bind_handed b.changeWind (.done, ·)
  | _ => rfl

/-- Whether a call brings no chance into a battle: no weapon or actor that depends on it, and no
change of the wind. -/
def Steady : Call → Prop
  | setArsenal arsenal => arsenal.Steady
  | setActors actors => ∀ a ∈ actors, a.Steady
  | addActor a => a.Steady
  | changeWind => False
  | _ => True

end Call

/-! ## Another keystream -/

/-- The battle with another keystream. -/
def reseed (b : Battle) (k : Keystream) : Battle := { b with arena := b.arena.reseed k }

/-- A result with another keystream in its battle. -/
def reseeded {α : Type} (k : Keystream) (r : α × Battle) : α × Battle := (r.1, r.2.reseed k)

/-- Nothing in a battle depends on chance. -/
def Steady (b : Battle) : Prop := b.arena.Steady

section Time

variable {b b' : Battle}

/-- Whatever projectiles do to a battle leaves it steady. -/
theorem MovesOn.steady (hm : MovesOn b b') (h : b.Steady) : b'.Steady := by
  obtain ⟨es, arena, hmoves, ha⟩ := hm
  exact (hmoves.steady h).congr (by rw [ha]) (by rw [ha])

/-- A step of flight leaves a battle steady. -/
theorem step_steady (h : b.Steady) (hs : b.step = .ok b') : b'.Steady := by
  obtain ⟨es, arena, hmoves, ha, _⟩ := step_moves hs
  have hredraw : b.redraw.arena.Steady := h.congr rfl rfl
  exact (hmoves.steady hredraw).congr (by rw [ha]) (by rw [ha])

/-- Neither a fall nor a landing gives anybody a shield. -/
theorem stepFalling_steady {falling : Bool} (h : b.Steady)
    (hs : b.stepFalling = .ok (falling, b')) : b'.Steady := by
  obtain ⟨_, rfl⟩ | ⟨_, actors, terrain, events, hfall, rfl⟩ := stepFalling_cases hs
  · exact h
  · exact ⟨h.arsenal, Falling.step_steady (Falling.check_steady h.actors _) hfall⟩

variable (h : b.Steady) (k : Keystream)
include h

/-- All steps of projectiles are the same for every keystream. -/
theorem stepEach_reseed (hs : List Nat) :
    stepEach hs (b.reseed k) = (stepEach hs b).map (·.reseed k) := by
  induction hs generalizing b with
  | nil => rfl
  | cons handle hs ih =>
    unfold stepEach
    rw [show (b.reseed k).roster = b.roster from rfl]
    cases b.roster.take? handle with
    | none => exact ih h
    | some e =>
      obtain ⟨p, roster⟩ := e
      show ((b.arena.reseed k).stepProjectile p >>= _) = (b.arena.stepProjectile p >>= _).map _
      rw [Arena.stepProjectile_reseed h k]
      -- A step of a steady arena leaves it steady, so that the others can be stepped alike.
      cases hp : b.arena.stepProjectile p with
      | error f => rfl
      | ok r =>
        obtain ⟨es, hmoves⟩ := Arena.stepProjectile_moves hp
        exact ih (b := { b with arena := r.2, roster := roster.put handle r.1 }) (hmoves.steady h)

/-- So is a step of flight. -/
theorem step_reseed : (b.reseed k).step = b.step.map (·.reseed k) := by
  have hredraw : b.redraw.Steady := h.congr rfl rfl
  show (stepEach b.redraw.roster.handles (b.redraw.reseed k) >>= _) =
    (stepEach b.redraw.roster.handles b.redraw >>= _).map _
  rw [stepEach_reseed hredraw k]
  cases stepEach b.redraw.roster.handles b.redraw <;> rfl

/-- So is any number of them. -/
theorem stepWhileFlying_reseed (n : Nat) :
    stepWhileFlying n (b.reseed k) = (stepWhileFlying n b).map (·.reseed k) := by
  induction n generalizing b with
  | zero => rfl
  | succ n ih =>
    unfold stepWhileFlying
    -- Whether something flies is no matter of the keystream.
    show (if b.roster.anyActive = true then _ else _) = _
    split
    · rw [step_reseed h k]
      cases hs : b.step with
      | error f => rfl
      | ok b₁ => exact ih (step_steady h hs)
    · rfl

omit h in
/-- A frame of falling does not look at the keystream. -/
theorem stepFalling_reseed (b : Battle) (k : Keystream) :
    (b.reseed k).stepFalling = b.stepFalling.map (reseeded k) := by
  unfold stepFalling
  show (if Falling.anyFalling (Falling.check b.arena.actors b.arena.terrain) = true
    then _ else _) = _
  dsimp only
  split
  · show (Falling.step (Falling.check b.arena.actors b.arena.terrain) b.arena.terrain >>= _) = _
    cases Falling.step (Falling.check b.arena.actors b.arena.terrain) b.arena.terrain <;> rfl
  · rfl

/-- So a whole frame is the same for every keystream. -/
theorem tick_reseed : (b.reseed k).tick = b.tick.map (reseeded k) := by
  show (stepWhileFlying b.arena.config.stepsPerFrame (b.reseed k) >>= _) =
    (stepWhileFlying b.arena.config.stepsPerFrame b >>= _).map _
  rw [stepWhileFlying_reseed h k]
  cases stepWhileFlying b.arena.config.stepsPerFrame b with
  | error f => rfl
  | ok flown =>
    -- Whether anybody falls is no matter of the keystream.
    have hfall (c : Battle) : (do
          let fallen ← if c.arena.config.fallingActors ∧ ¬c.roster.anyActive then
              (·.2) <$> (c.reseed k).stepFalling
            else pure (c.reseed k)
          return { fallen with clock := fallen.clock.tickFrame }.drain) =
        (do
          let fallen ← if c.arena.config.fallingActors ∧ ¬c.roster.anyActive then
              (·.2) <$> c.stepFalling
            else pure c
          return { fallen with clock := fallen.clock.tickFrame }.drain : Except Fault _).map
            (reseeded k) := by
      split
      · rw [stepFalling_reseed]
        cases c.stepFalling <;> rfl
      · rfl
    exact hfall flown.stepExplosions

end Time

/-! ## Single projectiles -/

section Single

variable {b : Battle} (k : Keystream) (handle : Nat)

/-- What a projectile does is done again with another keystream, if its act is. -/
theorem withProjectile_reseed {α : Type}
    {act : Projectile → Arena → Except Fault (α × Projectile × Arena)}
    (hact : ∀ p, act p (b.arena.reseed k) =
      (act p b.arena).map fun r => (r.1, r.2.1, r.2.2.reseed k)) :
    (b.reseed k).withProjectile handle act =
      (b.withProjectile handle act).map (reseeded k) := by
  unfold withProjectile
  rw [show (b.reseed k).roster = b.roster from rfl]
  cases b.roster.take? handle with
  | none => rfl
  | some e =>
    -- The row is the same for both, and so is what is found in it.
    obtain ⟨p, roster⟩ := e
    show (act p (b.arena.reseed k) >>= _) = (act p b.arena >>= _).map _
    rw [hact p]
    cases act p b.arena <;> rfl

/-- A single flight does not look at the keystream. -/
theorem advance_reseed (b : Battle) :
    (b.reseed k).advance handle = (b.advance handle).map (reseeded k) := by
  unfold advance
  rw [show (b.reseed k).roster = b.roster from rfl]
  cases b.roster.find? handle with
  | none => rfl
  | some p =>
    show (p.advance b.arena.terrain b.arena.config b.arena.wind >>= _) =
      (p.advance b.arena.terrain b.arena.config b.arena.wind >>= _).map _
    cases p.advance b.arena.terrain b.arena.config b.arena.wind <;> rfl

/-- Nor does what a behavior does in flight. -/
theorem fly_reseed (b : Battle) :
    (b.reseed k).fly handle = (b.fly handle).map (reseeded k) := by
  apply withProjectile_reseed
  intro p
  show (p.fly b.arena.surroundings >>= _) = (p.fly b.arena.surroundings >>= _).map _
  cases p.fly b.arena.surroundings <;> rfl

variable (h : b.Steady)
include h

/-- A strike asks the behavior, which draws nothing in a steady arsenal. -/
theorem strike_reseed (hit : Hit) :
    (b.reseed k).strike handle hit = (b.strike handle hit).map (reseeded k) := by
  apply withProjectile_reseed
  intro p
  obtain ⟨⟨effect, q⟩, hr⟩ := p.strike_steady hit (s := b.arena.surroundings) h.arsenal
  rw [show (b.arena.reseed k).surroundings = b.arena.surroundings from rfl, hr]
  rfl

/-- Carrying out its effect is the same for every keystream. -/
theorem applyImpact_reseed (effect : ImpactEffect) :
    (b.reseed k).applyImpact handle effect = (b.applyImpact handle effect).map (reseeded k) := by
  apply withProjectile_reseed
  intro p
  rw [Arena.applyImpact_reseed h k]
  rfl

/-- So is carrying out an effect in flight. -/
theorem applyFlight_reseed (effect : FlightEffect) :
    (b.reseed k).applyFlight handle effect = (b.applyFlight handle effect).map (reseeded k) := by
  apply withProjectile_reseed
  intro p
  rw [Arena.applyFlight_reseed h k]
  rfl

end Single

/-! ## Calls -/

section Calls

variable {b b' : Battle}

/-- A shot uses up items, never a shield. -/
theorem launch?_steady {owner : ActorId} {degrees power : Float} {weapon : WeaponId} {handle : Nat}
    (h : b.Steady) (hl : b.launch? owner degrees power weapon = some (handle, b')) : b'.Steady := by
  simp only [launch?, Option.bind_eq_bind, Option.bind_eq_some_iff] at hl
  obtain ⟨i, _, shooter, hs, behavior, _, hl⟩ := hl
  obtain ⟨_, rfl⟩ := Prod.mk.inj (Option.some.inj hl)
  refine ⟨h.arsenal, fun a ha => ?_⟩
  obtain ha | rfl := List.mem_or_eq_of_mem_set ha
  · exact h.actors a ha
  · exact (h.actors shooter (List.mem_of_getElem? hs)).congr (.inl rfl)

/-- A launch draws nothing. -/
theorem launch?_reseed (b : Battle) (k : Keystream) (owner : ActorId) (degrees power : Float)
    (weapon : WeaponId) :
    (b.reseed k).launch? owner degrees power weapon =
      (b.launch? owner degrees power weapon).map (reseeded k) := by
  simp only [launch?, Option.bind_eq_bind, Option.map_bind, Function.comp_def]
  rfl

/-- Placed actors have no shields. -/
theorem placeEach_steady {count : Nat} {is : List Nat} {terrain terrain' : Raster}
    {actors : List Actor} (h : Placement.placeEach count is terrain = .ok (actors, terrain')) :
    ∀ a ∈ actors, a.Steady := by
  induction is generalizing actors terrain terrain' with
  | nil =>
    obtain ⟨rfl, _⟩ := Prod.mk.inj (Except.ok.inj h)
    exact List.forall_mem_nil _
  | cons i is ih =>
    -- A placed actor is a fresh one, whatever the ground is like.
    obtain ⟨x, _, h⟩ := Fault.bind_ok h
    obtain ⟨levelled, _, h⟩ := Fault.bind_ok h
    obtain ⟨⟨others, terrain₂⟩, hothers, h⟩ := Fault.bind_ok h
    obtain ⟨rfl, _⟩ := Prod.mk.inj (Except.ok.inj h)
    refine List.forall_mem_cons.2 ⟨?_, ih hothers⟩
    show ShieldKind.none ≠ .flicker ∧ ShieldKind.none ≠ .force ∧ ShieldKind.none ≠ .heavy
    decide

/-- So a battle is steady with its actors placed. -/
theorem placeActors_steady {count : Nat} (h : b.Steady) (hp : b.placeActors count = .ok b') :
    b'.Steady := by
  obtain ⟨⟨actors, terrain⟩, hplaced, hp⟩ := Fault.bind_ok hp
  obtain rfl := Except.ok.inj hp
  exact ⟨h.arsenal, placeEach_steady hplaced⟩

/-- A steady call keeps a battle steady. -/
theorem Call.perform_steady {c : Call} {es : List Event} (h : b.Steady) (hc : c.Steady)
    (hp : c.perform b = .ok (es, b')) : b'.Steady := by
  -- The calls that bring in a table or actors are steady by what they bring.
  cases c with
  | setArsenal arsenal =>
    obtain ⟨_, rfl⟩ := Prod.mk.inj (Except.ok.inj hp)
    exact ⟨hc, h.actors⟩
  | setActors actors =>
    obtain ⟨_, rfl⟩ := Prod.mk.inj (Except.ok.inj hp)
    exact ⟨h.arsenal, hc⟩
  | addActor a =>
    obtain ⟨_, rfl⟩ := Prod.mk.inj (Except.ok.inj hp)
    refine ⟨h.arsenal, fun x hx => ?_⟩
    obtain hx | hx := List.mem_append.1 hx
    · exact h.actors x hx
    · exact List.mem_singleton.1 hx ▸ hc
  | spawn | stepExplosions | setWind | drain =>
    obtain ⟨_, rfl⟩ := Prod.mk.inj (Except.ok.inj hp)
    exact h.congr rfl rfl
  | strikeActors center radius attacker carried =>
    obtain ⟨_, rfl⟩ := Prod.mk.inj (Except.ok.inj hp)
    exact Arena.strikeActors_steady h _ carried
  | launch owner degrees power weapon =>
    simp only [perform] at hp
    split at hp <;> obtain ⟨rfl, rfl⟩ := Prod.mk.inj (Except.ok.inj hp)
    · rename_i hl
      exact launch?_steady h hl
    · exact h
  | tick =>
    obtain ⟨c, hc, _, rfl⟩ :=
      tick_keeps step_steady (fun hc => hc.congr rfl rfl) stepFalling_steady h hp
    exact hc.congr rfl rfl
  | placeActors count =>
    obtain ⟨r, hr, hp⟩ := Fault.bind_ok hp
    obtain ⟨_, rfl⟩ := Prod.mk.inj (Except.ok.inj hp)
    exact placeActors_steady h hr
  | step =>
    obtain ⟨r, hr, hp⟩ := Fault.bind_ok hp
    obtain ⟨_, rfl⟩ := Prod.mk.inj (Except.ok.inj hp)
    exact step_steady h hr
  | advance handle =>
    obtain ⟨r, hr, hp⟩ := Fault.bind_ok hp
    obtain ⟨_, rfl⟩ := Prod.mk.inj (Except.ok.inj hp)
    have harena := advance_arena hr
    exact h.congr (by rw [harena]) (by rw [harena])
  | strike | applyImpact | fly | applyFlight =>
    exact (perform_movesOn hp trivial).2.steady h
  | onTerrain op =>
    obtain ⟨terrain, _, hp⟩ := Fault.bind_ok hp
    obtain ⟨_, rfl⟩ := Prod.mk.inj (Except.ok.inj hp)
    exact h.congr rfl rfl
  | stepFalling =>
    obtain ⟨r, hr, hp⟩ := Fault.bind_ok hp
    obtain ⟨_, rfl⟩ := Prod.mk.inj (Except.ok.inj hp)
    exact stepFalling_steady h hr
  | changeWind => exact hc.elim

/-- An answer with another keystream in the battle is the answer with the battle reseeded. -/
private theorem map_reseeded {α β : Type} (x : Except Fault (α × Battle)) (k : Keystream)
    (f : α → β) :
    (x.map (reseeded k)).map (fun r => (f r.1, r.2)) =
      (x.map fun r => (f r.1, r.2)).map (reseeded k) := by
  cases x <;> rfl

/-- A steady call answers the same with another keystream. -/
theorem Call.answer_reseed {c : Call} (h : b.Steady) (hc : c.Steady) (k : Keystream) :
    c.answer (b.reseed k) = (c.answer b).map (reseeded k) := by
  -- Each call is taken apart as far as the function that it calls, which answers alike.
  cases c with
  | setArsenal | setActors | addActor | spawn | stepExplosions | setWind | drain => rfl
  | placeActors count =>
    show ((Placement.place b.arena.terrain count >>= _).map _) =
      ((Placement.place b.arena.terrain count >>= _).map _).map _
    cases Placement.place b.arena.terrain count <;> rfl
  | launch owner degrees power weapon =>
    simp only [answer]
    rw [launch?_reseed]
    cases b.launch? owner degrees power weapon <;> rfl
  | tick =>
    simp only [answer]
    rw [tick_reseed h k, map_reseeded]
  | step =>
    simp only [answer]
    rw [step_reseed h k]
    cases b.step <;> rfl
  | advance handle =>
    simp only [answer]
    rw [advance_reseed, map_reseeded]
  | strike handle hit =>
    simp only [answer]
    rw [strike_reseed k handle h, map_reseeded]
  | applyImpact handle effect =>
    simp only [answer]
    rw [applyImpact_reseed k handle h]
    cases b.applyImpact handle effect <;> rfl
  | fly handle =>
    simp only [answer]
    rw [fly_reseed, map_reseeded]
  | applyFlight handle effect =>
    simp only [answer]
    rw [applyFlight_reseed k handle h]
    cases b.applyFlight handle effect <;> rfl
  | onTerrain op =>
    show (op.perform b.arena.terrain).map _ = ((op.perform b.arena.terrain).map _).map _
    cases op.perform b.arena.terrain <;> rfl
  | strikeActors center radius attacker carried =>
    have hstruck := Arena.strikeActors_reseed h k (b.arena.shock center radius attacker) carried
    exact congrArg (fun r : DamageReport × Arena =>
      (.ok (.report r.1, { b with arena := r.2 }) : Except Fault (Answer × Battle))) hstruck
  | stepFalling =>
    simp only [answer]
    rw [stepFalling_reseed, map_reseeded]
  | changeWind => exact hc.elim

/-- Steady calls answer the same with another keystream, however many there are. -/
theorem Call.answerAll_reseed {cs : List Call} (h : b.Steady) (hcs : ∀ c ∈ cs, c.Steady)
    (k : Keystream) : answerAll cs (b.reseed k) = (answerAll cs b).map (reseeded k) := by
  induction cs generalizing b with
  | nil => rfl
  | cons c cs ih =>
    obtain ⟨hc, hcs⟩ := List.forall_mem_cons.1 hcs
    show (c.answer (b.reseed k) >>= _) = (c.answer b >>= _).map _
    rw [answer_reseed h hc k]
    cases ha : c.answer b with
    | error f => rfl
    | ok r =>
      -- The battle after the first call is steady, so that the others answer the same in it.
      obtain ⟨answer, b₁⟩ := r
      have hp : c.perform b = .ok (answer.handed, b₁) := by rw [perform_eq, ha]; rfl
      show (answerAll cs (b₁.reseed k) >>= _) = (answerAll cs b₁ >>= _).map _
      rw [ih (perform_steady h hc hp) hcs]
      cases answerAll cs b₁ <;> rfl

/-- What happens in a steady battle is no matter of chance.  With another keystream every call
answers the same and leaves the same battle but for the keystream; and the keystream stands where it
stood. -/
theorem replays_alike {cs : List Call} (h : b.Steady) (hcs : ∀ c ∈ cs, c.Steady) :
    (∀ k, Call.answerAll cs (b.reseed k) =
      (Call.answerAll cs b).map fun r => (r.1, r.2.reseed k)) ∧
    ∀ answers b', Call.answerAll cs b = .ok (answers, b') →
      b'.arena.keystream = b.arena.keystream := by
  refine ⟨Call.answerAll_reseed h hcs, fun answers b' hb => ?_⟩
  -- Replayed with its own keystream, the battle has to end with that keystream in place.
  have hown := Call.answerAll_reseed h hcs b.arena.keystream
  rw [show b.reseed b.arena.keystream = b from rfl, hb] at hown
  have hsame : b' = b'.reseed b.arena.keystream := congrArg Prod.snd (Except.ok.inj hown)
  rw [hsame]
  rfl

end Calls

/-- A hill, and the classic catalogue without what throws things about. -/
def yard : Battle :=
  (assemble {} ((Raster.blank 16 24).fillDisc 8 20 3) (.ofSeed 0)).setArsenal
    ⟨Arsenal.standard.weapons.filter (·.Steady)⟩

/-- A shell in the hill goes off, and a tank falls into its crater. -/
def undermining : List Call := [
  .spawn {
    position := ⟨8, 19⟩, velocity := ⟨0, 0⟩, weapon := 0, owner := 0, warhead := .weapon
    maneuver := .none },
  .step, .step, .step, .step, .addActor (.fresh 0 8 10), .tick, .tick, .tick, .tick, .tick, .tick,
  .tick]

/-- The explosion and the landing happen with every keystream alike. -/
theorem replays_alike_undermining :
    yard.Steady ∧ (∀ c ∈ undermining, c.Steady) ∧ ∃ answers b',
      Call.answerAll undermining yard = .ok (answers, b') ∧
      (∀ k, Call.answerAll undermining (yard.reseed k) = .ok (answers, b'.reseed k)) ∧
      b'.arena.keystream = .ofSeed 0 ∧ (answers.flatMap Answer.handed).length = 4 := by
  have hyard : yard.Steady := ⟨by decide +kernel, List.forall_mem_nil _⟩
  have hcalls : ∀ c ∈ undermining, c.Steady := by
    simp [undermining, Call.Steady, Actor.Steady, Actor.fresh]
  have run : ((Call.answerAll undermining yard).toOption.any fun r =>
      decide ((r.1.flatMap Answer.handed).length = 4)) = true := by decide +kernel
  obtain ⟨⟨answers, b'⟩, hb, run⟩ := Fault.exists_of_any run
  -- The answers have been computed for one keystream, and are the same for every other.
  obtain ⟨halike, hstill⟩ := replays_alike hyard hcalls
  refine ⟨hyard, hcalls, answers, b', hb, fun k => ?_, hstill _ _ hb, of_decide_eq_true run⟩
  rw [halike, hb]
  rfl

end Battle

end Artillery
