import Artillery.Proofs.Battle.Rest
import Artillery.Proofs.Ledger.Table

/-!
# What a fall costs

A landing is told after what it costs.  A short fall costs nothing; a long one costs a parachute, or
energy, which is told as a hit and, if it was the last, as a death.  Whoever has been killed in the
air still lands, and what the fall would have cost is told with the landing, but it is not paid any
more.

## Key results

- `payFall_eq`: the energy that a fall takes, and the events that tell of it
- `land_pays`: what a landing costs and tells
- `Falling.step_landed`: each landing that a frame tells of is that of one actor, which has paid for
  it
- `landings_charged`: the same for a frame of falling in a battle
- `dead_land_free`: a landing whose cost is told but not paid
-/

namespace Artillery

open Event

namespace Actor

/-- The events that tell of the energy a fall takes from an actor: nothing if it takes none, or if
the actor has died before. -/
def fallReport (a : Actor) (damage : Int) : List Event :=
  if 0 < damage ∧ a.alive then
    .actorDamaged a.id damage 0 ::
      if a.energy ≤ damage then [.actorKilled a.id a.id] else []
  else []

/-- What a landing after a fall over some distance makes of an actor: the fall takes a parachute, or
energy from those alive, or nothing. -/
structure Pays (a : Actor) (distance damage : Int) (parachute : Bool) (a' : Actor) : Prop where
  id : a'.id = a.id
  energy : a'.energy = if 0 < damage ∧ a.alive then max 0 (a.energy - damage) else a.energy
  alive : a'.alive = (a.alive && ¬(0 < damage ∧ a.energy ≤ damage))
  short : distance ≤ 10 → damage = 0 ∧ parachute = false ∧ a'.inventory = a.inventory
  long : 10 < distance →
    (0 < a.inventory.parachutes ∧ damage = 0 ∧ parachute = true ∧
      a'.inventory = { a.inventory with parachutes := a.inventory.parachutes - 1 }) ∨
    (a.inventory.parachutes = 0 ∧ damage = distance / 5 ∧ parachute = false ∧
      a'.inventory = a.inventory)

end Actor

/-- Paying for a fall takes the energy that there is, and tells of it. -/
theorem payFall_eq (a : Actor) (damage : Int) :
    a.payFall damage =
      ({ a with
        energy := if 0 < damage ∧ a.alive then max 0 (a.energy - damage) else a.energy
        alive := a.alive && ¬(0 < damage ∧ a.energy ≤ damage) }, a.fallReport damage) := by
  unfold Actor.payFall Actor.fallReport
  by_cases hpays : 0 < damage ∧ a.alive
  · -- The actor pays, with all its energy or with a part of it.
    obtain ⟨hcosts, halive⟩ := hpays
    simp only [hcosts, halive, and_self, true_and, if_true, Bool.true_and]
    by_cases hlast : a.energy ≤ damage
    · rw [if_pos (by omega), if_pos hlast, Int.max_eq_left (by omega)]
      simp [hlast]
    · rw [if_neg (by omega), if_neg hlast, Int.max_eq_right (by omega)]
      simp [hlast, ← halive]
  · have halive : (a.alive && ¬(0 < damage ∧ a.energy ≤ damage)) = a.alive := by
      cases h : a.alive <;> simp_all
    simp only [if_neg hpays, halive]

/-- A landing costs what its event tells, and tells before what the actor pays. -/
theorem land_pays {a a' : Actor} {fall : Fall} {terrain terrain' : Raster} {es : List Event}
    (h : a.land fall terrain = .ok (a', terrain', es)) :
    ∃ distance damage parachute,
      es = a.fallReport damage ++ [.actorLanded a.id distance damage parachute] ∧
        a.Pays distance damage parachute a' := by
  obtain ⟨distance, rested, _, hrested, _, rfl, rfl⟩ := land_eq h
  rw [payFall_eq]
  -- The rest takes at most a parachute; energy is only touched by the payment.
  have hstock : rested.id = a.id ∧ rested.energy = a.energy ∧ rested.alive = a.alive ∧
      rested.inventory = if (a.fallCost distance).2 then
        { a.inventory with parachutes := a.inventory.parachutes - 1 } else a.inventory := by
    rw [hrested]
    split <;> exact ⟨rfl, rfl, rfl, rfl⟩
  obtain ⟨hid, henergy, halive, hinventory⟩ := hstock
  have hreport : rested.fallReport (a.fallCost distance).1 =
      a.fallReport (a.fallCost distance).1 := by
    unfold Actor.fallReport
    rw [hid, henergy, halive]
  refine ⟨distance, (a.fallCost distance).1, (a.fallCost distance).2, ?_, ?_⟩
  · rw [hreport, hid]
  · have hsafe : Fall.safeDistance = 10 := rfl
    constructor
    · exact hid
    · rw [henergy, halive]
    · rw [henergy, halive]
    · intro hshort
      have hfree : a.fallCost distance = (0, false) := if_neg (by omega)
      rw [hfree] at hinventory ⊢
      exact ⟨rfl, rfl, hinventory⟩
    · intro hlong
      by_cases hp : 0 < a.inventory.parachutes
      · have hcost : a.fallCost distance = (0, true) := by
          unfold Actor.fallCost
          rw [if_pos (by omega), if_pos hp]
        rw [hcost] at hinventory ⊢
        exact .inl ⟨hp, rfl, rfl, hinventory⟩
      · have hcost : a.fallCost distance = (distance / 5, false) := by
          unfold Actor.fallCost Fall.damage
          rw [if_pos (by omega), if_neg hp, Quantity.quotient_of_nonneg (by omega)]
        rw [hcost] at hinventory ⊢
        exact .inr ⟨by omega, rfl, rfl, hinventory⟩

/-- What a fall takes is no landing. -/
theorem landed_not_mem_fallReport (a : Actor) (taken distance damage : Int) (id : ActorId)
    (parachute : Bool) : .actorLanded id distance damage parachute ∉ a.fallReport taken := by
  unfold Actor.fallReport
  split
  · split <;> simp
  · exact List.not_mem_nil

/-- An event among what is told by two in turn is told by the first or by the second. -/
theorem split_append {e : Event} {before after es₁ es₂ : List Event}
    (h : before ++ e :: after = es₁ ++ es₂) :
    (∃ own, es₁ = before ++ e :: own ∧ after = own ++ es₂) ∨
      ∃ earlier, before = es₁ ++ earlier ∧ earlier ++ e :: after = es₂ := by
  obtain ⟨x, rfl, hx⟩ | ⟨x, rfl, hx⟩ := List.append_eq_append_iff.1 h
  · cases x with
    | nil => exact .inr ⟨[], by simp, hx⟩
    | cons f x =>
      obtain ⟨rfl, rfl⟩ := List.cons.inj hx
      exact .inl ⟨x, rfl, rfl⟩
  · exact .inr ⟨x, rfl, hx.symm⟩

/-- A landing that is told in the turn of an actor comes last in it, after what the actor pays. -/
theorem fallOn_landed {a a' : Actor} {terrain terrain' : Raster} {before rest : List Event}
    {id : ActorId} {distance damage : Int} {parachute : Bool}
    (h : a.fallOn terrain =
      .ok (a', terrain', before ++ .actorLanded id distance damage parachute :: rest)) :
    a.id = id ∧ before = a.fallReport damage ∧ rest = [] ∧ a.Pays distance damage parachute a' := by
  obtain ⟨_, _, _, hes⟩ | ⟨_, _, _, _, hes⟩ | ⟨fall, _, _, hland⟩ := fallOn_cases h
  · exact absurd hes (by simp)
  · exact absurd hes (by simp)
  · obtain ⟨distance', damage', parachute', hes, hpays⟩ := land_pays hland
    obtain ⟨own, hreport, _⟩ | ⟨earlier, rfl, hlast⟩ := split_append hes
    · -- The landing would be among what the fall takes.
      have hm := landed_not_mem_fallReport a damage' distance damage id parachute
      rw [hreport] at hm
      exact absurd (by simp) hm
    · cases earlier with
      | nil =>
        obtain ⟨hlanded, hrest⟩ := List.cons.inj hlast
        obtain ⟨rfl, rfl, rfl, rfl⟩ := Event.actorLanded.inj hlanded
        exact ⟨rfl, List.append_nil _, hrest, hpays⟩
      | cons e earlier => exact absurd (congrArg List.length hlast) (by simp)

/-- Each landing that a frame tells of is that of one actor.  Directly before it stands what the
actor pays for it, and nothing else is told of that actor. -/
theorem Falling.step_landed {as as' : List Actor} {terrain terrain' : Raster}
    {before after : List Event} {id : ActorId} {distance damage : Int} {parachute : Bool}
    (nodup : (ids as).Nodup)
    (h : Falling.step as terrain =
      .ok (as', terrain', before ++ .actorLanded id distance damage parachute :: after)) :
    ∃ (i : Nat) (a a' : Actor) (earlier : List Event), as[i]? = some a ∧ as'[i]? = some a' ∧
      a.id = id ∧ before = earlier ++ a.fallReport damage ∧ about id earlier = [] ∧
      about id after = [] ∧ a.Pays distance damage parachute a' := by
  -- By induction on the actors; what those before it have told is put in front.
  generalize hes : before ++ .actorLanded id distance damage parachute :: after = es at h
  induction as generalizing terrain as' es before with
  | nil =>
    have hresult := Except.ok.inj h
    simp only [Prod.mk.injEq] at hresult
    rw [← hresult.2.2] at hes
    exact absurd hes (by simp)
  | cons a as ih =>
    obtain ⟨a', rest, terrain₁, es₁, es₂, ha, hrest, rfl, rfl⟩ := step_cons h
    obtain ⟨fresh, nodup⟩ := List.nodup_cons.1 nodup
    have hsubject := (fallOn_tracks ha).1
    -- The landing is told in the turn of the first actor, or in that of a later one.
    obtain ⟨own, rfl, rfl⟩ | ⟨earlier, rfl, htail⟩ := split_append hes
    · obtain ⟨rfl, rfl, rfl, hpays⟩ := fallOn_landed ha
      exact ⟨0, a, a', [], rfl, rfl, rfl, rfl, rfl,
        (step_booked nodup hrest).about_others fresh, hpays⟩
    · obtain ⟨i, c, c', earlier', hc, hc', hid, hbefore, hearlier, hafter, hpays⟩ :=
        ih nodup _ htail hrest
      have hothers : about id es₁ = [] := by
        apply about_eq_nil
        intro e he heq
        -- What the first actor tells is of itself, and nobody else has its number.
        have hsame : a.id = c.id := Option.some.inj ((hsubject e he).symm.trans (hid ▸ heq))
        apply fresh
        show a.id ∈ ids as
        rw [hsame]
        exact List.mem_map_of_mem (List.mem_of_getElem? hc)
      refine ⟨i + 1, c, c', es₁ ++ earlier', hc, hc', hid, ?_, ?_, hafter, hpays⟩
      · rw [hbefore, List.append_assoc]
      · rw [about_append, hothers, hearlier, List.append_nil]

namespace Battle

/-- What landings cost and tell, in a battle whose actors have distinct numbers, whatever has
happened before and whoever has been hit in the air.  Before each landing that a frame tells of, and
directly before it, stands what the actor pays for it: if the landing tells of damage and the actor
is alive, a hit with that damage that no shield has taken, then its death by itself exactly if the
damage takes all its energy, which is not driven below zero.  Otherwise, without damage or after
death, nothing is told of the actor but the landing, and its energy stays.  A fall over at most ten
rows costs nothing, and a longer one a parachute and no damage, or a fifth of its rows and no
parachute. -/
theorem landings_charged {b b' : Battle} {falling : Bool}
    (distinct : (b.arena.actors.map (·.id)).Nodup) (h : b.stepFalling = .ok (falling, b')) :
    ∃ told, b'.arena.events.toList = b.arena.events.toList ++ told ∧
      ∀ before id distance damage parachute after,
        told = before ++ .actorLanded id distance damage parachute :: after →
        ∃ (i : Nat) (a a' : Actor) (earlier : List Event),
          b.arena.actors[i]? = some a ∧ b'.arena.actors[i]? = some a' ∧ a.id = id ∧
          before = earlier ++ a.fallReport damage ∧ about id earlier = [] ∧ about id after = [] ∧
          a.Pays distance damage parachute a' := by
  obtain ⟨_, rfl⟩ | ⟨_, actors, terrain, told, hstep, rfl⟩ := stepFalling_cases h
  · refine ⟨[], (List.append_nil _).symm, fun before id distance damage parachute after htold => ?_⟩
    exact absurd htold (by simp)
  · refine ⟨told, Array.toList_appendList .., ?_⟩
    rintro before id distance damage parachute after rfl
    have hnodup : (ids (Falling.check b.arena.actors b.arena.terrain)).Nodup := by
      rw [(Falling.check_booked ..).ids_eq]
      exact distinct
    obtain ⟨i, c, a', earlier, hc, ha', hid, hbefore, hearlier, hafter, hpays⟩ :=
      Falling.step_landed hnodup hstep
    -- The check before the frame changes nothing that a landing costs.
    rw [Falling.check, List.getElem?_map, Option.map_eq_some_iff] at hc
    obtain ⟨a, ha, rfl⟩ := hc
    obtain ⟨falls, hfalls⟩ := loseGround_eq a b.arena.terrain
    rw [hfalls] at hid hbefore hpays
    exact ⟨i, a, a', earlier, ha, ha', hid, hbefore, hearlier, hafter,
      ⟨hpays.id, hpays.energy, hpays.alive, hpays.short, hpays.long⟩⟩

/-- A tank in the air, twenty rows above the ground, and what is done until the frame of its
landing. -/
def dropped (energy : Int) (cs : List Call) : Except SetupError Battle := do
  let b ← field (List.replicate 41 40) [{ Actor.fresh 0 20 20 with energy := energy }]
  let (_, b) ← (Call.performAll cs b).mapError .fault
  return b

/-- A tank with little energy dies of its fall, and the frame tells of the hit, the death and the
landing. -/
theorem landings_charged_fatal :
    ∃ b b', dropped 3 (List.replicate 9 .stepFalling) = .ok b ∧ b.stepFalling = .ok (false, b') ∧
      b'.arena.events.toList =
        [.actorDamaged 0 4 0, .actorKilled 0 0, .actorLanded 0 20 4 false] ∧
      ∃ (i : Nat) (a a' : Actor), b.arena.actors[i]? = some a ∧ b'.arena.actors[i]? = some a' ∧
        a.fallReport 4 = [.actorDamaged 0 4 0, .actorKilled 0 0] ∧ a.Pays 20 4 false a' := by
  have run : ((dropped 3 (List.replicate 9 .stepFalling)).toOption.any fun b =>
      b.stepFalling.toOption.any fun frame => decide (
        frame.1 = false ∧ (b.arena.actors.map (·.id)).Nodup ∧ b.arena.events.toList = [] ∧
        (∀ a ∈ b.arena.actors, a.alive ∧ a.energy = 3) ∧
        frame.2.arena.events.toList =
          [.actorDamaged 0 4 0, .actorKilled 0 0, .actorLanded 0 20 4 false])) = true := by
    decide +kernel
  obtain ⟨b, hb, run⟩ := Fault.exists_of_any run
  obtain ⟨⟨falling, b'⟩, hstep, run⟩ := Fault.exists_of_any run
  obtain ⟨rfl, distinct, hnothing, hweak, htold⟩ := of_decide_eq_true run
  obtain ⟨told, hevents, hcharged⟩ := landings_charged distinct hstep
  rw [htold, hnothing, List.nil_append] at hevents
  -- The landing is the last of the events, and is charged to the only actor there is.
  obtain ⟨i, a, a', earlier, ha, ha', hid, _, _, _, hpays⟩ :=
    hcharged [.actorDamaged 0 4 0, .actorKilled 0 0] 0 20 4 false [] hevents.symm
  obtain ⟨halive, henergy⟩ := hweak a (List.mem_of_getElem? ha)
  refine ⟨b, b', hb, hstep, htold, i, a, a', ha, ha', ?_, hpays⟩
  simp [Actor.fallReport, hid, halive, henergy]

/-- The shot that kills the tank in the air, one frame after its fall has begun. -/
def shotDown : List Call :=
  [.stepFalling, .strikeActors ⟨20, 22⟩ 150 1 none, .drain] ++ List.replicate 8 .stepFalling

/-- A tank that has been killed in the air lands, and what the fall would have cost is told with the
landing; no hit is told, and no energy is taken. -/
theorem dead_land_free :
    ∃ b b', dropped 100 shotDown = .ok b ∧ (b.arena.actors.map (·.id)).Nodup ∧
      b.arena.events.toList = [] ∧ b.stepFalling = .ok (false, b') ∧
      b'.arena.events.toList = [.actorLanded 0 20 4 false] ∧
      b.arena.actors.map (fun a => (a.alive, a.energy)) = [(false, 0)] ∧
      b'.arena.actors.map (fun a => (a.alive, a.energy)) = [(false, 0)] := by
  have run : ((dropped 100 shotDown).toOption.any fun b =>
      b.stepFalling.toOption.any fun frame => decide (
        frame.1 = false ∧ (b.arena.actors.map (·.id)).Nodup ∧ b.arena.events.toList = [] ∧
        frame.2.arena.events.toList = [.actorLanded 0 20 4 false] ∧
        b.arena.actors.map (fun a => (a.alive, a.energy)) = [(false, 0)] ∧
        frame.2.arena.actors.map (fun a => (a.alive, a.energy)) = [(false, 0)])) = true := by
    decide +kernel
  obtain ⟨b, hb, run⟩ := Fault.exists_of_any run
  obtain ⟨⟨falling, b'⟩, hstep, run⟩ := Fault.exists_of_any run
  obtain ⟨rfl, distinct, hnothing, htold, hbefore, hafter⟩ := of_decide_eq_true run
  exact ⟨b, b', hb, distinct, hnothing, hstep, htold, hbefore, hafter⟩

end Battle

end Artillery
