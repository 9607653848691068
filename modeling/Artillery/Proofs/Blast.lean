import Artillery.Proofs.Ledger.Tracks

/-!
# Whom a blast reaches

A blast goes through the table of actors and carries a velocity and a source of randomness along.
Both are handed on untouched past the actors that it does not reach, so that those could as well not
be there.  What it does to the others is told hit by hit, in the order of the table.

## Key results

- `involves_iff`: whom a blast reaches
- `strike_cons_spared`, `strike_cons_missed`, `strike_cons_hit`: a blast, actor by actor
- `strike_reached`: a blast over a table and one over the actors that it reaches
- `hit_costs`: how a hit is shared out between the shield and the actor
- `strike_outcomes`: what is told of the actors that a blast reaches
- `strike_involves`: a blast only involves the actors that it reaches
-/

namespace Artillery

/-- An actor is who it was, stands or falls where it did, and has what it had. -/
structure Actor.SameTank (a a' : Actor) : Prop where
  id : a'.id = a.id
  x : a'.x = a.x
  y : a'.y = a.y
  inventory : a'.inventory = a.inventory
  falling : a'.falling = a.falling

theorem Actor.SameTank.refl (a : Actor) : a.SameTank a := ⟨rfl, rfl, rfl, rfl, rfl⟩

/-- A raw damage is shared out between the shield of an actor and its energy, and the actor dies
when no energy is left. -/
structure ActorHit.Costs (h : ActorHit) (raw : Int) (a a' : Actor) : Prop where
  actor : h.actor = a.id
  shared : h.damage + h.absorbed = raw
  shield : a'.shieldEnergy = a.shieldEnergy - h.absorbed
  energy : a'.energy = max 0 (a.energy - h.damage)
  alive : a'.alive = true ↔ 0 < a'.energy

/-! ## Single hits -/

/-- What a shield absorbs and what it lets through make up the damage. -/
theorem absorb_shares (a : Actor) (raw : Int) (k : Keystream) :
    ∃ damage absorbed depleted shield, damage + absorbed = raw ∧
      ((a.absorb raw).run k).1 =
        ({ a with shieldEnergy := a.shieldEnergy - absorbed, shield := shield },
          damage, absorbed, depleted) := by
  obtain hc | ⟨_, _, hc⟩ := absorb_cases a raw k
  · exact ⟨raw, 0, false, a.shield, Int.add_zero raw, by rw [hc, Int.sub_zero]⟩
  · rw [hc]
    unfold Actor.drainShield
    split
    · exact ⟨0, raw, false, a.shield, Int.zero_add raw, rfl⟩
    · exact ⟨raw - a.shieldEnergy, a.shieldEnergy, true, .none, Int.sub_add_cancel _ _,
        by rw [Int.sub_self]⟩

/-- A living actor that is hurt loses energy down to nothing, and dies with the last of it. -/
theorem hurt_spec {a : Actor} (alive : a.alive = true) (damage : Int) :
    (a.hurt damage).energy = max 0 (a.energy - damage) ∧
      ((a.hurt damage).alive = true ↔ 0 < (a.hurt damage).energy) ∧
      (a.hurt damage).shieldEnergy = a.shieldEnergy ∧ a.SameTank (a.hurt damage) := by
  unfold Actor.hurt
  -- An actor that has no more left is given no energy and dies.
  split
  · refine ⟨?_, iff_of_false Bool.false_ne_true (Int.lt_irrefl 0), rfl, rfl, rfl, rfl, rfl, rfl⟩
    show (0 : Int) = _
    omega
  · rename_i hleft
    have hpos : 0 < a.energy - damage := Int.not_le.1 hleft
    refine ⟨?_, iff_of_true alive hpos, rfl, rfl, rfl, rfl, rfl, rfl⟩
    show a.energy - damage = _
    omega

/-- A hit on a living actor costs it what it says, and leaves it where it is. -/
theorem hit_costs {a : Actor} (alive : a.alive = true) (raw : Int) (k : Keystream) :
    ((Shock.hit a raw).run k).1.2.Costs raw a ((Shock.hit a raw).run k).1.1 ∧
      a.SameTank ((Shock.hit a raw).run k).1.1 := by
  obtain ⟨damage, absorbed, depleted, shield, hshared, habsorb⟩ := absorb_shares a raw k
  have hhit : ((Shock.hit a raw).run k).1 =
      (((a.absorb raw).run k).1.1.hurt ((a.absorb raw).run k).1.2.1,
        ⟨((a.absorb raw).run k).1.1.id, ((a.absorb raw).run k).1.2.1,
          ((a.absorb raw).run k).1.2.2.1, ((a.absorb raw).run k).1.2.2.2⟩) := rfl
  rw [hhit, habsorb]
  obtain ⟨henergy, halive, hshield, hsame⟩ := hurt_spec
    (a := { a with shieldEnergy := a.shieldEnergy - absorbed, shield := shield }) alive damage
  exact ⟨⟨rfl, hshared, hshield, henergy, halive⟩, hsame.id, hsame.x, hsame.y, hsame.inventory,
    hsame.falling⟩

namespace Shock

/-- A blast reaches the living actors that are not farther from its center than ten beyond its radius,
and the attacker only where it can be hurt.  A distance that is not a number is not farther. -/
theorem involves_iff (s : Shock) (a : Actor) :
    s.involves a = true ↔ a.alive = true ∧ (s.selfDamage = true ∨ a.id ≠ s.attacker) ∧
      ¬Quantity.ofInt s.radius + 10 <
        (⟨Quantity.ofInt a.x - s.center.x, s.center.y - Quantity.ofInt a.y⟩ : Vec2).length := by
  unfold involves
  exact decide_eq_true_iff

section Passes

variable (s : Shock) {a : Actor} (as : List Actor) (carried : Option Vec2) (k : Keystream)

/-! ## Actor by actor -/

/-- A blast goes past whom it does not reach. -/
theorem strike_cons_spared (h : s.involves a = false) :
    (s.strike (a :: as) carried).run k =
      ((a :: ((s.strike as carried).run k).1.1, ((s.strike as carried).run k).1.2),
        ((s.strike as carried).run k).2) := by
  rw [strike, if_neg (Bool.eq_false_iff.1 h)]
  rfl

/-- Where it does no damage, it loses momentum all the same. -/
theorem strike_cons_missed (h : s.involves a = true) (hraw : (s.rawDamage carried a).1 ≤ 0) :
    (s.strike (a :: as) carried).run k =
      ((a :: ((s.strike as (s.rawDamage carried a).2).run k).1.1,
          ((s.strike as (s.rawDamage carried a).2).run k).1.2),
        ((s.strike as (s.rawDamage carried a).2).run k).2) := by
  rw [strike, if_pos h]
  dsimp only
  rw [if_neg (Int.not_lt.2 hraw)]
  rfl

/-- A hit is noted before the later ones. -/
theorem strike_cons_hit (h : s.involves a = true) (hraw : 0 < (s.rawDamage carried a).1) :
    let struck := (hit a (s.rawDamage carried a).1).run k
    let rest := (s.strike as (s.rawDamage carried a).2).run struck.2
    (s.strike (a :: as) carried).run k =
      ((struck.1.1 :: rest.1.1, noted struck.1.2 struck.1.1 rest.1.2), rest.2) := by
  rw [strike, if_pos h]
  dsimp only
  rw [if_pos hraw]
  rfl

/-- What a blast does to an actor that it reaches does not depend on the actors after it. -/
theorem strike_cons_reached (h : s.involves a = true) :
    ∃ (a' : Actor) (note : DamageReport → DamageReport) (carried' : Option Vec2) (k' : Keystream),
      ∀ as, (s.strike (a :: as) carried).run k =
        ((a' :: ((s.strike as carried').run k').1.1, note ((s.strike as carried').run k').1.2),
          ((s.strike as carried').run k').2) := by
  by_cases hraw : 0 < (s.rawDamage carried a).1
  · exact ⟨_, _, _, _, fun as => s.strike_cons_hit as carried k h hraw⟩
  · exact ⟨_, id, _, _, fun as => s.strike_cons_missed as carried k h (Int.not_lt.1 hraw)⟩

/-! ## The actors that are reached -/

/-- A blast over a table does to the actors that it reaches what it does to them alone, and nothing
to the others. -/
theorem strike_reached :
    let whole := (s.strike as carried).run k
    let alone := (s.strike (as.filter s.involves) carried).run k
    whole.1.2 = alone.1.2 ∧ whole.2 = alone.2 ∧ whole.1.1.length = as.length ∧
      (as.zip whole.1.1).filter (fun e => s.involves e.1) =
        (as.filter s.involves).zip alone.1.1 ∧
      ∀ e ∈ as.zip whole.1.1, s.involves e.1 = false → e.2 = e.1 := by
  induction as generalizing carried k with
  | nil => exact ⟨rfl, rfl, rfl, rfl, List.forall_mem_nil _⟩
  | cons a as ih =>
    dsimp only at ih ⊢
    cases hin : s.involves a with
    | false =>
      -- The filter drops the actor, and the blast goes past it with all that it carries.
      have hnot : ¬s.involves a = true := Bool.eq_false_iff.1 hin
      obtain ⟨hreport, hstream, hlength, hmembers, hothers⟩ := ih carried k
      rw [s.strike_cons_spared as carried k hin, List.filter_cons, if_neg hnot]
      dsimp only
      refine ⟨hreport, hstream, congrArg (· + 1) hlength, ?_,
        List.forall_mem_cons.2 ⟨fun _ => rfl, hothers⟩⟩
      rw [List.zip_cons_cons, List.filter_cons, if_neg hnot]
      exact hmembers
    | true =>
      obtain ⟨a', note, carried', k', hcons⟩ := s.strike_cons_reached carried k hin
      obtain ⟨hreport, hstream, hlength, hmembers, hothers⟩ := ih carried' k'
      rw [List.filter_cons, if_pos hin, hcons, hcons]
      dsimp only
      refine ⟨congrArg note hreport, hstream, congrArg (· + 1) hlength, ?_,
        List.forall_mem_cons.2 ⟨fun hout => ?_, hothers⟩⟩
      · rw [List.zip_cons_cons, List.filter_cons, if_pos hin]
        exact congrArg _ hmembers
      · rw [hin] at hout
        exact nomatch hout

/-- An actor that a blast reaches: before it, after it, and the hit that is told of. -/
structure Outcome where
  before : Actor
  after : Actor
  hit? : Option ActorHit

/-- The velocity that is carried on past some actors. -/
def carriedPast (carried : Option Vec2) (as : List Actor) : Option Vec2 :=
  as.foldl (fun v a => (s.rawDamage v a).2) carried

/-- How a blast with some velocity comes out for an actor.  A positive raw damage is a hit that
costs it; without one nothing is told and nothing has changed. -/
structure ComesOut (carried : Option Vec2) (o : Outcome) : Prop where
  same : o.before.SameTank o.after
  hit : ∀ h, o.hit? = some h → 0 < (s.rawDamage carried o.before).1 ∧
    h.Costs (s.rawDamage carried o.before).1 o.before o.after
  spared : o.hit? = none → (s.rawDamage carried o.before).1 ≤ 0 ∧ o.after = o.before

/-- Whether a hit was the last for an actor. -/
def Outcome.Fatal (o : Outcome) : Prop := o.hit?.isSome = true ∧ o.after.energy = 0

instance (o : Outcome) : Decidable o.Fatal := inferInstanceAs (Decidable (_ ∧ _))

/-- The first one comes out with the velocity of the blast, and the others with what it leaves. -/
theorem comesOut_cons {o : Outcome} {os : List Outcome} (hfirst : s.ComesOut carried o)
    (hrest : ∀ earlier o' later, os = earlier ++ o' :: later →
      s.ComesOut (s.carriedPast (s.rawDamage carried o.before).2 (earlier.map Outcome.before)) o') :
    ∀ earlier o' later, o :: os = earlier ++ o' :: later →
      s.ComesOut (s.carriedPast carried (earlier.map Outcome.before)) o' := by
  intro earlier o' later h
  cases earlier with
  | nil =>
    obtain ⟨rfl, _⟩ := List.cons.inj h
    exact hfirst
  | cons e earlier =>
    obtain ⟨rfl, htail⟩ := List.cons.inj h
    exact hrest earlier o' later htail

/-- Who dies of a hit is who has no energy left after it. -/
theorem dies_iff {h : ActorHit} {raw : Int} {a a' : Actor} (hcosts : h.Costs raw a a') :
    a'.alive = false ↔ Outcome.Fatal ⟨a, a', some h⟩ := by
  have henergy : a'.energy = max 0 (a.energy - h.damage) := hcosts.energy
  have halive : a'.alive = true ↔ 0 < a'.energy := hcosts.alive
  rw [Bool.eq_false_iff, ne_eq, halive]
  unfold Outcome.Fatal
  simp only [Option.isSome_some, true_and]
  omega

/-- Where a blast reaches everyone, each comes out by itself, with the velocity that the ones before
leave to it, and the report tells of the hits and of the deaths among them. -/
theorem strike_outcomes (hall : ∀ a ∈ as, s.involves a = true) :
    ∃ os : List Outcome, os.map Outcome.before = as ∧
      os.map Outcome.after = ((s.strike as carried).run k).1.1 ∧
      ((s.strike as carried).run k).1.2.hits = os.filterMap Outcome.hit? ∧
      ((s.strike as carried).run k).1.2.deaths =
        (os.filter (·.Fatal)).map (fun o => o.before.id) ∧
      (∀ o ∈ os, o.after.alive = false ↔ o.Fatal) ∧
      ∀ earlier o later, os = earlier ++ o :: later →
        s.ComesOut (s.carriedPast carried (earlier.map Outcome.before)) o := by
  induction as generalizing carried k with
  | nil =>
    refine ⟨[], rfl, rfl, rfl, rfl, List.forall_mem_nil _, fun earlier o later h => ?_⟩
    exact absurd h (by simp)
  | cons a as ih =>
    obtain ⟨hin, hall⟩ := List.forall_mem_cons.1 hall
    have alive : a.alive = true := (of_decide_eq_true hin).1
    -- An actor that is reached may still be out of harm, when the distance leaves nothing of the
    -- blast.
    by_cases hraw : 0 < (s.rawDamage carried a).1
    · obtain ⟨hcosts, hsame⟩ := hit_costs alive (s.rawDamage carried a).1 k
      have hcons := s.strike_cons_hit as carried k hin hraw
      dsimp only at hcons
      generalize (hit a (s.rawDamage carried a).1).run k = struck at hcosts hsame hcons
      obtain ⟨⟨a', h⟩, k'⟩ := struck
      obtain ⟨os, hbefore, hafter, hhits, hdeaths, hdead, hout⟩ :=
        ih (s.rawDamage carried a).2 k' hall
      -- The deaths are told in the order of the table, of those that were hit to death.
      have hfatal : a'.alive = false ↔ Outcome.Fatal ⟨a, a', some h⟩ := dies_iff hcosts
      rw [hcons]
      refine ⟨⟨a, a', some h⟩ :: os, ?_, ?_, ?_, ?_, ?_, ?_⟩
      · rw [List.map_cons, hbefore]
      · rw [List.map_cons, hafter]
      · rw [List.filterMap_cons]
        exact congrArg _ hhits
      · rw [List.filter_cons]
        dsimp only [noted]
        rw [hdeaths]
        cases hlife : a'.alive with
        | true =>
          rw [if_pos rfl, if_neg]
          exact fun hf => absurd (hfatal.2 (of_decide_eq_true hf)) (by rw [hlife]; decide)
        | false =>
          rw [if_neg Bool.false_ne_true, if_pos (decide_eq_true (hfatal.1 hlife)), List.map_cons]
          exact congrArg (· :: _) hsame.id
      · exact List.forall_mem_cons.2 ⟨hfatal, hdead⟩
      · refine s.comesOut_cons carried ⟨hsame, fun h' hh => ?_, fun hh => nomatch hh⟩ hout
        obtain rfl := Option.some.inj hh
        exact ⟨hraw, hcosts⟩
    · have hmiss := Int.not_lt.1 hraw
      obtain ⟨os, hbefore, hafter, hhits, hdeaths, hdead, hout⟩ :=
        ih (s.rawDamage carried a).2 k hall
      have hspared : ¬Outcome.Fatal ⟨a, a, none⟩ := fun hf => nomatch hf.1
      rw [s.strike_cons_missed as carried k hin hmiss]
      refine ⟨⟨a, a, none⟩ :: os, ?_, ?_, ?_, ?_, ?_, ?_⟩
      · rw [List.map_cons, hbefore]
      · rw [List.map_cons, hafter]
      · exact hhits
      · rw [List.filter_cons, if_neg fun hf => hspared (of_decide_eq_true hf)]
        exact hdeaths
      · refine List.forall_mem_cons.2 ⟨iff_of_false ?_ hspared, hdead⟩
        rw [alive]
        decide
      · exact s.comesOut_cons carried ⟨.refl a, fun _ hh => (nomatch hh), fun _ => ⟨hmiss, rfl⟩⟩ hout

end Passes

/-- A blast only involves the actors that it reaches, which are the living ones within ten of its
radius, less the attacker where that cannot be hurt.  Over a table it gives the same report, leaves
the same source of randomness and does the same to them as over these alone, and it leaves the others
as they are.  Each of those that it reaches comes out with a hit, in the order of the table, or as it
was; the deaths are those of the hits that have left no energy, in the same order, and nobody else is
dead. -/
theorem strike_involves (s : Shock) (as : List Actor) (carried : Option Vec2) (k : Keystream) :
    let reached := as.filter s.involves
    let whole := (s.strike as carried).run k
    let alone := (s.strike reached carried).run k
    (∀ a, a ∈ reached ↔ a ∈ as ∧ a.alive = true ∧ (s.selfDamage = true ∨ a.id ≠ s.attacker) ∧
      ¬Quantity.ofInt s.radius + 10 <
        (⟨Quantity.ofInt a.x - s.center.x, s.center.y - Quantity.ofInt a.y⟩ : Vec2).length) ∧
    (whole.1.2 = alone.1.2 ∧ whole.2 = alone.2 ∧ whole.1.1.length = as.length ∧
      (as.zip whole.1.1).filter (fun e => s.involves e.1) = reached.zip alone.1.1 ∧
      ∀ e ∈ as.zip whole.1.1, s.involves e.1 = false → e.2 = e.1) ∧
    ∃ os : List Outcome, os.map Outcome.before = reached ∧ os.map Outcome.after = alone.1.1 ∧
      whole.1.2.hits = os.filterMap Outcome.hit? ∧
      whole.1.2.deaths = (os.filter (·.Fatal)).map (fun o => o.before.id) ∧
      (∀ o ∈ os, o.after.alive = false ↔ o.Fatal) ∧
      ∀ earlier o later, os = earlier ++ o :: later →
        s.ComesOut (s.carriedPast carried (earlier.map Outcome.before)) o := by
  intro reached whole alone
  -- The shock passes over all others, so that it is enough to see what it does to those it reaches.
  have hreached := s.strike_reached as carried k
  have hall : ∀ a ∈ reached, s.involves a = true := fun a ha => (List.mem_filter.1 ha).2
  obtain ⟨os, hbefore, hafter, hhits, hdeaths, hrest⟩ := s.strike_outcomes reached carried k hall
  have hreport : whole.1.2 = alone.1.2 := hreached.1
  refine ⟨fun a => List.mem_filter.trans (and_congr_right fun _ => s.involves_iff a), ?_⟩
  exact ⟨hreached, os, hbefore, hafter, hreport ▸ hhits, hreport ▸ hdeaths, hrest⟩

/-- A blast of a shell that the second actor has fired, in a match in which nobody is hurt by
themselves. -/
def shellburst : Shock := ⟨⟨40, 100⟩, 60, 1, false⟩

/-- A tank under a shield, the one that has fired, a wreck, another tank, and one far away. -/
def garrison : List Actor :=
  [(Actor.fresh 0 30 100).raiseShield .standard, .fresh 1 40 100,
    { Actor.fresh 2 45 100 with alive := false, energy := 0 },
    { Actor.fresh 3 48 100 with energy := 20 }, .fresh 4 200 100]

/-- Two of the five are reached, both are hit, and one of them dies; with a velocity, too, the others
make no difference. -/
theorem strike_involves_garrison :
    (garrison.filter shellburst.involves).map (·.id) = [0, 3] ∧
      ((shellburst.strike garrison (some ⟨30, -40⟩)).run (.ofSeed 0)).1.2 =
        ((shellburst.strike (garrison.filter shellburst.involves) (some ⟨30, -40⟩)).run
          (.ofSeed 0)).1.2 ∧
      ∃ os : List Outcome, os.map (fun o => o.before.id) = [0, 3] ∧
        os.filterMap Outcome.hit? = [⟨0, 0, 51, false⟩, ⟨3, 53, 0, false⟩] ∧
        (os.filter (·.Fatal)).map (fun o => o.before.id) = [3] := by
  have hids : (garrison.filter shellburst.involves).map (·.id) = [0, 3] := by decide +kernel
  obtain ⟨_, ⟨hreport, _⟩, _⟩ := shellburst.strike_involves garrison (some ⟨30, -40⟩) (.ofSeed 0)
  obtain ⟨_, _, os, hbefore, _, hhits, hdeaths, _⟩ :=
    shellburst.strike_involves garrison none (.ofSeed 0)
  -- What is computed is the report; that the outcomes come out so follows from it.
  refine ⟨hids, hreport, os, ?_, ?_, ?_⟩
  · rw [← hids, ← hbefore, List.map_map]
    rfl
  · rw [← hhits]
    decide +kernel
  · rw [← hdeaths]
    decide +kernel

end Shock

end Artillery
