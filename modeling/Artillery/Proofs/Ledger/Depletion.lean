import Artillery.Proofs.Ledger.Balance

/-!
# The end of a shield

The energy of a shield never goes below zero, and there is a shield wherever there is energy.  The
event that tells of the end of a shield is told exactly once when its energy runs out.  Only a hit
that takes exactly what is left empties a shield without taking it off and without such an event.

## Key results

- `Tracks.guarded`, `Tracks.shielded`, `Tracks.depletions`, `Tracks.emptied`: what the history of an
  actor says about its shield
- `Arena.Moves.guarded`: blasts and deflections leave no debts and no energy without a shield
- `Booked.shieldsTold`: what the history of a table says about its shields
- `Battle.shields_told`: what becomes of the shields of a battle, and what is told of it
- `Battle.shield_stays_on`: the hit that takes exactly what is left
-/

namespace Artillery

open Event

namespace Actor

/-- The shield has no debts, and its energy belongs to one. -/
def Guarded (a : Actor) : Prop := 0 ≤ a.shieldEnergy ∧ (0 < a.shieldEnergy → a.shield ≠ .none)

/-- There is a shield exactly while it has energy. -/
def Shielded (a : Actor) : Prop := a.shield ≠ .none ↔ 0 < a.shieldEnergy

instance (a : Actor) : Decidable a.Guarded := inferInstanceAs (Decidable (_ ∧ _))

instance (a : Actor) : Decidable a.Shielded := inferInstanceAs (Decidable (_ ↔ _))

/-- A shield at its full energy is in order, and so is an actor without one. -/
theorem guarded_of_capacity {a : Actor} (h : a.shieldEnergy = a.shield.capacity) :
    a.Guarded ∧ a.Shielded := by
  rw [Guarded, Shielded, h]
  cases a.shield <;> decide

/-- A shield that has just been raised has energy, and its energy has a shield. -/
theorem raiseShield_guarded (a : Actor) (kind : ShieldKind) :
    (a.raiseShield kind).Guarded ∧ (a.raiseShield kind).Shielded := guarded_of_capacity rfl

end Actor

/-! ## The shield in the history of an actor -/

namespace Tracks

variable {a a' : Actor} {es : List Event}

/-- Energy does not fall below nothing. -/
theorem nonneg (h : Tracks a es a') (ha : 0 ≤ a.shieldEnergy) : 0 ≤ a'.shieldEnergy := by
  have hleft := h.shield.nonneg ha
  rw [← h.account] at hleft
  exact hleft

/-- A shield that is taken off is told as depleted, once. -/
theorem worn_eq (h : Tracks a es a') :
    (if a.shield ≠ .none then 1 else 0) =
      (if a'.shield ≠ .none then 1 else 0) + Event.depletions a.id es := by
  have htold := h.shield.worn
  rw [← h.account] at htold
  have hworn (x : Actor) : x.account.isWorn.toNat = if x.shield ≠ .none then 1 else 0 :=
    apply_ite Bool.toNat ..
  rw [hworn, hworn] at htold
  exact htold

/-- Energy that is used up is told as a depletion, unless a hit took exactly what was left. -/
theorem charged_eq (h : Tracks a es a') :
    (if 0 < a.shieldEnergy then 1 else 0) =
      (if 0 < a'.shieldEnergy then 1 else 0) + Event.depletions a.id es +
        a.account.exactHits es := by
  have htold := h.shield.charged
  rw [← h.account] at htold
  have hcharged (x : Actor) : x.account.isCharged.toNat = if 0 < x.shieldEnergy then 1 else 0 :=
    apply_ite Bool.toNat ..
  rw [hcharged, hcharged] at htold
  exact htold

/-- An actor whose energy has a shield stays one. -/
theorem guarded (h : Tracks a es a') (ha : a.Guarded) : a'.Guarded := by
  refine ⟨h.nonneg ha.1, fun hlive hoff => ?_⟩
  -- Both counts are told by the same events, and an energy without a shield would upset them.
  have hworn := h.worn_eq
  have hcharged := h.charged_eq
  rw [if_pos hlive] at hcharged
  rw [if_neg (not_not.2 hoff)] at hworn
  -- The energy that is left was there before, and so was the shield that is off now.
  have hbefore : 0 < a.shieldEnergy := by
    by_contra hc
    rw [if_neg hc] at hcharged
    omega
  rw [if_pos hbefore] at hcharged
  rw [if_pos (ha.2 hbefore)] at hworn
  omega

/-- Without an exact hit, the end of a shield is told when its energy runs out. -/
theorem depletions (h : Tracks a es a') (ha : a.Guarded) (exact : a.account.exactHits es = 0) :
    Event.depletions a.id es = if 0 < a.shieldEnergy ∧ a'.shieldEnergy = 0 then 1 else 0 := by
  have hnonneg := h.nonneg ha.1
  have hcharged := h.charged_eq
  rw [exact] at hcharged
  split_ifs at hcharged ⊢ <;> omega

/-- Without an exact hit, a shield and its energy come to an end together. -/
theorem shielded (h : Tracks a es a') (ha : a.Shielded) (exact : a.account.exactHits es = 0) :
    a'.Shielded := by
  have hworn := h.worn_eq
  have hcharged := h.charged_eq
  rw [exact] at hcharged
  have hbefore : (if a.shield ≠ .none then 1 else 0) = if 0 < a.shieldEnergy then 1 else 0 :=
    if_congr ha rfl rfl
  -- No hit was exact, so that both counts have lost the same.
  have hafter : (if a'.shield ≠ .none then 1 else 0) = if 0 < a'.shieldEnergy then 1 else 0 := by
    omega
  constructor
  · intro hon
    by_contra hempty
    rw [if_pos hon, if_neg hempty] at hafter
    exact Nat.one_ne_zero hafter
  · intro hlive hoff
    rw [if_pos hlive, if_neg (not_not.2 hoff)] at hafter
    exact Nat.zero_ne_one hafter

/-- An exact hit leaves an empty shield, whose end is never told. -/
theorem emptied (h : Tracks a es a') (ha : a.Guarded) (exact : a.account.exactHits es ≠ 0) :
    0 < a.shieldEnergy ∧ a'.shieldEnergy = 0 ∧ a'.shield ≠ .none ∧ Event.depletions a.id es = 0 := by
  have hnonneg := h.nonneg ha.1
  have hworn := h.worn_eq
  have hcharged := h.charged_eq
  have hlive : 0 < a.shieldEnergy := by
    by_contra hc
    rw [if_neg hc] at hcharged
    omega
  rw [if_pos hlive] at hcharged
  rw [if_pos (ha.2 hlive)] at hworn
  have hempty : ¬0 < a'.shieldEnergy := by
    intro hc
    rw [if_pos hc] at hcharged
    omega
  rw [if_neg hempty] at hcharged
  -- The exact hit accounts for the energy, which leaves no depletion to be told.
  have hsilent : Event.depletions a.id es = 0 := by omega
  refine ⟨hlive, by omega, fun hoff => ?_, hsilent⟩
  rw [if_neg (not_not.2 hoff), hsilent] at hworn
  exact Nat.one_ne_zero hworn

end Tracks

/-! ## Blasts and deflections -/

section Strike

variable {s : Shock} {as as' : List Actor} {carried : Option Vec2} {k k' : Keystream}
  {report : DamageReport}

/-- A blast leaves no debts, even where actors share a number. -/
theorem strike_guarded (h : (s.strike as carried).run k = ((as', report), k')) {i : Nat} {a : Actor}
    (ha : as[i]? = some a) (guarded : a.Guarded) : ∃ a', as'[i]? = some a' ∧ a'.Guarded := by
  induction as generalizing carried k as' report i with
  | nil => exact nomatch ha
  | cons b as ih =>
    obtain ⟨_, rest, hs, rfl⟩ | ⟨_, _, b', _, _, rest, _, alive, hh, hs, rfl, _⟩ := strike_cons h
    · cases i with
      | zero => exact ⟨a, ha, guarded⟩
      | succ i => exact ih hs ha
    · cases i with
      | zero =>
        obtain rfl := Option.some.inj ha
        -- Who is hit is guarded by its own events.
        obtain ⟨_, htracks⟩ := hit_tracks alive hh s.attacker
        exact ⟨b', rfl, htracks.guarded guarded⟩
      | succ i => exact ih hs ha

end Strike

namespace Arena

variable {a a' : Arena} {es : List Event} {i : Nat} {x : Actor}

/-- Whoever is guarded before a move is guarded after it. -/
theorem Move.guarded (h : a.Move es a') (hx : a.actors[i]? = some x) (guarded : x.Guarded) :
    ∃ x', a'.actors[i]? = some x' ∧ x'.Guarded := by
  cases h with
  | shock s carried => exact strike_guarded (k := a.keystream) rfl hx guarded
  | dig center work hw =>
    rw [dig_actors]
    exact ⟨x, hx, guarded⟩
  | queue weapon spawn hs =>
    rw [queue_actors]
    exact ⟨x, hx, guarded⟩
  | @deflect p p' id j target target' depleted k hj ht hd =>
    show ∃ x', (a.actors.set j target')[i]? = some x' ∧ x'.Guarded
    -- A deflection changes the entry of the actor that it is for.
    by_cases hij : j = i
    · subst hij
      obtain rfl := Option.some.inj (hx.symm.trans ht)
      obtain ⟨hlt, _⟩ := List.getElem?_eq_some_iff.1 hx
      exact ⟨target', List.getElem?_set_self hlt, (deflect_tracks hd).guarded guarded⟩
    · rw [List.getElem?_set_ne hij]
      exact ⟨x, hx, guarded⟩
  | _ => exact ⟨x, hx, guarded⟩

/-- Whoever is guarded stays so through any number of moves. -/
theorem Moves.guarded (h : a.Moves es a') (hx : a.actors[i]? = some x) (guarded : x.Guarded) :
    ∃ x', a'.actors[i]? = some x' ∧ x'.Guarded := by
  induction h generalizing x with
  | nil => exact ⟨x, hx, guarded⟩
  | cons h _ ih =>
    obtain ⟨x₁, hx₁, guarded₁⟩ := h.guarded hx guarded
    exact ih hx₁ guarded₁

end Arena

/-! ## The table -/

/-- What becomes of a shield, and what some events tell of it.  Without exact hits it goes with its
energy, and its end is told then and only then; an exact hit leaves an empty shield, of which nothing
is told. -/
structure ShieldHistory (a : Actor) (es : List Event) (a' : Actor) : Prop where
  guarded : a'.Guarded
  shielded : a.account.exactHits es = 0 → a.Shielded → a'.Shielded
  told : a.account.exactHits es = 0 →
    depletions a.id es = if 0 < a.shieldEnergy ∧ a'.shieldEnergy = 0 then 1 else 0
  emptied : a.account.exactHits es ≠ 0 →
    0 < a.shieldEnergy ∧ a'.shieldEnergy = 0 ∧ a'.shield ≠ .none ∧ depletions a.id es = 0

/-- The events tell what becomes of every shield in a table, and of no other. -/
structure ShieldsTold (as : List Actor) (es : List Event) (as' : List Actor) : Prop where
  history : ∀ (i : Nat) (a : Actor), as[i]? = some a → a.Guarded →
    ∃ a', as'[i]? = some a' ∧ ShieldHistory a es a'
  others : ∀ id ∉ ids as, depletions id es = 0

theorem Booked.shieldsTold {as as' : List Actor} {es : List Event} (h : Booked as es as') :
    ShieldsTold as es as' := by
  constructor
  · -- The events about an actor of the table are its own record.
    intro i a ha guarded
    obtain ⟨hi, _⟩ := List.getElem?_eq_some_iff.1 ha
    have hlen : as.length = as'.length := h.tracks.length_eq
    have ha' := List.getElem?_eq_getElem (hlen ▸ hi)
    have htracks := h.tracks_getElem? ha ha'
    exact ⟨_, ha', htracks.guarded guarded, fun exact hs => htracks.shielded hs exact,
      htracks.depletions guarded, htracks.emptied guarded⟩
  · -- Of nobody who is not in the table any depletion is told.
    intro id hid
    rw [← depletions_about, h.about_others hid]
    rfl

namespace Battle

/-- Whatever projectiles and blasts do, a shield has no debts, and energy belongs to a shield.  With
distinct numbers, in every run of blasts and deflections and in every sequence of calls, a shield and
its energy come to an end together and this is told exactly once, unless a hit takes exactly what is
left of the energy. -/
theorem shields_told (b : Battle) :
    (∀ es arena, b.arena.Moves es arena →
      ∀ (i : Nat) (a : Actor), b.arena.actors[i]? = some a → a.Guarded →
        ∃ a', arena.actors[i]? = some a' ∧ a'.Guarded) ∧
    ((ids b.arena.actors).Nodup →
      (∀ es arena, b.arena.Moves es arena → ShieldsTold b.arena.actors es arena.actors) ∧
      ∀ cs handed b', (∀ c ∈ cs, c.LeavesTable) → Call.performAll cs b = .ok (handed, b') →
        ∃ told, handed ++ b'.arena.events.toList = b.arena.events.toList ++ told ∧
          ShieldsTold b.arena.actors told b'.arena.actors) := by
  refine ⟨fun es arena h i a ha guarded => h.guarded ha guarded, fun nodup => ⟨?_, ?_⟩⟩
  · intro es arena h
    exact (h.booked nodup).shieldsTold
  · intro cs handed b' leaves h
    obtain ⟨told, hevents, hbooked⟩ := Call.performAll_records nodup leaves h
    exact ⟨told, hevents, hbooked.shieldsTold⟩

/-- A tank with a fresh shield. -/
def shelter (kind : ShieldKind) : Battle :=
  (assemble {} (.blank 32 24) (.ofSeed 0)).setActors [(Actor.fresh 0 6 24).raiseShield kind]

/-- A blast that leaves little of a force shield, and a shell that is thrown back with the rest. -/
def siege : List Call :=
  [.strikeActors ⟨6, 24⟩ 145 1 none,
    .spawn { position := ⟨6, 21⟩, velocity := ⟨0, 0⟩, weapon := 0, owner := 1, warhead := .weapon
             maneuver := .initial .none },
    .step, .step, .step]

/-- The shield goes with the deflection, which tells of it once. -/
theorem shields_told_siege :
    ∃ handed b' told, Call.performAll siege (shelter .force) = .ok (handed, b') ∧
      handed ++ b'.arena.events.toList = told ∧
      b'.arena.actors.map (fun a => (a.shield, a.shieldEnergy)) = [(.none, 0)] ∧
      depletions 0 told = 1 := by
  have run : ((Call.performAll siege (shelter .force)).toOption.any fun r => decide (
      r.2.arena.actors.map (fun a => (a.shield, a.shieldEnergy)) = [(.none, 0)] ∧
      ((Actor.fresh 0 6 24).raiseShield .force).account.exactHits
        (r.1 ++ r.2.arena.events.toList) = 0)) = true := by decide +kernel
  obtain ⟨⟨handed, b'⟩, hrun, run⟩ := Fault.exists_of_any run
  obtain ⟨hactors, hexact⟩ := of_decide_eq_true run
  obtain ⟨_, hcalls⟩ := (shields_told (shelter .force)).2 (by decide)
  obtain ⟨told, hevents, htold⟩ := hcalls siege handed b' (by simp [siege, Call.LeavesTable]) hrun
  have hold : (shelter .force).arena.events.toList = [] := rfl
  rw [hold, List.nil_append] at hevents
  obtain ⟨a, ha, hhistory⟩ := htold.history 0 _ rfl (Actor.raiseShield_guarded _ .force).1
  have hempty : a.shieldEnergy = 0 := by
    have hfirst := congrArg (·[0]?) hactors
    simp only [List.getElem?_map, ha] at hfirst
    exact congrArg Prod.snd (Option.some.inj hfirst)
  -- No hit took exactly what was left, so that the loss of the energy is told.
  have hcount := hhistory.told (hevents ▸ hexact)
  rw [hempty] at hcount
  exact ⟨handed, b', told, hrun, hevents, hactors, hcount⟩

/-- A blast that takes exactly what is left of a shield leaves an empty shield, and nothing tells of
it. -/
theorem shield_stays_on :
    (∀ a ∈ (shelter .standard).arena.actors, a.Guarded ∧ a.Shielded) ∧
      ((shelter .standard).strikeActors ⟨6, 24⟩ 55 1 none).2.arena.actors.map
        (fun a => (a.shield, a.shieldEnergy)) = [(.standard, 0)] ∧
      depletions 0 ((shelter .standard).strikeActors ⟨6, 24⟩ 55 1 none).2.arena.events.toList = 0 := by
  decide +kernel

end Battle

end Artillery
