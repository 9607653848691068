import Artillery.Proofs.Battle.Calls
import Artillery.Proofs.Ledger.Table

/-!
# The ledger balances

Whatever is called, and in whatever order projectiles, blasts and falls act, the events that a battle
tells account for everything that happens to its actors.

## Key results

- `Records.trans`: the books of one call after another are one book
- `perform_records`: every call that leaves the table to the battle is recorded
- `ledger_balances`: booking all events on the actors at the start gives the actors at the end
-/

namespace Artillery

/-- Books events in order on the accounts of a table. -/
def Account.postTable (ts : List Account) (es : List Event) : List Account :=
  es.foldl (fun ts e => ts.map (·.post e)) ts

/-- The accounts of a table are booked independently of each other. -/
theorem Account.postTable_eq (ts : List Account) (es : List Event) :
    postTable ts es = ts.map (·.postAll es) := by
  induction es generalizing ts with
  | nil => exact (List.map_id _).symm
  | cons e es ih =>
    have hrest : postTable (ts.map (·.post e)) es = (ts.map (·.post e)).map (·.postAll es) :=
      ih (ts.map (·.post e))
    rw [List.map_map] at hrest
    exact hrest

namespace Battle

/-- The battle goes on with events that account for its actors; some of its events are handed
over. -/
structure Records (b : Battle) (handed told : List Event) (b' : Battle) : Prop where
  events : handed ++ b'.arena.events.toList = b.arena.events.toList ++ told
  booked : Booked b.arena.actors told b'.arena.actors

namespace Records

variable {b b₁ b' : Battle} {handed later told after : List Event}

/-- One book after another is one book. -/
theorem trans (h₁ : Records b handed told b₁) (h₂ : Records b₁ later after b') :
    Records b (handed ++ later) (told ++ after) b' := by
  constructor
  · rw [List.append_assoc, h₂.events, ← List.append_assoc, h₁.events, List.append_assoc]
  · exact h₁.booked.trans h₂.booked

/-- The actors keep their numbers. -/
theorem nodup (h : Records b handed told b') (hb : (ids b.arena.actors).Nodup) :
    (ids b'.arena.actors).Nodup := h.booked.ids_eq ▸ hb

/-- Where neither actors nor events change, there is nothing to tell. -/
theorem idle (he : b'.arena.events = b.arena.events) (ha : b'.arena.actors = b.arena.actors) :
    Records b [] [] b' := by
  constructor
  · rw [he]
    exact (List.append_nil _).symm
  · rw [ha]
    exact .refl _

/-- A run of moves is recorded. -/
theorem of_moves {arena : Arena} (h : b.arena.Moves told arena) (hb : (ids b.arena.actors).Nodup)
    (he : b'.arena.events = arena.events) (ha : b'.arena.actors = arena.actors) :
    Records b [] told b' := by
  constructor
  · rw [he]
    exact h.events
  · exact ha ▸ h.booked hb

end Records

/-! ## The parts of a frame -/

section Parts

variable {b b' : Battle}

/-- A step tells all that it books. -/
theorem step_records (hb : (ids b.arena.actors).Nodup) (h : b.step = .ok b') :
    ∃ told, Records b [] told b' := by
  obtain ⟨es, arena, hmoves, ha, _⟩ := step_moves h
  have hredraw : Records b [] [] b.redraw := .idle rfl rfl
  have hrow : Records b.redraw [] es b' := by
    apply Records.of_moves hmoves hb
    · rw [ha]
    · rw [ha]
  exact ⟨es, hredraw.trans hrow⟩

/-- A frame of falling tells all that it books. -/
theorem stepFalling_records {falling : Bool} (hb : (ids b.arena.actors).Nodup)
    (h : b.stepFalling = .ok (falling, b')) : ∃ told, Records b [] told b' := by
  obtain ⟨_, rfl⟩ | ⟨_, actors, terrain, events, hstep, rfl⟩ := stepFalling_cases h
  · exact ⟨_, .idle rfl rfl⟩
  · have hcheck := Falling.check_booked b.arena.actors b.arena.terrain
    have hfall := Falling.step_booked (hcheck.ids_eq ▸ hb) hstep
    exact ⟨events, ⟨Array.toList_appendList .., hcheck.trans hfall⟩⟩

/-- A tick tells all that it books, and hands it over. -/
theorem tick_records {handed : List Event} (hb : (ids b.arena.actors).Nodup)
    (h : b.tick = .ok (handed, b')) : ∃ told, Records b handed told b' := by
  -- Within the frame nothing is handed over, and the book grows part by part.
  have hkeeps : ∃ c, (∃ told, Records b [] told c) ∧ handed = c.arena.events.toList ∧
      b' = { c with arena := { c.arena with events := #[] }, clock := c.clock.tickFrame } := by
    apply tick_keeps _ _ _ ⟨_, .idle rfl rfl⟩ h
    · rintro c c' ⟨told, hr⟩ hs
      obtain ⟨after, hr'⟩ := step_records (hr.nodup hb) hs
      exact ⟨_, hr.trans hr'⟩
    · rintro c ⟨told, hr⟩
      have hboom : Records c [] [] c.stepExplosions := .idle rfl rfl
      exact ⟨_, hr.trans hboom⟩
    · rintro c c' falling ⟨told, hr⟩ hs
      obtain ⟨after, hr'⟩ := stepFalling_records (hr.nodup hb) hs
      exact ⟨_, hr.trans hr'⟩
  obtain ⟨c, ⟨told, hevents, hbooked⟩, rfl, rfl⟩ := hkeeps
  exact ⟨told, (List.append_nil _).trans hevents, hbooked⟩

/-- A projectile that acts on the arena by moves tells all that is booked. -/
theorem withProjectile_records {α : Type} {handle : Nat} {result : Option α}
    {act : Projectile → Arena → Except Fault (α × Projectile × Arena)}
    (hb : (ids b.arena.actors).Nodup)
    (hact : ∀ p v q arena, act p b.arena = .ok (v, q, arena) → ∃ es, b.arena.Moves es arena)
    (h : b.withProjectile handle act = .ok (result, b')) : ∃ told, Records b [] told b' := by
  rw [withProjectile] at h
  split at h
  · obtain ⟨rfl, rfl⟩ := Prod.mk.inj (Except.ok.inj h)
    exact ⟨_, .idle rfl rfl⟩
  · obtain ⟨⟨v, q, arena⟩, ha, h⟩ := Fault.bind_ok h
    obtain ⟨rfl, rfl⟩ := Prod.mk.inj (Except.ok.inj h)
    obtain ⟨es, hmoves⟩ := hact _ _ _ _ ha
    exact ⟨es, .of_moves hmoves hb rfl rfl⟩

/-- A launch is booked on the account of the owner, for the shot and what guides it. -/
theorem launch?_records {owner : ActorId} {degrees power : Float} {weapon : WeaponId} {handle : Nat}
    (hb : (ids b.arena.actors).Nodup)
    (h : b.launch? owner degrees power weapon = some (handle, b')) :
    ∃ told, Records b [] told b' := by
  simp only [launch?, Option.bind_eq_bind, Option.bind_eq_some_iff] at h
  obtain ⟨i, hi, shooter, hs, behavior, _, h⟩ := h
  obtain ⟨rfl, rfl⟩ := Prod.mk.inj (Option.some.inj h)
  obtain ⟨hlt, hn, _⟩ := List.findIdx?_eq_some_iff_getElem.1 hi
  -- The shooter is the first living actor of that number.
  have howner : shooter.id = owner := by
    rw [List.getElem?_eq_getElem hlt] at hs
    rw [← Option.some.inj hs]
    exact (of_decide_eq_true hn).1
  subst howner
  have hshot := takeGuidance_tracks shooter weapon
  exact ⟨_, Array.toList_appendList .., .set hb hs hshot (by simp [Event.subject?])⟩

end Parts

/-! ## Calls -/

/-- Whether a call leaves the table of actors to what happens in the battle. -/
def Call.LeavesTable : Call → Prop
  | setActors _ | placeActors _ | addActor _ => False
  | _ => True

/-- Every such call is recorded. -/
theorem Call.perform_records {c : Call} {b b' : Battle} {handed : List Event}
    (hb : (ids b.arena.actors).Nodup) (hc : c.LeavesTable) (h : c.perform b = .ok (handed, b')) :
    ∃ told, Records b handed told b' := by
  -- The calls that replace the table are left out; the others book what they tell.
  cases c with
  | setActors | placeActors | addActor => exact hc.elim
  | setArsenal | spawn | stepExplosions | setWind =>
    obtain ⟨rfl, rfl⟩ := Prod.mk.inj (Except.ok.inj h)
    exact ⟨_, .idle rfl rfl⟩
  | launch owner degrees power weapon =>
    simp only [perform] at h
    split at h <;> obtain ⟨rfl, rfl⟩ := Prod.mk.inj (Except.ok.inj h)
    · rename_i hl
      exact launch?_records hb hl
    · exact ⟨_, .idle rfl rfl⟩
  | tick => exact tick_records hb h
  | step =>
    obtain ⟨r, hr, h⟩ := Fault.bind_ok h
    obtain ⟨rfl, rfl⟩ := Prod.mk.inj (Except.ok.inj h)
    exact step_records hb hr
  | advance handle =>
    obtain ⟨⟨status, b₁⟩, hr, h⟩ := Fault.bind_ok h
    obtain ⟨rfl, rfl⟩ := Prod.mk.inj (Except.ok.inj h)
    rw [Battle.advance] at hr
    split at hr
    · obtain ⟨rfl, rfl⟩ := Prod.mk.inj (Except.ok.inj hr)
      exact ⟨_, .idle rfl rfl⟩
    · obtain ⟨⟨s, p⟩, _, hr⟩ := Fault.bind_ok hr
      obtain ⟨rfl, rfl⟩ := Prod.mk.inj (Except.ok.inj hr)
      exact ⟨_, .idle rfl rfl⟩
  | strike handle hit =>
    obtain ⟨r, hr, h⟩ := Fault.bind_ok h
    obtain ⟨rfl, rfl⟩ := Prod.mk.inj (Except.ok.inj h)
    apply withProjectile_records hb _ hr
    intro p v q arena ha
    obtain ⟨rfl, hq⟩ := Prod.mk.inj (Except.ok.inj ha)
    obtain ⟨rfl, rfl⟩ := Prod.mk.inj hq
    exact ⟨_, (Arena.Move.draw _ _).moves⟩
  | applyImpact handle effect =>
    obtain ⟨r, hr, h⟩ := Fault.bind_ok h
    obtain ⟨rfl, rfl⟩ := Prod.mk.inj (Except.ok.inj h)
    apply withProjectile_records hb _ hr
    intro p v q arena ha
    obtain ⟨rfl, hq⟩ := Prod.mk.inj (Except.ok.inj ha)
    exact (Prod.mk.inj hq).2 ▸ Arena.applyImpact_moves b.arena p effect
  | fly handle =>
    obtain ⟨r, hr, h⟩ := Fault.bind_ok h
    obtain ⟨rfl, rfl⟩ := Prod.mk.inj (Except.ok.inj h)
    apply withProjectile_records hb _ hr
    intro p v q arena ha
    obtain ⟨e, _, ha⟩ := Fault.bind_ok ha
    obtain ⟨rfl, hq⟩ := Prod.mk.inj (Except.ok.inj ha)
    obtain ⟨rfl, rfl⟩ := Prod.mk.inj hq
    exact ⟨_, .nil _⟩
  | applyFlight handle effect =>
    obtain ⟨r, hr, h⟩ := Fault.bind_ok h
    obtain ⟨rfl, rfl⟩ := Prod.mk.inj (Except.ok.inj h)
    apply withProjectile_records hb _ hr
    intro p v q arena ha
    obtain ⟨rfl, hq⟩ := Prod.mk.inj (Except.ok.inj ha)
    exact (Prod.mk.inj hq).2 ▸ Arena.applyFlight_moves b.arena p effect
  | onTerrain op =>
    obtain ⟨terrain, _, h⟩ := Fault.bind_ok h
    obtain ⟨rfl, rfl⟩ := Prod.mk.inj (Except.ok.inj h)
    exact ⟨_, .idle rfl rfl⟩
  | strikeActors center radius attacker carried =>
    obtain ⟨rfl, rfl⟩ := Prod.mk.inj (Except.ok.inj h)
    exact ⟨_, .of_moves (Arena.Move.shock b.arena _ carried).moves hb rfl rfl⟩
  | stepFalling =>
    obtain ⟨r, hr, h⟩ := Fault.bind_ok h
    obtain ⟨rfl, rfl⟩ := Prod.mk.inj (Except.ok.inj h)
    exact stepFalling_records hb hr
  | changeWind =>
    obtain ⟨r, hr, h⟩ := Fault.bind_ok h
    obtain ⟨rfl, rfl⟩ := Prod.mk.inj (Except.ok.inj h)
    obtain ⟨wind, _, hr⟩ := Fault.bind_ok hr
    obtain rfl := Except.ok.inj hr
    exact ⟨[.windChanged wind], Array.toList_appendList ..,
      .idle fun e he => List.mem_singleton.1 he ▸ rfl⟩
  | drain =>
    obtain ⟨rfl, rfl⟩ := Prod.mk.inj (Except.ok.inj h)
    exact ⟨[], rfl, .refl _⟩

/-- So is every sequence of them. -/
theorem Call.performAll_records {cs : List Call} {b b' : Battle} {handed : List Event}
    (hb : (ids b.arena.actors).Nodup) (hcs : ∀ c ∈ cs, c.LeavesTable)
    (h : performAll cs b = .ok (handed, b')) : ∃ told, Records b handed told b' := by
  induction cs generalizing b handed with
  | nil =>
    obtain ⟨rfl, rfl⟩ := Prod.mk.inj (Except.ok.inj h)
    exact ⟨_, .idle rfl rfl⟩
  | cons c cs ih =>
    obtain ⟨hc, hcs⟩ := List.forall_mem_cons.1 hcs
    obtain ⟨⟨first, b₁⟩, h₁, h⟩ := Fault.bind_ok h
    obtain ⟨⟨later, b₂⟩, h₂, h⟩ := Fault.bind_ok h
    obtain ⟨rfl, rfl⟩ := Prod.mk.inj (Except.ok.inj h)
    -- The numbers stay distinct, because no event changes them.
    obtain ⟨told, hr⟩ := perform_records hb hc h₁
    obtain ⟨after, hr'⟩ := ih (hr.nodup hb) hcs h₂
    exact ⟨_, hr.trans hr'⟩

/-- The events are a complete ledger of the actors.  Booked in order on the table at the start, they
give the table at the end; being alive still means having energy; and they tell of one death of each
actor that has died meanwhile, and of no other death. -/
theorem ledger_balances {b b' : Battle} {cs : List Call} {handed : List Event}
    (nodup : (ids b.arena.actors).Nodup) (sound : ∀ a ∈ b.arena.actors, a.Sound)
    (leaves : ∀ c ∈ cs, c.LeavesTable) (h : Call.performAll cs b = .ok (handed, b')) :
    ∃ told, handed ++ b'.arena.events.toList = b.arena.events.toList ++ told ∧
      b'.arena.actors.map Actor.account =
        Account.postTable (b.arena.actors.map Actor.account) told ∧
      (∀ a ∈ b'.arena.actors, a.alive = true ↔ 0 < a.energy) ∧
      (∀ (i : Nat) (a a' : Actor), b.arena.actors[i]? = some a →
        b'.arena.actors[i]? = some a' →
        Event.killings a.id told = if a.alive = true ∧ a'.alive = false then 1 else 0) ∧
      ∀ id ∉ ids b.arena.actors, Event.killings id told = 0 := by
  obtain ⟨told, hevents, hbooked⟩ := Call.performAll_records nodup leaves h
  refine ⟨told, hevents, ?_, hbooked.sound sound, ?_, ?_⟩
  · rw [Account.postTable_eq, hbooked.accounts, List.map_map]
    rfl
  · -- Being alive goes down by the deaths that are told, so there is at most one.
    intro i a a' ha ha'
    have htoll := (hbooked.tracks_getElem? ha ha').toll
    cases hb : a.alive <;> cases hb' : a'.alive <;> simp [hb, hb'] at htoll ⊢ <;> omega
  · intro id hid
    have hnobody : Event.about id told = [] := by
      apply Event.about_eq_nil
      intro e he heq
      exact hid (hbooked.subjects e he id heq)
    rw [← Event.killings_about, hnobody]
    rfl

/-- A tank with a guided shot and the last of a shield, and one whose long fall is about to end. -/
def brawl : Battle :=
  (assemble {} (.blank 32 24) (.ofSeed 0)).setActors
    [{ (Actor.fresh 0 6 24).raiseShield .force with
        shieldEnergy := 4, inventory := { heatGuidance := 1 } },
      { Actor.fresh 1 20 22 with energy := 3, falling := some ⟨0⟩ }]

/-- A shell on top of the first tank that is thrown back in its third step, the landing of the second
tank, and a shot. -/
def brawling : List Call :=
  [.spawn { position := ⟨6, 21⟩, velocity := ⟨0, 0⟩, weapon := 0, owner := 1, warhead := .weapon
            maneuver := .initial .none },
    .step, .step, .step, .stepFalling, .drain, .launch 0 45 500 2]

/-- The first tank loses its shield and the guidance item, the second one its life. -/
theorem ledger_balances_brawl :
    ∃ handed b' told, Call.performAll brawling brawl = .ok (handed, b') ∧
      handed ++ b'.arena.events.toList = told ∧
      b'.arena.actors.map Actor.account =
        Account.postTable (brawl.arena.actors.map Actor.account) told ∧
      b'.arena.actors.map (fun a => (a.alive, a.shield, a.inventory.heatGuidance)) =
        [(true, .none, 0), (false, .none, 0)] ∧
      Event.killings 0 told = 0 ∧ Event.killings 1 told = 1 := by
  have run : ((Call.performAll brawling brawl).toOption.any fun r => decide (
      r.2.arena.actors.map (fun a => (a.alive, a.shield, a.inventory.heatGuidance)) =
        [(true, .none, 0), (false, .none, 0)])) = true := by decide +kernel
  obtain ⟨⟨handed, b'⟩, hrun, run⟩ := Fault.exists_of_any run
  have hactors := of_decide_eq_true run
  obtain ⟨told, hevents, haccounts, _, hkills, _⟩ := ledger_balances
    (by decide) (by simp [brawl, setActors, Actor.Sound, Actor.fresh, Actor.raiseShield])
    (by simp [brawling, Call.LeavesTable]) hrun
  have hlife {i : Nat} {life : Bool} (hi : [true, false][i]? = some life) :
      ∃ a', b'.arena.actors[i]? = some a' ∧ a'.alive = life := by
    have hlives : b'.arena.actors.map Actor.alive = [true, false] := by
      have hfirst := congrArg (List.map Prod.fst) hactors
      rw [List.map_map] at hfirst
      exact hfirst
    rw [← hlives, List.getElem?_map, Option.map_eq_some_iff] at hi
    exact hi
  obtain ⟨a, ha, hlives⟩ := hlife (i := 0) rfl
  obtain ⟨c, hc, hdies⟩ := hlife (i := 1) rfl
  refine ⟨handed, b', told, hrun, hevents, haccounts, hactors, ?_, ?_⟩
  · have hspared := hkills 0 _ a rfl ha
    rw [hlives] at hspared
    exact hspared
  · have hdead := hkills 1 _ c rfl hc
    rw [hdies] at hdead
    exact hdead

end Battle

end Artillery
