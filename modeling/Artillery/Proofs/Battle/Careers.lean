import Artillery.Proofs.Battle.Lineage
import Artillery.Proofs.Battle.Progress

/-!
# The career of a projectile

A match goes on by steps, and between them the field changes in many ways.  All that a projectile of
the row does in it are its own steps, one in each step of the match, up to the one that ends it.

## Key results

- `Career`: the steps of a projectile, and what has become of it
- `Career.length_le`: what is used up step by step bounds a career
- `step_deed`: what a step of the match is for one of its projectiles
- `Keeps.perform`: what the steps keep, every call keeps that leaves the projectiles to these
- `performAll_fares`: a run of such calls brings on the careers
-/

namespace Artillery

/-- A deed is a step of its projectile over an arena with some arsenal. -/
def Deed.IsStep (arsenal : Arsenal) (d : Deed) : Prop :=
  ∃ a a' : Arena, a.arsenal = arsenal ∧ a.stepProjectile d.before = .ok (d.after, a') ∧
    a'.events.toList = a.events.toList ++ d.told

/-- A projectile is taken through some steps and is then another one, or has come to its end with the
last of them. -/
inductive Career (arsenal : Arsenal) : Projectile → List Deed → Option Projectile → Prop
  | rest (p : Projectile) : Career arsenal p [] (some p)
  | goes {d : Deed} {ds : List Deed} {r : Option Projectile} (h : d.IsStep arsenal)
      (on : d.after.active = true) (hs : Career arsenal d.after ds r) :
      Career arsenal d.before (d :: ds) r
  | ends {d : Deed} (h : d.IsStep arsenal) (off : d.after.active = false) :
      Career arsenal d.before [d] none

namespace Career

variable {arsenal : Arsenal} {p q : Projectile} {ds es : List Deed} {r : Option Projectile}

/-- Careers are put together where the projectile has gone on. -/
theorem append (h₁ : Career arsenal p ds (some q)) (h₂ : Career arsenal q es r) :
    Career arsenal p (ds ++ es) r := by
  generalize hr : some q = o at h₁
  induction h₁ with
  | rest p =>
    obtain rfl := Option.some.inj hr
    exact h₂
  | goes h on _ ih => exact .goes h on (ih hr)
  | ends h off => exact nomatch hr

/-- What every step uses up bounds the steps of a career; as long as the projectile goes on there is
some of it left. -/
theorem length_le {left : Projectile → Nat → Prop} {n : Nat}
    (step : ∀ {a a' : Arena} {p p' : Projectile} {n : Nat}, a.arsenal = arsenal →
      p.active = true → left p n → a.stepProjectile p = .ok (p', a') →
        p'.active = false ∨ ∃ m < n, left p' m)
    (pos : ∀ {p : Projectile} {n : Nat}, left p n → 0 < n)
    (h : Career arsenal p ds r) (active : p.active = true) (hp : left p n) :
    ds.length ≤ n ∧ (r ≠ none → ds.length < n) := by
  -- What is left is handed from each step to the career that follows it.
  induction h generalizing n with
  | rest p => exact ⟨Nat.zero_le n, fun _ => pos hp⟩
  | goes h on _ ih =>
    obtain ⟨a, a', ha, hstep, _⟩ := h
    obtain hends | ⟨m, hm, hleft⟩ := step ha active hp hstep
    · rw [hends] at on
      exact nomatch on
    · obtain ⟨hle, hlt⟩ := ih on hleft
      rw [List.length_cons]
      exact ⟨by omega, fun hr => by have := hlt hr; omega⟩
  | ends h off => exact ⟨pos hp, fun hr => absurd rfl hr⟩

end Career

namespace Arena

/-- The deeds of a pass are steps under the arsenal of the arena. -/
theorem deeds_isStep (todo : List (Nat × Projectile)) (a : Arena) :
    ∀ d ∈ deeds todo a, d.IsStep a.arsenal := by
  induction todo generalizing a with
  | nil => exact List.forall_mem_nil _
  | cons e todo ih =>
    obtain ⟨handle, p⟩ := e
    simp only [deeds]
    split
    · rename_i q a₁ hq
      obtain ⟨es, hmoves⟩ := stepProjectile_moves hq
      -- A step leaves the arsenal, so that the later ones are steps under the same one.
      have harsenal : a₁.arsenal = a.arsenal := hmoves.rules.2.1
      refine List.forall_mem_cons.2 ⟨⟨a, a₁, rfl, hq, ?_⟩, harsenal ▸ ih a₁⟩
      dsimp only
      rw [hmoves.events, ← Array.length_toList, List.drop_left]
    · exact List.forall_mem_nil _

end Arena

namespace Battle

variable {b b' : Battle} {handle : Nat} {p q : Projectile}

/-! ## Steps -/

/-- Where no two have the same key, filtering by the key of one finds nothing else. -/
theorem filter_eq_singleton {α β : Type} [DecidableEq β] {f : α → β} {l : List α} {x : α}
    (nodup : (l.map f).Nodup) (h : x ∈ l) : l.filter (f · = f x) = [x] := by
  induction l with
  | nil => exact nomatch h
  | cons y l ih =>
    rw [List.map_cons, List.nodup_cons] at nodup
    obtain ⟨hy, nodup⟩ := nodup
    rw [List.filter_cons]
    -- The one that is looked for is the first, and no later one has its key, or the first has
    -- another key.
    obtain rfl | h := List.mem_cons.1 h
    · have hnone : l.filter (f · = f x) = [] := by
        refine List.filter_eq_nil_iff.2 fun z hz hf => hy ?_
        rw [← of_decide_eq_true hf]
        exact List.mem_map_of_mem hz
      rw [if_pos (decide_eq_true rfl), hnone]
    · rw [if_neg, ih nodup h]
      exact fun hf => hy (of_decide_eq_true hf ▸ List.mem_map_of_mem h)

/-- In a step a projectile of the row has one deed.  It stays in the row as it comes out of that, or
leaves the row with its end. -/
theorem step_deed (tidy : b.Tidy) (h : b.step = .ok b')
    (hp : (handle, p) ∈ b.roster.entries.toList) :
    ∃ d, b.stepDeeds.filter (·.handle = handle) = [d] ∧ d.before = p ∧
      d.IsStep b.arena.arsenal ∧
      (d.after.active = true → (handle, d.after) ∈ b'.roster.entries.toList) ∧
      (d.after.active = false → handle ∉ b'.roster.handles) := by
  obtain ⟨moved, arena, hs, _, hperm, _⟩ := step_stepAll tidy.row h
  obtain ⟨hbefore, hafter, _⟩ := Arena.stepAll_deeds hs
  change b.stepDeeds.map _ = _ at hbefore
  change b.stepDeeds.map _ = _ at hafter
  have hp' := hp
  rw [← hbefore] at hp'
  obtain ⟨d, hd, heq⟩ := List.mem_map.1 hp'
  obtain ⟨rfl, rfl⟩ := Prod.mk.inj heq
  -- The deeds are those of the row, in which no handle comes twice.
  have hnodup : (b.stepDeeds.map Deed.handle).Nodup := by
    have hhandles : b.stepDeeds.map Deed.handle = b.roster.handles := by
      rw [Roster.handles, ← hbefore, List.map_map]
      rfl
    exact hhandles ▸ tidy.row.nodup
  have hin : (d.handle, d.after) ∈ moved := by
    rw [← hafter]
    exact List.mem_map_of_mem (f := fun d : Deed => (d.handle, d.after)) hd
  exact ⟨d, filter_eq_singleton hnodup hd, rfl, Arena.deeds_isStep _ b.redraw.arena d hd,
    step_moved tidy.row hs hperm hin⟩

/-- A projectile has one brood at most in a step, at its end. -/
theorem step_modest (tidy : b.Tidy) (h : b.step = .ok b') : ∀ d ∈ b.stepDeeds, d.Modest := by
  obtain ⟨moved, arena, hs, _⟩ := step_stepAll tidy.row h
  obtain ⟨_, _, _, hmodest, _⟩ := Arena.stepAll_deeds hs
  exact hmodest

/-- A handle that is not in the row has no deeds. -/
theorem stepDeeds_gone (tidy : b.Tidy) (h : b.step = .ok b') (gone : handle ∉ b.roster.handles) :
    b.stepDeeds.filter (·.handle = handle) = [] := by
  obtain ⟨moved, arena, hs, _⟩ := step_stepAll tidy.row h
  obtain ⟨hbefore, _, _⟩ := Arena.stepAll_deeds hs
  change b.stepDeeds.map _ = _ at hbefore
  refine List.filter_eq_nil_iff.2 fun d hd hh => gone ?_
  rw [Roster.handles, ← hbefore, List.map_map]
  exact List.mem_map.2 ⟨d, hd, of_decide_eq_true hh⟩

/-- A handle that is not in the row any more has no deeds and does not come back. -/
theorem step_gone (tidy : b.Tidy) (h : b.step = .ok b') (gone : handle ∉ b.roster.handles)
    (known : handle < b.roster.next) :
    b.stepDeeds.filter (·.handle = handle) = [] ∧ handle ∉ b'.roster.handles := by
  obtain ⟨moved, arena, hs, _, hperm, _⟩ := step_stepAll tidy.row h
  constructor
  · exact stepDeeds_gone tidy h gone
  · intro hm
    obtain ⟨e, he, rfl⟩ := List.mem_map.1 hm
    -- After the step there are those that have moved, and new ones, whose handles are not below
    -- `next`.
    obtain he | he := List.mem_append.1 (hperm.mem_iff.1 he)
    · apply gone
      rw [Roster.handles, ← Arena.stepAll_handles hs]
      exact List.mem_map_of_mem (List.mem_filter.1 he).1
    · have hlate := List.mem_map_of_mem (f := Prod.fst) he
      rw [Roster.handles_freshFrom, List.mem_range'_1] at hlate
      omega

/-- A shot flies with the warhead of its weapon, in the state in which that begins. -/
theorem launch?_shot {owner : ActorId} {degrees power : Float} {weapon : WeaponId} {w : Weapon}
    (h : b.launch? owner degrees power weapon = some (handle, b'))
    (hw : b.arena.arsenal.get? weapon = some w) :
    ∃ p, (handle, p) ∈ b'.roster.entries.toList ∧ p.active = true ∧ p.weapon = weapon ∧
      p.warhead = .weapon ∧ p.maneuver = .initial w.behavior := by
  simp only [launch?, Option.bind_eq_bind, Option.bind_eq_some_iff] at h
  obtain ⟨i, _, shooter, _, behavior, hfire, h⟩ := h
  obtain ⟨rfl, rfl⟩ := Prod.mk.inj (Option.some.inj h)
  -- A weapon of the catalogue is fired with the behavior that it has there.
  have hbehavior : behavior = w.behavior := by
    unfold fireable? at hfire
    rw [hw] at hfire
    dsimp only at hfire
    split at hfire
    · exact (Option.some.inj hfire).symm
    · exact absurd hfire.symm (Option.some_ne_none behavior)
  refine ⟨{ Projectile.ofSpec (shot shooter degrees power weapon behavior) with
    guidance := shooter.inventory.takeGuidance.1.map .armed }, ?_, rfl, rfl, rfl, ?_⟩
  · exact Array.mem_toList_iff.2 Array.mem_push_self
  · rw [← hbehavior]
    rfl

/-! ## Handles -/

/-- A handle that is not in the row any more does not come back. -/
structure Onward (b b' : Battle) : Prop where
  next_le : b.roster.next ≤ b'.roster.next
  gone : ∀ handle < b.roster.next, handle ∉ b.roster.handles → handle ∉ b'.roster.handles

namespace Onward

/-- A battle with the same row has gone on, whatever else has happened. -/
theorem of_roster (h : b'.roster = b.roster) : Onward b b' :=
  ⟨Nat.le_of_eq (congrArg Roster.next h.symm), fun _ _ => h ▸ id⟩

/-- Who joins the row does so under handles that nothing had before. -/
theorem of_added {r : Roster} (specs : List ProjectileSpec) (hnext : r.next = b.roster.next)
    (hhandles : r.handles ⊆ b.roster.handles) (h : b'.roster = r.addAll specs) : Onward b b' := by
  obtain ⟨hentries, hlater⟩ := Roster.entries_addAll r specs
  refine ⟨by rw [h, hlater]; omega, fun handle hk hout hback => ?_⟩
  rw [h, Roster.handles, hentries, List.map_append, List.mem_append] at hback
  obtain hold | hnew := hback
  · exact hout (hhandles hold)
  · rw [Roster.handles_freshFrom, List.mem_range'_1] at hnew
    omega

/-- A step of flight gives away new handles only. -/
theorem step (tidy : b.Tidy) (h : b.step = .ok b') : Onward b b' := by
  obtain ⟨_, _, _, _, _, hnext⟩ := step_stepAll tidy.row h
  exact ⟨by omega, fun handle hk hout => (step_gone tidy h hout hk).2⟩

/-- A shot gets a new handle. -/
theorem launch {owner : ActorId} {degrees power : Float} {weapon : WeaponId}
    (h : b.launch? owner degrees power weapon = some (handle, b')) : Onward b b' := by
  obtain ⟨_, hnext, p, _, hentries, _⟩ := launch?_adds h
  refine ⟨by omega, fun handle hk hout hback => ?_⟩
  rw [Roster.handles, hentries, List.map_append, List.mem_append, List.map_singleton,
    List.mem_singleton] at hback
  obtain hold | hnew := hback
  · exact hout hold
  · exact absurd hk (by rw [hnew]; exact Nat.lt_irrefl _)

/-- So does a projectile that is put into the row by hand. -/
theorem spawn (b : Battle) (s : ProjectileSpec) : Onward b (b.spawn s).2 :=
  .of_added [s] rfl (fun _ h => h) rfl

/-- What is done with a single projectile brings back no handle that is gone. -/
theorem withProjectile {α : Type} {result : Option α}
    {act : Projectile → Arena → Except Fault (α × Projectile × Arena)}
    (h : b.withProjectile handle act = .ok (result, b')) : Onward b b' := by
  rw [Battle.withProjectile] at h
  split at h
  · obtain ⟨rfl, rfl⟩ := Prod.mk.inj (Except.ok.inj h)
    exact .of_roster rfl
  · rename_i p r hr
    obtain ⟨⟨v, q, arena⟩, _, h⟩ := Fault.bind_ok h
    obtain ⟨rfl, rfl⟩ := Prod.mk.inj (Except.ok.inj h)
    -- The projectile goes back under its handle, and what it has made gets new ones.
    exact .of_added (r := r.put handle q) arena.spawns.toList (Roster.take?_perm hr).2
      (Roster.handles_put_perm hr q).subset rfl

/-- A single flight by hand keeps all handles. -/
theorem advance {status : Option FlightStatus} (h : b.advance handle = .ok (status, b')) :
    Onward b b' := by
  rw [Battle.advance] at h
  split at h
  · obtain ⟨rfl, rfl⟩ := Prod.mk.inj (Except.ok.inj h)
    exact .of_roster rfl
  · obtain ⟨⟨s, q⟩, _, h⟩ := Fault.bind_ok h
    obtain ⟨rfl, rfl⟩ := Prod.mk.inj (Except.ok.inj h)
    -- The entry is replaced where it stands.
    refine ⟨Nat.le_refl _, fun n _ hout => ?_⟩
    rw [Roster.handles_update]
    exact hout

end Onward

/-- Falls leave the row and the arsenal alone. -/
theorem stepFalling_roster {falling : Bool} (h : b.stepFalling = .ok (falling, b')) :
    b'.roster = b.roster ∧ b'.arena.spawns = b.arena.spawns ∧
      b'.arena.arsenal = b.arena.arsenal ∧ b'.clock = b.clock := by
  obtain ⟨_, rfl⟩ | ⟨_, actors, terrain, events, _, rfl⟩ := stepFalling_cases h
  · exact ⟨rfl, rfl, rfl, rfl⟩
  · exact ⟨rfl, rfl, rfl, rfl⟩

/-! ## Between steps -/

/-- Between two steps the field changes in any way under the same arsenal, and projectiles join the
row. -/
structure Meanwhile (b b' : Battle) : Prop where
  arsenal : b'.arena.arsenal = b.arena.arsenal
  clock : b'.clock.step = b.clock.step
  tidy : b.Tidy → b'.Tidy
  onward : Onward b b'
  kept : ∀ e ∈ b.roster.entries.toList, e ∈ b'.roster.entries.toList

namespace Meanwhile

/-- What does not touch the row may change anything else about the field. -/
theorem of_field (ha : b'.arena.arsenal = b.arena.arsenal) (hs : b'.arena.spawns = b.arena.spawns)
    (hr : b'.roster = b.roster) (hc : b'.clock.step = b.clock.step) : Meanwhile b b' where
  arsenal := ha
  clock := hc
  tidy := fun tidy => tidy.congr hr hs
  onward := .of_roster hr
  kept := hr ▸ fun _ he => he

/-- A launch leaves the other projectiles as they are. -/
theorem launch {owner : ActorId} {degrees power : Float} {weapon : WeaponId}
    (h : b.launch? owner degrees power weapon = some (handle, b')) : Meanwhile b b' := by
  obtain ⟨_, _, p, _, hentries, _⟩ := launch?_adds h
  -- The inventory of the shooter is all that it changes outside the row.
  have hkept : b'.arena.arsenal = b.arena.arsenal ∧ b'.clock = b.clock := by
    simp only [launch?, Option.bind_eq_bind, Option.bind_eq_some_iff] at h
    obtain ⟨i, _, shooter, _, behavior, _, h⟩ := h
    obtain ⟨rfl, rfl⟩ := Prod.mk.inj (Option.some.inj h)
    exact ⟨rfl, rfl⟩
  exact {
    arsenal := hkept.1
    clock := congrArg Clock.step hkept.2
    tidy := fun tidy => launch?_tidy tidy h
    onward := .launch h
    kept := hentries ▸ fun _ he => List.mem_append_left _ he }

/-- So does putting a projectile into the row. -/
theorem spawn (b : Battle) (s : ProjectileSpec) : Meanwhile b (b.spawn s).2 where
  arsenal := rfl
  clock := rfl
  tidy := fun tidy => ⟨tidy.row.add _, tidy.spawns⟩
  onward := .spawn b s
  kept := fun _ he => by
    show _ ∈ (b.roster.put b.roster.next (.ofSpec s)).entries.toList
    rw [Roster.entries_put]
    exact List.mem_append_left _ he

/-- A frame of falling concerns no projectile. -/
theorem stepFalling {falling : Bool} (h : b.stepFalling = .ok (falling, b')) : Meanwhile b b' := by
  obtain ⟨hroster, hspawns, harsenal, hclock⟩ := stepFalling_roster h
  exact .of_field harsenal hspawns hroster (congrArg Clock.step hclock)

end Meanwhile

/-! ## Runs -/

namespace Call

/-- The calls that leave the projectiles to their steps: none of them exchanges the arsenal or takes a
single projectile in hand. -/
def LeavesFlight : Call → Prop
  | setArsenal _ | advance _ | strike .. | applyImpact .. | fly _ | applyFlight .. => False
  | _ => True

/-- The deeds of a projectile in a run. -/
def deedsOf (handle : Nat) (cs : List Call) (b : Battle) : List Deed :=
  (along deeds cs b).filter (·.handle = handle)

end Call

variable {P : List Deed → Battle → Prop} {ds : List Deed} {es : List Event}

/-- What a projectile has done and the battle have to do with each other, whatever happens between
the steps, and after a step with what it has done in that. -/
structure Keeps (handle : Nat) (P : List Deed → Battle → Prop) : Prop where
  meanwhile : ∀ {ds b b'}, P ds b → Meanwhile b b' → P ds b'
  step : ∀ {ds b b'}, P ds b → b.step = .ok b' →
    P (ds ++ b.stepDeeds.filter (·.handle = handle)) b'

namespace Keeps

/-- What steps keep is kept by any number of them. -/
theorem stepWhileFlying (keeps : Keeps handle P) {n : Nat} (h : P ds b)
    (hs : Battle.stepWhileFlying n b = .ok b') :
    P (ds ++ (deedsWhileFlying n b).filter (·.handle = handle)) b' := by
  -- The deeds are counted along the same recursion as the steps.
  induction n generalizing b ds with
  | zero =>
    obtain rfl := Except.ok.inj hs
    rwa [deedsWhileFlying, List.filter_nil, List.append_nil]
  | succ n ih =>
    rw [Battle.stepWhileFlying] at hs
    rw [deedsWhileFlying]
    split at hs
    · rename_i hfly
      obtain ⟨b₁, hb, hs⟩ := Fault.bind_ok hs
      rw [if_pos hfly, hb, List.filter_append, ← List.append_assoc]
      exact ih (keeps.step h hb) hs
    · rename_i hfly
      obtain rfl := Except.ok.inj hs
      rwa [if_neg hfly, List.filter_nil, List.append_nil]

/-- So it is by a whole frame. -/
theorem tick (keeps : Keeps handle P) (h : P ds b) (ht : b.tick = .ok (es, b')) :
    P (ds ++ (deedsWhileFlying b.arena.config.stepsPerFrame b).filter (·.handle = handle)) b' := by
  obtain ⟨flown, fallen, hf, hd, rfl, rfl⟩ := tick_cases ht
  have hboom : Meanwhile flown flown.stepExplosions := .of_field rfl rfl rfl rfl
  have hflown := keeps.meanwhile (keeps.stepWhileFlying h hf) hboom
  -- After the flight nobody in the row does anything, whether actors fall or not.
  have hfallen : P
      (ds ++ (deedsWhileFlying b.arena.config.stepsPerFrame b).filter (·.handle = handle))
      fallen := by
    obtain ⟨_, falling, hd⟩ | ⟨_, rfl⟩ := hd
    · exact keeps.meanwhile hflown (.stepFalling hd)
    · exact hflown
  exact keeps.meanwhile hfallen (.of_field rfl rfl rfl rfl)

/-- A call that leaves the projectiles to their steps adds the deeds of the projectile in it. -/
theorem perform (keeps : Keeps handle P) {c : Call} (hc : c.LeavesFlight) (h : P ds b)
    (hp : c.perform b = .ok (es, b')) :
    P (ds ++ (c.deeds b).filter (·.handle = handle)) b' := by
  -- Between the steps there are no deeds.
  have idle (hd : c.deeds b = []) (hm : Meanwhile b b') :
      P (ds ++ (c.deeds b).filter (·.handle = handle)) b' := by
    rw [hd, List.filter_nil, List.append_nil]
    exact keeps.meanwhile h hm
  -- Only steps and frames have deeds.
  cases c with
  | setActors | addActor | strikeActors | stepExplosions | setWind | drain =>
    obtain ⟨rfl, rfl⟩ := Prod.mk.inj (Except.ok.inj hp)
    exact idle rfl (.of_field rfl rfl rfl rfl)
  | spawn s =>
    obtain ⟨rfl, rfl⟩ := Prod.mk.inj (Except.ok.inj hp)
    exact idle rfl (.spawn b s)
  | launch owner degrees power weapon =>
    simp only [Call.perform] at hp
    split at hp <;> obtain ⟨rfl, rfl⟩ := Prod.mk.inj (Except.ok.inj hp)
    · rename_i hl
      exact idle rfl (.launch hl)
    · exact idle rfl (.of_field rfl rfl rfl rfl)
  | tick => exact keeps.tick h hp
  | step =>
    obtain ⟨r, hr, hp⟩ := Fault.bind_ok hp
    obtain ⟨rfl, rfl⟩ := Prod.mk.inj (Except.ok.inj hp)
    exact keeps.step h hr
  | placeActors count =>
    obtain ⟨r, hr, hp⟩ := Fault.bind_ok hp
    obtain ⟨rfl, rfl⟩ := Prod.mk.inj (Except.ok.inj hp)
    obtain ⟨placed, _, hr⟩ := Fault.bind_ok hr
    obtain rfl := Except.ok.inj hr
    exact idle rfl (.of_field rfl rfl rfl rfl)
  | onTerrain op =>
    obtain ⟨terrain, _, hp⟩ := Fault.bind_ok hp
    obtain ⟨rfl, rfl⟩ := Prod.mk.inj (Except.ok.inj hp)
    exact idle rfl (.of_field rfl rfl rfl rfl)
  | stepFalling =>
    obtain ⟨r, hr, hp⟩ := Fault.bind_ok hp
    obtain ⟨rfl, rfl⟩ := Prod.mk.inj (Except.ok.inj hp)
    exact idle rfl (.stepFalling hr)
  | changeWind =>
    obtain ⟨r, hr, hp⟩ := Fault.bind_ok hp
    obtain ⟨rfl, rfl⟩ := Prod.mk.inj (Except.ok.inj hp)
    obtain ⟨wind, _, hr⟩ := Fault.bind_ok hr
    obtain rfl := Except.ok.inj hr
    exact idle rfl (.of_field rfl rfl rfl rfl)
  | _ => exact hc.elim

end Keeps

/-- What every call of a run keeps, the run does. -/
theorem Call.performAll_keeps {cs : List Call}
    (perform : ∀ c ∈ cs, ∀ {ds b b' es}, P ds b → c.perform b = .ok (es, b') →
      P (ds ++ (c.deeds b).filter (·.handle = handle)) b')
    (h : P ds b) (hp : performAll cs b = .ok (es, b')) : P (ds ++ deedsOf handle cs b) b' := by
  induction cs generalizing b ds es with
  | nil =>
    obtain ⟨rfl, rfl⟩ := Prod.mk.inj (Except.ok.inj hp)
    simpa [deedsOf, along] using h
  | cons c cs ih =>
    obtain ⟨hc, hcs⟩ := List.forall_mem_cons.1 perform
    obtain ⟨⟨first, b₁⟩, h₁, hp⟩ := Fault.bind_ok hp
    obtain ⟨⟨later, b₂⟩, h₂, hp⟩ := Fault.bind_ok hp
    obtain ⟨rfl, rfl⟩ := Prod.mk.inj (Except.ok.inj hp)
    have hrest := ih hcs (hc h h₁) h₂
    -- The deeds of the run are those of the first call and those of the others.
    simp only [deedsOf, along, h₁, List.filter_append]
    simpa only [deedsOf, List.append_assoc] using hrest

/-! ## Careers in a run -/

/-- What has become of a projectile since it had a handle under an arsenal, with its deeds since. -/
structure Fares (arsenal : Arsenal) (handle : Nat) (p : Projectile) (since : Nat) (ds : List Deed)
    (b : Battle) : Prop where
  tidy : b.Tidy
  arms : b.arena.arsenal = arsenal
  known : handle < b.roster.next
  /-- It is still in the row and has had a deed in every step, or it is gone and had its last one in
  one of them. -/
  career : (∃ q, Career arsenal p ds (some q) ∧ (handle, q) ∈ b.roster.entries.toList ∧
      since + ds.length = b.clock.step) ∨
    Career arsenal p ds none ∧ handle ∉ b.roster.handles ∧ since + ds.length ≤ b.clock.step

namespace Fares

variable {arsenal : Arsenal} {since : Nat} {ds : List Deed}

/-- A projectile of the row fares from there on. -/
theorem start (tidy : b.Tidy) (hp : (handle, p) ∈ b.roster.entries.toList) :
    Fares b.arena.arsenal handle p b.clock.step [] b where
  tidy := tidy
  arms := rfl
  known := tidy.row.below _ (List.mem_map.2 ⟨_, hp, rfl⟩)
  career := .inl ⟨p, .rest p, hp, rfl⟩

/-- What happens between steps changes nothing about it. -/
theorem meanwhile (h : Fares arsenal handle p since ds b) (hm : Meanwhile b b') :
    Fares arsenal handle p since ds b' where
  tidy := hm.tidy h.tidy
  arms := hm.arsenal.trans h.arms
  known := Nat.lt_of_lt_of_le h.known hm.onward.next_le
  career := by
    rw [hm.clock]
    exact h.career.imp (fun ⟨q, hq, hin, hlen⟩ => ⟨q, hq, hm.kept _ hin, hlen⟩)
      fun ⟨hc, hgone, hlen⟩ => ⟨hc, hm.onward.gone handle h.known hgone, hlen⟩

/-- A step adds the deed that the projectile has in it. -/
theorem step (h : Fares arsenal handle p since ds b) (hs : b.step = .ok b') :
    Fares arsenal handle p since (ds ++ b.stepDeeds.filter (·.handle = handle)) b' := by
  obtain ⟨es, arena, hmoves, ha, hclock⟩ := step_moves hs
  have hlater : b'.clock.step = b.clock.step + 1 := congrArg Clock.step hclock
  obtain ⟨_, _, _, _, _, hnext⟩ := step_stepAll h.tidy.row hs
  constructor
  case tidy => exact step_tidy h.tidy hs
  case arms =>
    rw [ha]
    exact hmoves.rules.2.1.trans h.arms
  case known =>
    have := h.known
    omega
  case career =>
    obtain ⟨q, hq, hin, hlen⟩ | ⟨hc, hgone, hlen⟩ := h.career
    · obtain ⟨d, hdeeds, rfl, hstep, hon, hoff⟩ := step_deed h.tidy hs hin
      rw [h.arms] at hstep
      rw [hdeeds, List.length_append, List.length_singleton]
      -- It is still there and has one more deed, or it has come to its end and stays away.
      cases hactive : d.after.active with
      | true =>
        exact .inl ⟨d.after, hq.append (.goes hstep hactive (.rest _)), hon hactive, by omega⟩
      | false =>
        exact .inr ⟨hq.append (.ends hstep hactive), hoff hactive, by omega⟩
    · obtain ⟨hnone, hstays⟩ := step_gone h.tidy hs hgone h.known
      rw [hnone, List.append_nil]
      exact .inr ⟨hc, hstays, by omega⟩

/-- Where a career has ended, the projectile is gone. -/
theorem exists_career (h : Fares arsenal handle p since ds b) :
    ∃ r, Career arsenal p ds r ∧ (r = none → handle ∉ b.roster.handles) := by
  obtain ⟨q, hq, _⟩ | ⟨hq, hgone, _⟩ := h.career
  · exact ⟨some q, hq, fun hr => absurd hr (Option.some_ne_none q)⟩
  · exact ⟨none, hq, fun _ => hgone⟩

/-- So it is kept in a run. -/
theorem keeps : Keeps handle (Fares arsenal handle p since) where
  meanwhile := meanwhile
  step := step

end Fares

namespace Call

variable {es : List Event}

/-- So does a run of calls that leave the projectiles to their steps. -/
theorem performAll_fares {arsenal : Arsenal} {since : Nat} {ds : List Deed} {cs : List Call}
    (hcs : ∀ c ∈ cs, c.LeavesFlight) (h : Fares arsenal handle p since ds b)
    (hp : performAll cs b = .ok (es, b')) :
    Fares arsenal handle p since (ds ++ deedsOf handle cs b) b' :=
  performAll_keeps (fun c hc => Fares.keeps.perform (hcs c hc)) h hp

end Call

end Battle

end Artillery
