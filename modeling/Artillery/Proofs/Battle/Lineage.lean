import Mathlib.Algebra.Order.Ring.Nat
import Mathlib.Data.List.Perm.Subperm
import Artillery.Proofs.Arena.Broods
import Artillery.Proofs.Battle.Faultless
import Artillery.Proofs.Ledger.Table

/-!
# Lineage

Every projectile of a battle was launched or is of the brood of one that was.  A step is kept as a
list of deeds, one for each projectile: what it was, what it has become, and what was told then.

## Key results

- `stepAll_deeds`: the deeds of a pass over the row are all that happens in it
- `Lineage`: what the deeds of a run, its shots and the row have to do with each other
- `perform_lineage`: every call of a match keeps the lineage
- `no_chain_reactions`: a shot has one brood at most, and its brood has none
-/

namespace Artillery

/-- What one projectile has done in one step. -/
structure Deed where
  handle : Nat
  before : Projectile
  after : Projectile
  told : List Event

namespace Deed

/-- The sizes of the broods that are told of. -/
def broods (d : Deed) : List Nat := Event.broods d.told

/-- A projectile has one brood at most in a step, and only a fertile one, at its end. -/
structure Modest (d : Deed) : Prop where
  stock : d.before.SameStock d.after
  once : d.broods = [] ∨
    d.before.Fertile ∧ d.after.active = false ∧ ∃ n ≤ maxBrood, d.broods = [n]

/-- The handles of those that have had a brood. -/
def spent (ds : List Deed) : List Nat := (ds.filter (·.broods ≠ [])).map handle

theorem spent_append (ds es : List Deed) : spent (ds ++ es) = spent ds ++ spent es := by
  simp [spent]

theorem mem_spent {ds : List Deed} {n : Nat} :
    n ∈ spent ds ↔ ∃ d ∈ ds, d.broods ≠ [] ∧ d.handle = n := by
  simp [spent, and_assoc]

/-- How many projectiles have been made. -/
def offspring (ds : List Deed) : Nat := (ds.flatMap broods).sum

theorem offspring_append (ds es : List Deed) :
    offspring (ds ++ es) = offspring ds + offspring es := by
  simp [offspring]

/-- Where each has one brood at most, there are no more new ones than the largest broods allow. -/
theorem offspring_le {ds : List Deed}
    (h : ∀ d ∈ ds, d.broods = [] ∨ ∃ n ≤ maxBrood, d.broods = [n]) :
    offspring ds ≤ maxBrood * (spent ds).length := by
  induction ds with
  | nil => exact Nat.le_refl 0
  | cons d ds ih =>
    obtain ⟨hd, hds⟩ := List.forall_mem_cons.1 h
    have hrest := ih hds
    have hsplit : offspring (d :: ds) = d.broods.sum + offspring ds := by simp [offspring]
    -- A deed without a brood spends nobody, and one with a brood spends one.
    obtain hnone | ⟨n, hn, hone⟩ := hd
    · have hspent : spent (d :: ds) = spent ds := by simp [spent, hnone]
      rw [hsplit, hspent, hnone]
      simpa using hrest
    · have hspent : (spent (d :: ds)).length = (spent ds).length + 1 := by simp [spent, hone]
      rw [hsplit, hspent, hone, Nat.mul_succ]
      simp only [List.sum_cons, List.sum_nil]
      omega

/-- Under one handle there are as many broods as it has been spent. -/
theorem length_broods_of {ds : List Deed}
    (h : ∀ d ∈ ds, d.broods = [] ∨ ∃ n ≤ maxBrood, d.broods = [n]) (n : Nat) :
    ((ds.filter (·.handle = n)).flatMap broods).length = (spent ds).count n := by
  induction ds with
  | nil => rfl
  | cons d ds ih =>
    obtain ⟨hd, hds⟩ := List.forall_mem_cons.1 h
    have hrest := ih hds
    obtain hnone | ⟨m, _, hone⟩ := hd <;> by_cases hn : d.handle = n
    · simpa [spent, hnone, hn] using hrest
    · simpa [spent, hnone, hn] using hrest
    · simpa [spent, hone, hn] using hrest
    · simpa [spent, hone, hn] using hrest

end Deed

namespace Arena

/-! ## A pass over the row -/

/-- What each of some projectiles does when they are stepped one after another. -/
def deeds : List (Nat × Projectile) → Arena → List Deed
  | [], _ => []
  | (handle, p) :: rest, a =>
    match a.stepProjectile p with
    | .ok (q, a') => ⟨handle, p, q, a'.events.toList.drop a.events.size⟩ :: deeds rest a'
    | .error _ => []

/-- The deeds of a pass account for the projectiles, the events and the new projectiles. -/
theorem stepAll_deeds {todo moved : List (Nat × Projectile)} {a a' : Arena}
    (h : stepAll todo a = .ok (moved, a')) :
    (deeds todo a).map (fun d => (d.handle, d.before)) = todo ∧
      (deeds todo a).map (fun d => (d.handle, d.after)) = moved ∧
      a'.events.toList = a.events.toList ++ (deeds todo a).flatMap Deed.told ∧
      (∀ d ∈ deeds todo a, d.Modest) ∧
      ∃ specs : List ProjectileSpec, a'.spawns = a.spawns ++ specs ∧ (∀ s ∈ specs, s.Barren) ∧
        specs.length = Deed.offspring (deeds todo a) := by
  induction todo generalizing a moved with
  | nil =>
    obtain ⟨rfl, rfl⟩ := Prod.mk.inj (Except.ok.inj h)
    exact ⟨rfl, rfl, (List.append_nil _).symm, List.forall_mem_nil _, [], Array.append_empty.symm,
      List.forall_mem_nil _, rfl⟩
  | cons e todo ih =>
    obtain ⟨handle, p⟩ := e
    obtain ⟨⟨q, a₁⟩, hq, h⟩ := Fault.bind_ok h
    obtain ⟨⟨rest, a₂⟩, hr, h⟩ := Fault.bind_ok h
    obtain ⟨rfl, rfl⟩ := Prod.mk.inj (Except.ok.inj h)
    obtain ⟨hbefore, hafter, hevents, hmodest, specs, hspawns, hbarren, hcount⟩ := ih hr
    obtain ⟨brood, ⟨es, htold, hbroods, hasked⟩, hstock, hends⟩ := stepProjectile_brood hq
    -- The first deed is the step of the first projectile; the others start from its arena.
    have hdrop : a₁.events.toList.drop a.events.size = es := by
      rw [htold, ← Array.length_toList, List.drop_left]
    have hdeeds : deeds ((handle, p) :: todo) a = ⟨handle, p, q, es⟩ :: deeds todo a₁ := by
      rw [← hdrop]
      simp only [deeds, hq]
    -- It has asked for nothing, or it was fertile, has ended, and has told of its brood.
    have hown : Event.broods es = [] ∧ brood = [] ∨ p.Fertile ∧ q.active = false ∧
        IsBrood brood ∧ Event.broods es = [brood.length] := by
      by_cases hb : brood = []
      · rw [if_pos hb] at hbroods
        exact .inl ⟨hbroods, hb⟩
      · rw [if_neg hb] at hbroods
        obtain ⟨hfertile, hlast, hbrood⟩ := hends.resolve_left hb
        exact .inr ⟨hfertile, hlast, hbrood, hbroods⟩
    rw [hdeeds]
    refine ⟨by rw [List.map_cons, hbefore], by rw [List.map_cons, hafter], ?_, ?_, ?_⟩
    · rw [hevents, htold, List.flatMap_cons, List.append_assoc]
    · refine List.forall_mem_cons.2 ⟨⟨hstock, ?_⟩, hmodest⟩
      obtain ⟨hnone, _⟩ | ⟨hfertile, hlast, hbrood, hone⟩ := hown
      · exact .inl hnone
      · exact .inr ⟨hfertile, hlast, brood.length, hbrood.length_le, hone⟩
    · refine ⟨brood ++ specs, ?_, ?_, ?_⟩
      · rw [hspawns, hasked, ← Array.toList_inj]
        simp only [Array.toList_appendList, List.append_assoc]
      · intro s hs
        obtain hs | hs := List.mem_append.1 hs
        · obtain ⟨_, rfl⟩ | ⟨_, _, hbrood, _⟩ := hown
          · exact nomatch hs
          · exact hbrood.barren s hs
        · exact hbarren s hs
      · have hsplit : Deed.offspring (⟨handle, p, q, es⟩ :: deeds todo a₁) =
            (Event.broods es).sum + Deed.offspring (deeds todo a₁) := by
          simp [Deed.offspring, Deed.broods]
        rw [hsplit, List.length_append, hcount]
        obtain ⟨hnone, rfl⟩ | ⟨_, _, _, hone⟩ := hown
        · rw [hnone]
          rfl
        · rw [hone]
          simp

end Arena

namespace Battle

/-! ## Runs of a match -/

/-- The deeds of a step. -/
def stepDeeds (b : Battle) : List Deed := Arena.deeds b.roster.entries.toList b.redraw.arena

/-- The deeds of the steps of a frame. -/
def deedsWhileFlying : (n : Nat) → Battle → List Deed
  | 0, _ => []
  | n + 1, b =>
    if b.roster.anyActive then
      b.stepDeeds ++ match b.step with
        | .ok b => deedsWhileFlying n b
        | .error _ => []
    else []

namespace Call

/-- The deeds of a call. -/
def deeds (b : Battle) : Call → List Deed
  | step => b.stepDeeds
  | tick => deedsWhileFlying b.arena.config.stepsPerFrame b
  | _ => []

/-- The handle of a shot that a call fires. -/
def shots (b : Battle) : Call → List Nat
  | launch owner degrees power weapon =>
    match b.launch? owner degrees power weapon with
    | some (handle, _) => [handle]
    | none => []
  | _ => []

/-- What is collected from call to call along a run. -/
def along {α : Type} (f : Battle → Call → List α) : List Call → Battle → List α
  | [], _ => []
  | c :: cs, b =>
    f b c ++ match c.perform b with
      | .ok (_, b) => along f cs b
      | .error _ => []

/-- The calls of a match, by which no projectile is made but by shots. -/
def OfMatch : Call → Prop
  | setArsenal _ | launch .. | step | tick | placeActors _ | addActor _ | changeWind => True
  | _ => False

end Call

/-- A shot is put at the end of the row, under the next handle. -/
theorem launch?_adds {b b' : Battle} {owner : ActorId} {degrees power : Float} {weapon : WeaponId}
    {handle : Nat} (h : b.launch? owner degrees power weapon = some (handle, b')) :
    handle = b.roster.next ∧ b'.roster.next = b.roster.next + 1 ∧
      ∃ p kind, b'.roster.entries.toList = b.roster.entries.toList ++ [(b.roster.next, p)] ∧
        b'.arena.events.toList = b.arena.events.toList ++ [.launched owner weapon kind] := by
  simp only [launch?, Option.bind_eq_bind, Option.bind_eq_some_iff] at h
  obtain ⟨i, _, shooter, _, behavior, _, h⟩ := h
  obtain ⟨rfl, rfl⟩ := Prod.mk.inj (Option.some.inj h)
  exact ⟨rfl, rfl, _, _, Roster.entries_put .., Array.toList_appendList ..⟩

/-- What has come of a battle after some shots and deeds: only shots are fertile, each until it has
had its brood, and all others were made by one of the deeds. -/
structure Lineage (b₀ : Battle) (handed : List Event) (shots : List Nat) (deeds : List Deed)
    (b : Battle) : Prop where
  tidy : b.Tidy
  told : ∃ told, handed ++ b.arena.events.toList = b₀.arena.events.toList ++ told ∧
    Event.broods told = deeds.flatMap Deed.broods
  shots_nodup : shots.Nodup
  shots_range : ∀ n ∈ shots, b₀.roster.next ≤ n ∧ n < b.roster.next
  modest : ∀ d ∈ deeds, d.broods = [] ∨
    d.handle ∈ shots ∧ d.after.active = false ∧ ∃ n ≤ maxBrood, d.broods = [n]
  spent_nodup : (Deed.spent deeds).Nodup
  fertile : ∀ e ∈ b.roster.entries.toList, e.2.Fertile → e.1 ∈ shots ∧ e.1 ∉ Deed.spent deeds
  born : b.roster.next = b₀.roster.next + shots.length + Deed.offspring deeds

namespace Lineage

variable {b₀ b b' : Battle} {handed : List Event} {shots : List Nat} {deeds : List Deed}

/-- Whoever has had a brood is a shot. -/
theorem spent_subset (h : Lineage b₀ handed shots deeds b) : Deed.spent deeds ⊆ shots := by
  intro n hn
  obtain ⟨d, hd, hbroods, rfl⟩ := Deed.mem_spent.1 hn
  exact ((h.modest d hd).resolve_left hbroods).1

/-- What leaves the row alone and makes no brood changes nothing about the lineage. -/
theorem idle (es told : List Event) (h : Lineage b₀ handed shots deeds b)
    (hr : b'.roster = b.roster) (hs : b'.arena.spawns = b.arena.spawns)
    (he : es ++ b'.arena.events.toList = b.arena.events.toList ++ told)
    (hb : Event.broods told = []) : Lineage b₀ (handed ++ es) shots deeds b' := by
  obtain ⟨before, hbefore, hbroods⟩ := h.told
  refine { h with
    tidy := h.tidy.congr hr hs
    told := ⟨before ++ told, ?_, ?_⟩
    shots_range := hr ▸ h.shots_range
    fertile := hr ▸ h.fertile
    born := hr ▸ h.born }
  · rw [List.append_assoc, he, ← List.append_assoc, hbefore, List.append_assoc]
  · rw [Event.broods_append, hb, List.append_nil, hbroods]

/-- Nor do falls: they tell of actors only. -/
theorem stepFalling {falling : Bool} (h : Lineage b₀ handed shots deeds b)
    (hs : b.stepFalling = .ok (falling, b')) : Lineage b₀ handed shots deeds b' := by
  obtain ⟨_, rfl⟩ | ⟨_, actors, terrain, events, hfall, rfl⟩ := stepFalling_cases hs
  · exact h
  · have hnone : Event.broods events = [] := by
      refine Event.broods_eq_nil fun e he => ?_
      obtain ⟨id, hid⟩ := Falling.step_subject hfall e he
      cases e with
      | spawned => exact nomatch hid
      | _ => rfl
    rw [← List.append_nil handed]
    exact h.idle [] events rfl rfl (Array.toList_appendList ..) hnone

/-- A shot is added under a handle that nothing has had before. -/
theorem launch {owner : ActorId} {degrees power : Float} {weapon : WeaponId} {handle : Nat}
    (h : Lineage b₀ handed shots deeds b)
    (hl : b.launch? owner degrees power weapon = some (handle, b')) :
    Lineage b₀ handed (shots ++ [handle]) deeds b' := by
  have htidy := launch?_tidy h.tidy hl
  obtain ⟨rfl, hnext, p, kind, hentries, hevents⟩ := launch?_adds hl
  -- The handle of the shot is not one of an earlier shot, whose handles are all below `next`.
  have hnew : b.roster.next ∉ shots := fun hn => absurd (h.shots_range _ hn).2 (Nat.lt_irrefl _)
  have hborn := h.born
  obtain ⟨before, hbefore, hbroods⟩ := h.told
  constructor
  case tidy => exact htidy
  case told =>
    refine ⟨before ++ [.launched owner weapon kind], ?_, ?_⟩
    · rw [hevents, ← List.append_assoc, hbefore, List.append_assoc]
    · rw [Event.broods_append, hbroods]
      exact List.append_nil _
  case shots_nodup =>
    refine List.nodup_append.2 ⟨h.shots_nodup, List.nodup_singleton _, ?_⟩
    intro m hm n hn heq
    rw [heq, List.mem_singleton.1 hn] at hm
    exact hnew hm
  case shots_range =>
    intro n hn
    obtain hn | hn := List.mem_append.1 hn
    · have := h.shots_range n hn
      omega
    · rw [List.mem_singleton.1 hn]
      omega
  case modest =>
    intro d hd
    obtain hnone | ⟨hin, hrest⟩ := h.modest d hd
    · exact .inl hnone
    · exact .inr ⟨List.mem_append_left _ hin, hrest⟩
  case spent_nodup => exact h.spent_nodup
  case fertile =>
    intro e he hf
    rw [hentries] at he
    obtain he | he := List.mem_append.1 he
    · obtain ⟨hin, hout⟩ := h.fertile e he hf
      exact ⟨List.mem_append_left _ hin, hout⟩
    · rw [List.mem_singleton.1 he]
      exact ⟨List.mem_append_right _ (List.mem_singleton_self _),
        fun hspent => hnew (h.spent_subset hspent)⟩
  case born =>
    rw [hnext, List.length_append, List.length_singleton]
    omega

/-- A step adds its deeds. -/
theorem step (h : Lineage b₀ handed shots deeds b) (hs : b.step = .ok b') :
    Lineage b₀ handed shots (deeds ++ b.stepDeeds) b' := by
  obtain ⟨moved, arena, hall, ha, hperm, hnext⟩ := step_stepAll h.tidy.row hs
  obtain ⟨hbefore, hafter, hevents, hmodest, specs, hspawns, hbarren, hcount⟩ :=
    Arena.stepAll_deeds hall
  change b.stepDeeds.map _ = _ at hbefore
  change b.stepDeeds.map _ = _ at hafter
  change arena.events.toList = b.arena.events.toList ++ b.stepDeeds.flatMap Deed.told at hevents
  change ∀ d ∈ b.stepDeeds, d.Modest at hmodest
  change specs.length = Deed.offspring b.stepDeeds at hcount
  have hasked : arena.spawns.toList = specs := by
    rw [hspawns, show b.redraw.arena.spawns = #[] from h.tidy.spawns]
    simp
  have hhandles : b.stepDeeds.map Deed.handle = b.roster.handles := by
    rw [Roster.handles, ← hbefore, List.map_map]
    rfl
  have hnodup : (b.stepDeeds.map Deed.handle).Nodup := hhandles ▸ h.tidy.row.nodup
  -- Whoever has a brood was fertile before the step, and therefore a shot that had none.
  have hspends : ∀ d ∈ b.stepDeeds, d.before.Fertile →
      d.handle ∈ shots ∧ d.handle ∉ Deed.spent deeds := by
    intro d hd hf
    refine h.fertile (d.handle, d.before) ?_ hf
    rw [← hbefore]
    exact List.mem_map_of_mem (f := fun d : Deed => (d.handle, d.before)) hd
  obtain ⟨before, htold, hbroods⟩ := h.told
  have hborn := h.born
  have hsize : arena.spawns.size = specs.length := by rw [← hasked, Array.length_toList]
  constructor
  case tidy => exact step_tidy h.tidy hs
  case told =>
    refine ⟨before ++ b.stepDeeds.flatMap Deed.told, ?_, ?_⟩
    · rw [ha]
      show handed ++ arena.events.toList = _
      rw [hevents, ← List.append_assoc, htold, List.append_assoc]
    · rw [Event.broods_append, hbroods, Event.broods_flatMap, List.flatMap_append]
      rfl
  case shots_nodup => exact h.shots_nodup
  case shots_range =>
    intro n hn
    have := h.shots_range n hn
    omega
  case modest =>
    intro d hd
    obtain hd | hd := List.mem_append.1 hd
    · exact h.modest d hd
    · obtain hnone | ⟨hf, hrest⟩ := (hmodest d hd).once
      · exact .inl hnone
      · exact .inr ⟨(hspends d hd hf).1, hrest⟩
  case spent_nodup =>
    rw [Deed.spent_append, List.nodup_append]
    refine ⟨h.spent_nodup, hnodup.sublist (List.filter_sublist.map Deed.handle), ?_⟩
    intro m hm n hn heq
    obtain ⟨d, hd, hb, rfl⟩ := Deed.mem_spent.1 hn
    obtain ⟨hf, _⟩ := (hmodest d hd).once.resolve_left hb
    exact (hspends d hd hf).2 (heq ▸ hm)
  case fertile =>
    intro e he hf
    obtain he | he := List.mem_append.1 (hperm.mem_iff.1 he)
    · -- One that is left of the row was there before, as a shot without a brood.
      obtain ⟨he, hactive⟩ := List.mem_filter.1 he
      rw [← hafter] at he
      obtain ⟨d, hd, rfl⟩ := List.mem_map.1 he
      obtain ⟨hin, hout⟩ := hspends d hd ((hmodest d hd).stock.fertile hf)
      refine ⟨hin, ?_⟩
      rw [Deed.spent_append, List.mem_append]
      rintro (hold | hnew)
      · exact hout hold
      · -- It has had no brood in this step either, because it goes on.
        obtain ⟨d', hd', hb, heq⟩ := Deed.mem_spent.1 hnew
        obtain rfl := List.inj_on_of_nodup_map hnodup hd' hd heq
        obtain ⟨_, hends, _⟩ := (hmodest d' hd').once.resolve_left hb
        exact absurd (hactive.symm.trans (by simpa using hends)) (by decide)
    · -- The new ones are all barren.
      exfalso
      have hm := List.mem_map_of_mem (f := Prod.snd) he
      rw [Roster.projectiles_freshFrom, hasked] at hm
      obtain ⟨s, hs, hes⟩ := List.mem_map.1 hm
      exact hbarren s hs (hes ▸ hf)
  case born =>
    rw [Deed.offspring_append]
    omega

/-- So do the steps of a frame. -/
theorem stepWhileFlying {n : Nat} (h : Lineage b₀ handed shots deeds b)
    (hs : Battle.stepWhileFlying n b = .ok b') :
    Lineage b₀ handed shots (deeds ++ deedsWhileFlying n b) b' := by
  induction n generalizing b deeds with
  | zero =>
    obtain rfl := Except.ok.inj hs
    rwa [deedsWhileFlying, List.append_nil]
  | succ n ih =>
    rw [Battle.stepWhileFlying] at hs
    rw [deedsWhileFlying]
    split at hs
    · -- The deeds of the first step come before those of the others.
      rename_i hfly
      obtain ⟨b₁, hb, hs⟩ := Fault.bind_ok hs
      rw [if_pos hfly, hb, ← List.append_assoc]
      exact ih (h.step hb) hs
    · rename_i hfly
      obtain rfl := Except.ok.inj hs
      rwa [if_neg hfly, List.append_nil]

/-- So does a frame; falls make no projectiles. -/
theorem tick {es : List Event} (h : Lineage b₀ handed shots deeds b)
    (ht : b.tick = .ok (es, b')) :
    Lineage b₀ (handed ++ es) shots
      (deeds ++ deedsWhileFlying b.arena.config.stepsPerFrame b) b' := by
  obtain ⟨flown, fallen, hf, hd, rfl, rfl⟩ := tick_cases ht
  have hflown := h.stepWhileFlying hf
  -- Neither the explosions nor the falls have projectiles in them.
  have hboom : Lineage b₀ handed shots
      (deeds ++ deedsWhileFlying b.arena.config.stepsPerFrame b) flown.stepExplosions := by
    rw [← List.append_nil handed]
    exact hflown.idle [] [] rfl rfl (List.append_nil _).symm rfl
  have hfallen : Lineage b₀ handed shots
      (deeds ++ deedsWhileFlying b.arena.config.stepsPerFrame b) fallen := by
    obtain ⟨_, falling, hd⟩ | ⟨_, rfl⟩ := hd
    · exact hboom.stepFalling hd
    · exact hboom
  exact hfallen.idle _ [] rfl rfl rfl rfl

end Lineage

namespace Call

variable {b₀ b b' : Battle} {handed es : List Event} {shots : List Nat} {deeds : List Deed}

/-- Every call of a match keeps the lineage, with the shot or the deeds that it adds. -/
theorem perform_lineage {c : Call} (hc : c.OfMatch) (h : Lineage b₀ handed shots deeds b)
    (hp : c.perform b = .ok (es, b')) :
    Lineage b₀ (handed ++ es) (shots ++ c.shots b) (deeds ++ c.deeds b) b' := by
  -- Between the shots and the steps nothing is added.
  have idle (told : List Event) (hs : c.shots b = []) (hd : c.deeds b = [])
      (hr : b'.roster = b.roster) (ha : b'.arena.spawns = b.arena.spawns)
      (he : es ++ b'.arena.events.toList = b.arena.events.toList ++ told)
      (hb : Event.broods told = []) :
      Lineage b₀ (handed ++ es) (shots ++ c.shots b) (deeds ++ c.deeds b) b' := by
    rw [hs, hd, List.append_nil, List.append_nil]
    exact h.idle _ told hr ha he hb
  cases c with
  | setArsenal | addActor =>
    obtain ⟨rfl, rfl⟩ := Prod.mk.inj (Except.ok.inj hp)
    exact idle [] rfl rfl rfl rfl (List.append_nil _).symm rfl
  | placeActors count =>
    obtain ⟨r, hr, hp⟩ := Fault.bind_ok hp
    obtain ⟨rfl, rfl⟩ := Prod.mk.inj (Except.ok.inj hp)
    obtain ⟨placed, _, hr⟩ := Fault.bind_ok hr
    obtain rfl := Except.ok.inj hr
    exact idle [] rfl rfl rfl rfl (List.append_nil _).symm rfl
  | launch owner degrees power weapon =>
    simp only [perform] at hp
    split at hp <;> obtain ⟨rfl, rfl⟩ := Prod.mk.inj (Except.ok.inj hp)
    · rename_i handle _ hl
      have hshots : Call.shots b (launch owner degrees power weapon) = [handle] := by
        simp only [Call.shots, hl]
      have hdeeds : Call.deeds b (launch owner degrees power weapon) = [] := rfl
      rw [hshots, hdeeds, List.append_nil, List.append_nil]
      exact h.launch hl
    · rename_i hl
      exact idle [] (by simp only [Call.shots, hl]) rfl rfl rfl
        (List.append_nil _).symm rfl
  | step =>
    obtain ⟨r, hr, hp⟩ := Fault.bind_ok hp
    obtain ⟨rfl, rfl⟩ := Prod.mk.inj (Except.ok.inj hp)
    have hshots : Call.shots b step = [] := rfl
    rw [hshots, List.append_nil, List.append_nil]
    exact h.step hr
  | tick =>
    have hshots : Call.shots b tick = [] := rfl
    rw [hshots, List.append_nil]
    exact h.tick hp
  | changeWind =>
    obtain ⟨r, hr, hp⟩ := Fault.bind_ok hp
    obtain ⟨rfl, rfl⟩ := Prod.mk.inj (Except.ok.inj hp)
    obtain ⟨wind, _, hr⟩ := Fault.bind_ok hr
    obtain rfl := Except.ok.inj hr
    exact idle _ rfl rfl rfl rfl (Array.toList_appendList ..) rfl
  | _ => exact hc.elim

/-- Any number of calls of a match keep the lineage. -/
theorem performAll_lineage {cs : List Call} (hcs : ∀ c ∈ cs, c.OfMatch)
    (h : Lineage b₀ handed shots deeds b) (hp : performAll cs b = .ok (es, b')) :
    Lineage b₀ (handed ++ es) (shots ++ along Call.shots cs b) (deeds ++ along Call.deeds cs b)
      b' := by
  induction cs generalizing b handed shots deeds es with
  | nil =>
    obtain ⟨rfl, rfl⟩ := Prod.mk.inj (Except.ok.inj hp)
    simpa [along] using h
  | cons c cs ih =>
    obtain ⟨hc, hcs⟩ := List.forall_mem_cons.1 hcs
    obtain ⟨⟨first, b₁⟩, h₁, hp⟩ := Fault.bind_ok hp
    obtain ⟨⟨later, b₂⟩, h₂, hp⟩ := Fault.bind_ok hp
    obtain ⟨rfl, rfl⟩ := Prod.mk.inj (Except.ok.inj hp)
    -- What the first call hands over, shoots and does comes before all the rest.
    have hrest := ih hcs (perform_lineage hc h h₁) h₂
    simp only [along, h₁]
    simpa only [List.append_assoc] using hrest

end Call

/-- There are no chain reactions.  In a match that starts without projectiles every brood that is
told of is that of a shot, which ends with it; a shot has one brood at most, of twenty at most; and
all projectiles that are made are the shots and their broods. -/
theorem no_chain_reactions {b b' : Battle} {cs : List Call} {handed : List Event}
    (empty : b.roster.entries = #[]) (nobody : b.arena.spawns = #[])
    (ofMatch : ∀ c ∈ cs, c.OfMatch) (h : Call.performAll cs b = .ok (handed, b')) :
    let shots := Call.along Call.shots cs b
    let deeds := Call.along Call.deeds cs b
    (∃ told, handed ++ b'.arena.events.toList = b.arena.events.toList ++ told ∧
      Event.broods told = deeds.flatMap Deed.broods) ∧
    (∀ d ∈ deeds, d.broods = [] ∨
      d.handle ∈ shots ∧ d.after.active = false ∧ ∃ n ≤ 20, d.broods = [n]) ∧
    (∀ n, ((deeds.filter (·.handle = n)).flatMap Deed.broods).length ≤ 1) ∧
    shots.Nodup ∧ (∀ n ∈ shots, b.roster.next ≤ n ∧ n < b'.roster.next) ∧
    b'.roster.next = b.roster.next + shots.length + (deeds.flatMap Deed.broods).sum ∧
    b'.roster.next ≤ b.roster.next + 21 * shots.length := by
  intro shots deeds
  have hstart : Lineage b [] [] [] b := by
    have tidy : b.Tidy := by
      refine ⟨⟨?_, ?_⟩, nobody⟩ <;> simp [Roster.handles, empty]
    exact {
      tidy := tidy
      told := ⟨[], (List.append_nil _).symm, rfl⟩
      shots_nodup := List.nodup_nil
      shots_range := List.forall_mem_nil _
      modest := List.forall_mem_nil _
      spent_nodup := List.nodup_nil
      fertile := by simp [empty]
      born := rfl }
  have hend : Lineage b handed shots deeds b' := Call.performAll_lineage ofMatch hstart h
  have honce : ∀ d ∈ deeds, d.broods = [] ∨ ∃ n ≤ maxBrood, d.broods = [n] :=
    fun d hd => (hend.modest d hd).imp_right fun hshot => hshot.2.2
  refine ⟨hend.told, hend.modest, fun n => ?_, hend.shots_nodup, hend.shots_range, hend.born, ?_⟩
  · rw [Deed.length_broods_of honce]
    exact List.nodup_iff_count_le_one.1 hend.spent_nodup n
  · -- Each shot is spent once, and the broods are no larger than the largest.
    have hspent : (Deed.spent deeds).length ≤ shots.length :=
      (List.subperm_of_subset hend.spent_nodup hend.spent_subset).length_le
    have hbroods := Deed.offspring_le honce
    have hborn := hend.born
    have hmost : maxBrood * (Deed.spent deeds).length ≤ 20 * shots.length :=
      Nat.mul_le_mul_left maxBrood hspent
    omega

/-- Whether a call tries to fire a shot. -/
def Call.isLaunch : Call → Bool
  | launch .. => true
  | _ => false

/-- No more shots are fired than are tried. -/
theorem Call.length_shots_le (cs : List Call) (b : Battle) :
    (along shots cs b).length ≤ cs.countP isLaunch := by
  induction cs generalizing b with
  | nil => exact Nat.le_refl 0
  | cons c cs ih =>
    -- Only a launch shoots, and it shoots once.
    have hfirst : (shots b c).length ≤ if c.isLaunch then 1 else 0 := by
      cases c with
      | launch owner degrees power weapon =>
        simp only [shots]
        split <;> simp [isLaunch]
      | _ => exact Nat.le_refl 0
    rw [along, List.length_append, List.countP_cons]
    split
    · rename_i b' _
      have := ih b'
      omega
    · rw [List.length_nil]
      omega

/-- A small field with a hill. -/
def pit : Battle :=
  assemble closeQuarters ((Raster.blank 41 55).fillDisc 20 50 10) (.ofSeed 0)

/-- A tank on the hill fires napalm straight up, and waits. -/
def inferno : List Call :=
  [.addActor (.fresh 0 20 40), .launch 0 90 0 9] ++ List.replicate 40 .tick

/-- The canister and its fire make no more than 21 projectiles. -/
theorem no_chain_reactions_inferno :
    pit.roster.entries = #[] ∧ pit.arena.spawns = #[] ∧ (∀ c ∈ inferno, c.OfMatch) ∧
      ∃ handed b', Call.performAll inferno pit = .ok (handed, b') ∧ b'.roster.next ≤ 21 := by
  have hcalls : ∀ c ∈ inferno, c.OfMatch := by
    simp [inferno, Call.OfMatch]
  have hvalid : closeQuarters.validate = .ok () := rfl
  have room : Room 41 55 := Room.of_checkScreen rfl
  obtain ⟨handed, b', hb, _⟩ :=
    Call.performAll_guarded (b := pit) (assemble_guarded hvalid room _) inferno
  obtain ⟨_, _, _, _, _, _, hmost⟩ := no_chain_reactions (b := pit) rfl rfl hcalls hb
  refine ⟨rfl, rfl, hcalls, handed, b', hb, Nat.le_trans hmost ?_⟩
  -- One launch makes one shot and at most a brood of twenty.
  have hshots := Call.length_shots_le inferno pit
  have hone : inferno.countP Call.isLaunch = 1 := by decide
  have hfresh : pit.roster.next = 0 := rfl
  omega

end Battle

end Artillery
