import Artillery.Proofs.Arena.Guidance
import Artillery.Proofs.Battle.Careers

/-!
# How a run unfolds

Whatever is called, a battle goes on by steps of flight and by interludes.  In an interlude the field
changes in any way, projectiles join the row, and those that are in it may be moved or end; but none of
them changes its aim, and nothing is told of locks.

## Key results

- `Moves.no_shot`: no projectile tells of a shot
- `Interlude`: what may happen between two steps
- `perform_unfolds`, `performAll_unfolds`: every run unfolds, with its shots and deeds
- `Unfolds.books`: the locks that are told of are those of the deeds, and there is one event for each
  shot
-/

namespace Artillery

namespace Event

/-- Whether an event tells of a shot. -/
def isShot : Event → Bool
  | launched .. => true
  | _ => false

theorem isShot_of_isWork {e : Event} (h : e.isWork = true) : e.isShot = false := by
  cases e with
  | launched => exact nomatch h
  | _ => rfl

theorem countP_isShot_eq_zero {es : List Event} (h : ∀ e ∈ es, e.isShot = false) :
    es.countP isShot = 0 :=
  List.countP_eq_zero.2 fun e he => ne_true_of_eq_false (h e he)

end Event

open Event

namespace Arena

variable {a a' : Arena} {es : List Event}

/-- No move of the arena is told as a shot. -/
theorem Move.no_shot (h : Move a es a') : ∀ e ∈ es, e.isShot = false := by
  intro e he
  cases h with
  | draw => exact nomatch he
  | shock s carried =>
    obtain ⟨_, _, _, rfl⟩ | ⟨_, rfl⟩ | ⟨_, rfl⟩ := DamageReport.mem_events he <;> rfl
  | deflect =>
    obtain rfl | he := List.mem_cons.1 he
    · rfl
    · split at he
      · exact List.mem_singleton.1 he ▸ rfl
      · exact absurd he List.not_mem_nil
  | _ => exact List.mem_singleton.1 he ▸ rfl

/-- Projectiles do not tell of shots. -/
theorem Moves.no_shot (h : Moves a es a') : ∀ e ∈ es, e.isShot = false := by
  induction h with
  | nil => exact List.forall_mem_nil _
  | cons h _ ih => exact fun e he => (List.mem_append.1 he).elim (h.no_shot e) (ih e)

end Arena

namespace Roster

theorem mem_freshFrom {n : Nat} {specs : List ProjectileSpec} {e : Nat × Projectile}
    (h : e ∈ freshFrom n specs) : n ≤ e.1 ∧ ∃ s ∈ specs, e.2 = .ofSpec s := by
  induction specs generalizing n with
  | nil => exact nomatch h
  | cons s specs ih =>
    obtain rfl | h := List.mem_cons.1 h
    · exact ⟨Nat.le_refl n, s, List.mem_cons_self, rfl⟩
    · obtain ⟨hn, t, ht, he⟩ := ih h
      exact ⟨by omega, t, List.mem_cons_of_mem s ht, he⟩

end Roster

namespace Battle

/-! ## Who is in the row -/

section Row

variable {b b' : Battle} {handle : Nat}

/-- Where one projectile acts on the arena, it stays in the row as it comes out of that, all others stay
as they are, and new ones join. -/
theorem withProjectile_entries {α : Type} {result : Option α}
    {act : Projectile → Arena → Except Fault (α × Projectile × Arena)}
    {R : Projectile → Projectile → Prop} (refl : ∀ p, R p p)
    (hact : ∀ p v q arena, act p b.arena = .ok (v, q, arena) → R p q)
    (h : b.withProjectile handle act = .ok (result, b')) :
    ∀ e ∈ b'.roster.entries.toList, (∃ p, (e.1, p) ∈ b.roster.entries.toList ∧ R p e.2) ∨
      b.roster.next ≤ e.1 ∧ ∃ s, e.2 = .ofSpec s := by
  rw [withProjectile] at h
  split at h
  · obtain ⟨rfl, rfl⟩ := Prod.mk.inj (Except.ok.inj h)
    exact fun e he => .inl ⟨e.2, he, refl e.2⟩
  · rename_i p r hr
    obtain ⟨⟨v, q, arena⟩, ha, h⟩ := Fault.bind_ok h
    obtain ⟨rfl, rfl⟩ := Prod.mk.inj (Except.ok.inj h)
    obtain ⟨hperm, hnext⟩ := Roster.take?_perm hr
    intro e he
    have hin : e ∈ (r.entries.toList ++ [(handle, q)]) ++
        Roster.freshFrom r.next arena.spawns.toList := by
      rw [← Roster.entries_put]
      exact (Roster.entries_addAll (r.put handle q) arena.spawns.toList).1 ▸ he
    -- In the row there are the others, the projectile as it is now, and what it has spawned.
    obtain hin | hin := List.mem_append.1 hin
    · obtain hin | hin := List.mem_append.1 hin
      · exact .inl ⟨e.2, hperm.subset (List.mem_cons_of_mem _ hin), refl e.2⟩
      · rw [List.mem_singleton.1 hin]
        exact .inl ⟨p, hperm.subset List.mem_cons_self, hact p v q arena ha⟩
    · obtain ⟨hn, s, _, hs⟩ := Roster.mem_freshFrom hin
      exact .inr ⟨hnext ▸ hn, s, hs⟩

/-- A single flight moves the projectile that is found under the handle, and nobody else. -/
theorem advance_entries {status : Option FlightStatus} (h : b.advance handle = .ok (status, b')) :
    ∀ e ∈ b'.roster.entries.toList, e ∈ b.roster.entries.toList ∧ e.1 ≠ handle ∨
      e.1 = handle ∧ ∃ p s, (handle, p) ∈ b.roster.entries.toList ∧
        b.roster.find? handle = some p ∧
        p.advance b.arena.terrain b.arena.config b.arena.wind = .ok (s, e.2) := by
  rw [advance] at h
  split at h
  · rename_i hnone
    obtain ⟨rfl, rfl⟩ := Prod.mk.inj (Except.ok.inj h)
    simp only [Roster.find?, Option.map_eq_none_iff, Array.find?_eq_none] at hnone
    exact fun e he => .inl ⟨he, by simpa using hnone e (Array.mem_toList_iff.1 he)⟩
  · rename_i p hp
    obtain ⟨⟨s, q⟩, hm, h⟩ := Fault.bind_ok h
    obtain ⟨rfl, rfl⟩ := Prod.mk.inj (Except.ok.inj h)
    intro e he
    -- The row keeps its order, and only the entry under the handle is replaced.
    simp only [Roster.update, Array.toList_map] at he
    obtain ⟨f, hf, rfl⟩ := List.mem_map.1 he
    split
    · have hin : (handle, p) ∈ b.roster.entries.toList := by
        obtain ⟨g, hg, rfl⟩ := Option.map_eq_some_iff.1 hp
        have hhandle : g.1 = handle := by simpa using Array.find?_some hg
        rw [← hhandle]
        exact Array.mem_toList_iff.2 (Array.mem_of_find?_eq_some hg)
      exact .inr ⟨rfl, p, s, hin, hp, hm⟩
    · rename_i hother
      exact .inl ⟨hf, hother⟩

/-- Who is in the row with one more projectile was there before, or is the new one. -/
theorem spawn_entries (b : Battle) (s : ProjectileSpec) :
    ∀ e ∈ (b.spawn s).2.roster.entries.toList, e ∈ b.roster.entries.toList ∨
      e = (b.roster.next, .ofSpec s) := by
  intro e he
  have hin : e ∈ b.roster.entries.toList ++ [(b.roster.next, .ofSpec s)] :=
    Roster.entries_put b.roster b.roster.next (.ofSpec s) ▸ he
  exact (List.mem_append.1 hin).imp_right List.mem_singleton.1

end Row

/-! ## Interludes -/

/-- What may happen between two steps, with the handles of the shots that are fired. -/
structure Interlude (handed told : List Event) (shots : List Nat) (b b' : Battle) : Prop where
  tidy : b.Tidy → b'.Tidy
  next_le : b.roster.next ≤ b'.roster.next
  events : handed ++ b'.arena.events.toList = b.arena.events.toList ++ told
  noLocks : locks told = []
  fired : told.countP isShot = shots.length
  /-- Whoever is in the row afterwards was there before, with the same aim, or is new; and who is new
  and no shot has no guidance. -/
  entries : ∀ e ∈ b'.roster.entries.toList,
    (∃ p, (e.1, p) ∈ b.roster.entries.toList ∧ p.SameAim e.2) ∨
      b.roster.next ≤ e.1 ∧ (e.1 ∈ shots ∨ e.2.guidance = none)

namespace Interlude

variable {b b' : Battle} {handed told : List Event} {handle : Nat}

/-- What leaves the row alone may change anything else, and tell of anything but shots and locks. -/
theorem of_field (hr : b'.roster = b.roster) (hs : b'.arena.spawns = b.arena.spawns)
    (he : handed ++ b'.arena.events.toList = b.arena.events.toList ++ told)
    (hl : ∀ e ∈ told, e.isLock = false) (hf : ∀ e ∈ told, e.isShot = false) :
    Interlude handed told [] b b' where
  tidy := fun tidy => tidy.congr hr hs
  next_le := Nat.le_of_eq (congrArg Roster.next hr.symm)
  events := he
  noLocks := locks_eq_nil hl
  fired := countP_isShot_eq_zero hf
  entries := fun e he => .inl ⟨e.2, hr ▸ he, .refl e.2⟩

/-- So may what tells of nothing. -/
theorem of_silent (hr : b'.roster = b.roster) (hs : b'.arena.spawns = b.arena.spawns)
    (he : b'.arena.events = b.arena.events) : Interlude [] [] [] b b' :=
  .of_field hr hs (by rw [he]; simp) (List.forall_mem_nil _) (List.forall_mem_nil _)

/-- A launch fires one shot, tells of it, and locks nothing. -/
theorem launch {owner : ActorId} {degrees power : Float} {weapon : WeaponId}
    (h : b.launch? owner degrees power weapon = some (handle, b')) :
    ∃ kind, Interlude [] [.launched owner weapon kind] [handle] b b' := by
  obtain ⟨rfl, hnext, p, kind, hentries, hevents⟩ := launch?_adds h
  refine ⟨kind, fun tidy => launch?_tidy tidy h, by omega, hevents, rfl, rfl, fun e he => ?_⟩
  rw [hentries] at he
  obtain he | he := List.mem_append.1 he
  · exact .inl ⟨e.2, he, .refl e.2⟩
  · rw [List.mem_singleton.1 he]
    exact .inr ⟨Nat.le_refl _, .inl (List.mem_singleton_self _)⟩

/-- A projectile that is put into the row by hand is no shot and carries no guidance. -/
theorem spawn (b : Battle) (s : ProjectileSpec) : Interlude [] [] [] b (b.spawn s).2 where
  tidy := fun tidy => ⟨tidy.row.add _, tidy.spawns⟩
  next_le := Nat.le_succ _
  events := (List.append_nil _).symm
  noLocks := rfl
  fired := rfl
  entries := fun e he => by
    obtain hin | rfl := spawn_entries b s e he
    · exact .inl ⟨e.2, hin, .refl e.2⟩
    · exact .inr ⟨Nat.le_refl _, .inr rfl⟩

/-- What is done with a single projectile leaves its aim alone. -/
theorem withProjectile {α : Type} {result : Option α}
    {act : Projectile → Arena → Except Fault (α × Projectile × Arena)}
    (hact : ∀ p v q arena, act p b.arena = .ok (v, q, arena) →
      p.SameAim q ∧ Arena.Tells isWork b.arena arena)
    (h : b.withProjectile handle act = .ok (result, b')) : ∃ told, Interlude [] told [] b b' := by
  have tidy := fun tidy => withProjectile_tidy tidy h
  have onward := Onward.withProjectile h
  have entries := withProjectile_entries Projectile.SameAim.refl
    (fun p v q arena ha => (hact p v q arena ha).1) h
  rw [Battle.withProjectile] at h
  split at h
  · obtain ⟨rfl, rfl⟩ := Prod.mk.inj (Except.ok.inj h)
    exact ⟨[], .of_silent rfl rfl rfl⟩
  · rename_i p r hr
    obtain ⟨⟨v, q, arena⟩, ha, h⟩ := Fault.bind_ok h
    obtain ⟨rfl, rfl⟩ := Prod.mk.inj (Except.ok.inj h)
    -- What is told is work, among which there is neither a lock nor a shot.
    obtain ⟨_, told, htold, hwork⟩ := hact p v q arena ha
    exact ⟨told, tidy, onward.next_le, htold,
      locks_eq_nil fun e he => isLock_of_isWork (hwork e he),
      countP_isShot_eq_zero fun e he => isShot_of_isWork (hwork e he),
      fun e he => (entries e he).imp_right fun hnew =>
        ⟨hnew.1, hnew.2.elim fun s hs => .inr (hs ▸ rfl)⟩⟩

/-- A single flight by hand tells of nothing. -/
theorem advance {status : Option FlightStatus} (h : b.advance handle = .ok (status, b')) :
    Interlude [] [] [] b b' where
  tidy := fun tidy => advance_tidy tidy h
  next_le := (Onward.advance h).next_le
  events := by
    rw [advance_arena h]
    exact (List.append_nil _).symm
  noLocks := rfl
  fired := rfl
  entries := fun e he => by
    obtain ⟨hin, _⟩ | ⟨hhandle, p, s, hp, _, hm⟩ := advance_entries h e he
    · exact .inl ⟨e.2, hin, .refl e.2⟩
    · exact .inl ⟨p, hhandle ▸ hp, Projectile.advance_aim hm⟩

/-- A frame of falling concerns no projectile. -/
theorem stepFalling {falling : Bool} (h : b.stepFalling = .ok (falling, b')) :
    ∃ told, Interlude [] told [] b b' := by
  obtain ⟨_, rfl⟩ | ⟨_, actors, terrain, events, hfall, rfl⟩ := stepFalling_cases h
  · exact ⟨[], .of_silent rfl rfl rfl⟩
  · have htold := Falling.step_isFall hfall
    refine ⟨events, .of_field rfl rfl (Array.toList_appendList ..) (fun e he => ?_) fun e he => ?_⟩
    all_goals
      have := htold e he
      cases e <;> first | rfl | exact nomatch this

end Interlude

/-! ## Unfolding -/

/-- A battle goes on by steps and interludes: the events that are handed over and those that are told,
the handles of the shots and the deeds of the steps, in order. -/
inductive Unfolds : Battle → List Event → List Event → List Nat → List Deed → Battle → Prop
  | nil (b : Battle) : Unfolds b [] [] [] [] b
  | interlude {b b₁ b' : Battle} {handed later told after : List Event} {shots others : List Nat}
      {ds : List Deed} (h : Interlude handed told shots b b₁)
      (hs : Unfolds b₁ later after others ds b') :
      Unfolds b (handed ++ later) (told ++ after) (shots ++ others) ds b'
  | step {b b₁ b' : Battle} {later after : List Event} {shots : List Nat} {ds : List Deed}
      (h : b.step = .ok b₁) (hs : Unfolds b₁ later after shots ds b') :
      Unfolds b later (b.stepDeeds.flatMap Deed.told ++ after) shots (b.stepDeeds ++ ds) b'

namespace Unfolds

variable {b b₁ b' : Battle} {handed later told after : List Event} {shots others : List Nat}
  {ds fs : List Deed} {handle : Nat}

/-- What happens between steps is a run of its own. -/
theorem of_interlude (h : Interlude handed told shots b b') :
    Unfolds b handed told shots [] b' := by
  simpa using interlude h (.nil b')

/-- So is a single step, with its deeds. -/
theorem of_step (h : b.step = .ok b') :
    Unfolds b [] (b.stepDeeds.flatMap Deed.told) [] b.stepDeeds b' := by
  simpa using step h (.nil b')

/-- Runs follow one another. -/
theorem trans (h₁ : Unfolds b handed told shots ds b₁) (h₂ : Unfolds b₁ later after others fs b') :
    Unfolds b (handed ++ later) (told ++ after) (shots ++ others) (ds ++ fs) b' := by
  induction h₁ with
  | nil => exact h₂
  | interlude h _ ih =>
    simp only [List.append_assoc]
    exact interlude h (ih h₂)
  | step h _ ih =>
    simp only [List.append_assoc]
    exact step h (ih h₂)

/-- A run leaves the row tidy. -/
theorem tidy (h : Unfolds b handed told shots ds b') (tidy : b.Tidy) : b'.Tidy := by
  induction h with
  | nil => exact tidy
  | interlude h _ ih => exact ih (h.tidy tidy)
  | step h _ ih => exact ih (step_tidy tidy h)

/-- The events that are told of a step are those of its deeds. -/
theorem step_told (tidy : b.Tidy) (h : b.step = .ok b') :
    b'.arena.events.toList = b.arena.events.toList ++ b.stepDeeds.flatMap Deed.told ∧
      (b.stepDeeds.flatMap Deed.told).countP isShot = 0 := by
  obtain ⟨moved, arena, hall, ha, _⟩ := step_stepAll tidy.row h
  obtain ⟨_, _, hevents, _⟩ := Arena.stepAll_deeds hall
  change arena.events.toList = b.arena.events.toList ++ b.stepDeeds.flatMap Deed.told at hevents
  obtain ⟨es, arena', hmoves, ha', _⟩ := step_moves h
  have hsame := congrArg Arena.events (ha'.symm.trans ha)
  dsimp only at hsame
  -- The moves of the step tell the same events.
  have htold : es = b.stepDeeds.flatMap Deed.told := by
    have hes : arena'.events.toList = b.arena.events.toList ++ es := hmoves.events
    rw [hsame, hevents] at hes
    exact (List.append_cancel_left hes).symm
  rw [ha]
  exact ⟨hevents, htold ▸ countP_isShot_eq_zero hmoves.no_shot⟩

/-- The books of a run: the locks are those of the deeds, and there is one event for each shot. -/
theorem books (h : Unfolds b handed told shots ds b') (tidy : b.Tidy) :
    handed ++ b'.arena.events.toList = b.arena.events.toList ++ told ∧
      locks told = ds.flatMap (fun d => locks d.told) ∧ told.countP isShot = shots.length := by
  -- What happens between steps has no locks but may fire; a step may lock but does not fire.
  induction h with
  | nil b => exact ⟨(List.append_nil _).symm, rfl, rfl⟩
  | interlude h _ ih =>
    obtain ⟨hevents, hlocks, hshots⟩ := ih (h.tidy tidy)
    refine ⟨?_, ?_, ?_⟩
    · rw [List.append_assoc, hevents, ← List.append_assoc, h.events, List.append_assoc]
    · rw [locks_append, h.noLocks, hlocks, List.nil_append]
    · rw [List.countP_append, h.fired, hshots, List.length_append]
  | step h _ ih =>
    obtain ⟨hevents, hlocks, hshots⟩ := ih (step_tidy tidy h)
    obtain ⟨hfirst, hnone⟩ := step_told tidy h
    refine ⟨?_, ?_, ?_⟩
    · rw [hevents, hfirst, List.append_assoc]
    · rw [locks_append, locks_flatMap, hlocks, List.flatMap_append]
    · rw [List.countP_append, hnone, hshots, Nat.zero_add]

/-- A handle that is not in the row any more has no deeds and does not come back. -/
theorem gone (h : Unfolds b handed told shots ds b') (tidy : b.Tidy)
    (known : handle < b.roster.next) (gone : handle ∉ b.roster.handles) :
    ds.filter (·.handle = handle) = [] ∧ handle ∉ b'.roster.handles := by
  -- Only new projectiles join the row, and their handles are not below `next`.
  induction h with
  | nil => exact ⟨rfl, gone⟩
  | interlude h _ ih =>
    refine ih (h.tidy tidy) (Nat.lt_of_lt_of_le known h.next_le) fun hback => ?_
    obtain ⟨e, he, rfl⟩ := List.mem_map.1 hback
    obtain ⟨p, hp, _⟩ | ⟨hnew, _⟩ := h.entries e he
    · exact gone (List.mem_map.2 ⟨_, hp, rfl⟩)
    · omega
  | step h _ ih =>
    obtain ⟨hnone, hstays⟩ := step_gone tidy h gone known
    obtain ⟨_, _, _, _, _, hnext⟩ := step_stepAll tidy.row h
    obtain ⟨hlater, hend⟩ := ih (step_tidy tidy h) (by omega) hstays
    rw [List.filter_append, hnone, hlater]
    exact ⟨rfl, hend⟩

/-! ## Calls -/

/-- So does any number of steps of flight. -/
theorem of_stepWhileFlying {n : Nat} (h : Battle.stepWhileFlying n b = .ok b') :
    ∃ told, Unfolds b [] told [] (deedsWhileFlying n b) b' := by
  -- The deeds are counted along the same recursion as the steps.
  induction n generalizing b with
  | zero =>
    obtain rfl := Except.ok.inj h
    exact ⟨[], .nil b⟩
  | succ n ih =>
    rw [Battle.stepWhileFlying] at h
    rw [deedsWhileFlying]
    split at h
    · rename_i hfly
      obtain ⟨b₁, hb, h⟩ := Fault.bind_ok h
      obtain ⟨told, hrest⟩ := ih h
      rw [if_pos hfly, hb]
      exact ⟨_, .step hb hrest⟩
    · rename_i hfly
      obtain rfl := Except.ok.inj h
      rw [if_neg hfly]
      exact ⟨[], .nil b⟩

/-- So does a frame: steps of flight, explosions, falls, and handing out what has been told. -/
theorem of_tick {handed : List Event} (h : b.tick = .ok (handed, b')) :
    ∃ told, Unfolds b handed told []
      (deedsWhileFlying b.arena.config.stepsPerFrame b) b' := by
  obtain ⟨flown, fallen, hf, hd, rfl, rfl⟩ := tick_cases h
  obtain ⟨told, hflown⟩ := of_stepWhileFlying hf
  have hboom : Unfolds flown [] [] [] [] flown.stepExplosions :=
    of_interlude (.of_silent rfl rfl rfl)
  have hfallen : ∃ after, Unfolds flown.stepExplosions [] after [] [] fallen := by
    obtain ⟨_, falling, hd⟩ | ⟨_, rfl⟩ := hd
    · obtain ⟨after, hfall⟩ := Interlude.stepFalling hd
      exact ⟨after, of_interlude hfall⟩
    · exact ⟨[], .nil _⟩
  obtain ⟨after, hfallen⟩ := hfallen
  -- What has been told is handed out in the end, which is an interlude of its own.
  have hdrain : Unfolds fallen fallen.arena.events.toList [] [] [] { fallen with
      arena := { fallen.arena with events := #[] }
      clock := fallen.clock.tickFrame } :=
    of_interlude (.of_field rfl rfl rfl (List.forall_mem_nil _) (List.forall_mem_nil _))
  have hall := hflown.trans (hboom.trans (hfallen.trans hdrain))
  simp only [List.append_nil, List.nil_append] at hall
  exact ⟨_, hall⟩

end Unfolds

/-- Every call unfolds. -/
theorem Call.perform_unfolds {c : Call} {b b' : Battle} {handed : List Event}
    (h : c.perform b = .ok (handed, b')) :
    ∃ told, Unfolds b handed told (c.shots b) (c.deeds b) b' := by
  -- A call is an interlude, a step, or a frame, which is made of both.
  cases c with
  | setArsenal | setActors | addActor | stepExplosions | setWind =>
    obtain ⟨rfl, rfl⟩ := Prod.mk.inj (Except.ok.inj h)
    exact ⟨[], .of_interlude (.of_silent rfl rfl rfl)⟩
  | drain =>
    obtain ⟨rfl, rfl⟩ := Prod.mk.inj (Except.ok.inj h)
    exact ⟨[], .of_interlude
      (.of_field rfl rfl rfl (List.forall_mem_nil _) (List.forall_mem_nil _))⟩
  | spawn s =>
    obtain ⟨rfl, rfl⟩ := Prod.mk.inj (Except.ok.inj h)
    exact ⟨[], .of_interlude (.spawn b s)⟩
  | strikeActors center radius attacker carried =>
    obtain ⟨rfl, rfl⟩ := Prod.mk.inj (Except.ok.inj h)
    have hreport {e : Event} (he : e ∈ (b.strikeActors center radius attacker carried).1.events
        attacker) : e.isLock = false ∧ e.isShot = false := by
      obtain ⟨_, _, _, rfl⟩ | ⟨_, rfl⟩ | ⟨_, rfl⟩ := DamageReport.mem_events he <;> exact ⟨rfl, rfl⟩
    exact ⟨_, .of_interlude (.of_field rfl rfl (Array.toList_appendList ..)
      (fun e he => (hreport he).1) fun e he => (hreport he).2)⟩
  | launch owner degrees power weapon =>
    simp only [perform] at h
    split at h <;> obtain ⟨rfl, rfl⟩ := Prod.mk.inj (Except.ok.inj h)
    · rename_i handle _ hl
      obtain ⟨kind, hshot⟩ := Interlude.launch hl
      have hshots : Call.shots b (launch owner degrees power weapon) = [handle] := by
        simp only [Call.shots, hl]
      rw [hshots]
      exact ⟨_, .of_interlude hshot⟩
    · rename_i hl
      have hshots : Call.shots b (launch owner degrees power weapon) = [] := by
        simp only [Call.shots, hl]
      rw [hshots]
      exact ⟨[], .nil b⟩
  | tick => exact Unfolds.of_tick h
  | placeActors count =>
    obtain ⟨r, hr, h⟩ := Fault.bind_ok h
    obtain ⟨rfl, rfl⟩ := Prod.mk.inj (Except.ok.inj h)
    obtain ⟨placed, _, hr⟩ := Fault.bind_ok hr
    obtain rfl := Except.ok.inj hr
    exact ⟨[], .of_interlude (.of_silent rfl rfl rfl)⟩
  | onTerrain op =>
    obtain ⟨terrain, _, h⟩ := Fault.bind_ok h
    obtain ⟨rfl, rfl⟩ := Prod.mk.inj (Except.ok.inj h)
    exact ⟨[], .of_interlude (.of_silent rfl rfl rfl)⟩
  | changeWind =>
    obtain ⟨r, hr, h⟩ := Fault.bind_ok h
    obtain ⟨rfl, rfl⟩ := Prod.mk.inj (Except.ok.inj h)
    obtain ⟨wind, _, hr⟩ := Fault.bind_ok hr
    obtain rfl := Except.ok.inj hr
    exact ⟨[.windChanged wind], .of_interlude (.of_field rfl rfl (Array.toList_appendList ..)
      (List.forall_mem_singleton.2 rfl) (List.forall_mem_singleton.2 rfl))⟩
  | step =>
    obtain ⟨r, hr, h⟩ := Fault.bind_ok h
    obtain ⟨rfl, rfl⟩ := Prod.mk.inj (Except.ok.inj h)
    exact ⟨_, .of_step hr⟩
  | stepFalling =>
    obtain ⟨r, hr, h⟩ := Fault.bind_ok h
    obtain ⟨rfl, rfl⟩ := Prod.mk.inj (Except.ok.inj h)
    obtain ⟨told, hfall⟩ := Interlude.stepFalling hr
    exact ⟨told, .of_interlude hfall⟩
  | advance handle =>
    obtain ⟨r, hr, h⟩ := Fault.bind_ok h
    obtain ⟨rfl, rfl⟩ := Prod.mk.inj (Except.ok.inj h)
    exact ⟨[], .of_interlude (.advance hr)⟩
  | strike handle hit =>
    obtain ⟨r, hr, h⟩ := Fault.bind_ok h
    obtain ⟨rfl, rfl⟩ := Prod.mk.inj (Except.ok.inj h)
    obtain ⟨told, hpart⟩ := Interlude.withProjectile (fun p v q arena ha => by
      obtain ⟨_, hq⟩ := Prod.mk.inj (Except.ok.inj ha)
      obtain ⟨rfl, rfl⟩ := Prod.mk.inj hq
      exact ⟨p.strike_aim hit _ _, .refl _⟩) hr
    exact ⟨told, .of_interlude hpart⟩
  | applyImpact handle effect =>
    obtain ⟨r, hr, h⟩ := Fault.bind_ok h
    obtain ⟨rfl, rfl⟩ := Prod.mk.inj (Except.ok.inj h)
    obtain ⟨told, hpart⟩ := Interlude.withProjectile (fun p v q arena ha => by
      obtain ⟨_, hq⟩ := Prod.mk.inj (Except.ok.inj ha)
      obtain ⟨rfl, rfl⟩ := Prod.mk.inj hq
      exact ⟨Arena.applyImpact_aim _ _ _, Arena.applyImpact_tells _ _ _⟩) hr
    exact ⟨told, .of_interlude hpart⟩
  | fly handle =>
    obtain ⟨r, hr, h⟩ := Fault.bind_ok h
    obtain ⟨rfl, rfl⟩ := Prod.mk.inj (Except.ok.inj h)
    obtain ⟨told, hpart⟩ := Interlude.withProjectile (fun p v q arena ha => by
      obtain ⟨e, he, ha⟩ := Fault.bind_ok ha
      obtain ⟨_, hq⟩ := Prod.mk.inj (Except.ok.inj ha)
      obtain ⟨rfl, rfl⟩ := Prod.mk.inj hq
      exact ⟨Projectile.fly_aim he, .refl _⟩) hr
    exact ⟨told, .of_interlude hpart⟩
  | applyFlight handle effect =>
    obtain ⟨r, hr, h⟩ := Fault.bind_ok h
    obtain ⟨rfl, rfl⟩ := Prod.mk.inj (Except.ok.inj h)
    obtain ⟨told, hpart⟩ := Interlude.withProjectile (fun p v q arena ha => by
      obtain ⟨_, hq⟩ := Prod.mk.inj (Except.ok.inj ha)
      obtain ⟨rfl, rfl⟩ := Prod.mk.inj hq
      exact ⟨Arena.applyFlight_aim _ _ _, Arena.applyFlight_tells _ _ _⟩) hr
    exact ⟨told, .of_interlude hpart⟩

/-- So does every run. -/
theorem Call.performAll_unfolds {cs : List Call} {b b' : Battle} {handed : List Event}
    (h : performAll cs b = .ok (handed, b')) :
    ∃ told, Unfolds b handed told (along shots cs b) (along deeds cs b) b' := by
  induction cs generalizing b handed with
  | nil =>
    obtain ⟨rfl, rfl⟩ := Prod.mk.inj (Except.ok.inj h)
    exact ⟨[], .nil b⟩
  | cons c cs ih =>
    obtain ⟨⟨first, b₁⟩, h₁, h⟩ := Fault.bind_ok h
    obtain ⟨⟨later, b₂⟩, h₂, h⟩ := Fault.bind_ok h
    obtain ⟨rfl, rfl⟩ := Prod.mk.inj (Except.ok.inj h)
    obtain ⟨told, hfirst⟩ := perform_unfolds h₁
    obtain ⟨after, hrest⟩ := ih h₂
    -- What the calls add up to is read off along the battles in between.
    simp only [along, h₁]
    exact ⟨_, hfirst.trans hrest⟩

end Battle

end Artillery
