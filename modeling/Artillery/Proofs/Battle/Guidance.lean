import Mathlib.Data.List.Forall2
import Artillery.Proofs.Battle.Splits
import Artillery.Proofs.Battle.Unfolding

/-!
# Guidance locks once

The guidance of a shot waits with the item that was used up for it, locks once, and keeps to its
correction from then on.  Nothing that happens to the shot or to the field arms it again or aims it
anew, and nothing but shots is ever guided.

## Key results

- `Deed.IsStepOver.takes`: in each of its steps the guidance of a shot takes one turn
- `Unfolds.turns`: its turns follow on one another along a run
- `Turn.run_armed`: turns that begin with armed guidance wait, lock once and hold
- `guidance_locks_once`: guidance locks once and stays frozen
-/

namespace Artillery

open Event

/-! ## Turns of a deed -/

namespace Deed

/-- A deed is the step of its projectile over an arena. -/
def IsStepOver (d : Deed) (a : Arena) : Prop :=
  ∃ a', a.stepProjectile d.before = .ok (d.after, a') ∧
    a'.events.toList = a.events.toList ++ d.told

/-- In a deed the guidance of a projectile with an owner takes a turn.  All that is told of locks is
what belongs to the turn.  Where the step comes to guidance, over whatever arena it was, the turn says
what becomes of the projectile there, and it is the projectile that guidance has left, with its
velocity, that flies on to be the one after the deed.  Where the step ends before that, the guidance
stays as it is. -/
structure Takes (owner : ActorId) (d : Deed) (t : Turn) : Prop where
  owned : d.before.owner = owner
  before : d.before.guidance = t.before
  after : d.after.guidance = t.after
  told : locks d.told = t.told owner
  isStep : ∃ a, d.IsStepOver a
  steers : ∀ a q b, d.IsStepOver a → a.ComesToGuidance d.before q b →
    q.guidance = t.before ∧ ∃ status moved a',
      (t.steer q).advance b.terrain b.config b.wind = .ok (status, moved) ∧
      (b.tell (t.told owner)).resolve moved status = (d.after, a') ∧
      a.stepProjectile d.before = .ok (d.after, a')
  stays : ∀ a, d.IsStepOver a → (∀ q b, ¬a.ComesToGuidance d.before q b) → t.after = t.before

end Deed

namespace Deed.IsStepOver

variable {d : Deed} {a : Arena}

/-- What guidance has done in a step over one arena. -/
theorem turn (h : d.IsStepOver a) (hp : d.before.Fertile) :
    d.after.Fertile ∧ d.after.owner = d.before.owner ∧
      ∃ t : Turn, d.before.guidance = t.before ∧ d.after.guidance = t.after ∧
        locks d.told = t.told d.before.owner ∧
        (∀ q b, a.ComesToGuidance d.before q b →
          q.guidance = t.before ∧ q.owner = d.before.owner ∧ (q.guide b.actors).2 = t.steer q ∧
            (q.guide b.actors).1.toList.map (.guidanceLocked q.owner) = t.told q.owner) ∧
        ((∀ q b, ¬a.ComesToGuidance d.before q b) → t.after = t.before) := by
  obtain ⟨a', hstep, htold⟩ := h
  -- What the step tells of locks is what the deed tells of them.
  have told {ls : List Event} (hl : a.Locks ls a') : locks d.told = ls := by
    obtain ⟨es, hes, hls⟩ := hl
    rw [htold] at hes
    rw [List.append_cancel_left hes, hls]
  obtain ⟨hends, haim, hlocks⟩ | ⟨q, b, hcomes, hcame, hleft, hlocks⟩ :=
    Arena.stepProjectile_guides hstep
  · obtain ⟨t, hbefore, hafter, hquiet⟩ := Turn.exists_stays d.before.guidance
    exact ⟨haim.fertile hp, haim.owner, t, hbefore.symm, haim.guidance.trans hafter.symm,
      (told hlocks).trans (hquiet _).symm, fun q b hc => absurd hc (hends q b),
      fun _ => hafter.trans hbefore.symm⟩
  · have hq : q.Fertile := hcame.fertile hp
    obtain ⟨t, hbefore, hsteer, hafter, hturn⟩ := q.guide_turn hq b.actors
    obtain ⟨howner, hwarhead, hparticle⟩ := Turn.steer_frame q t
    have hguided : (t.steer q).Fertile := ⟨hwarhead.trans hq.1, hparticle.trans hq.2⟩
    rw [hsteer] at hleft
    rw [hsteer, howner, hturn, hcame.owner] at hlocks
    refine ⟨hleft.fertile hguided, hleft.owner.trans (howner.trans hcame.owner), t,
      hcame.guidance.symm.trans hbefore, hleft.guidance.trans hafter, told hlocks,
      fun q' b' hc => ?_, fun hends => absurd hcomes (hends q b)⟩
    -- The step has come to guidance in one way only.
    obtain ⟨rfl, rfl⟩ := hcomes.unique hc
    exact ⟨hbefore, hcame.owner, hsteer, hturn⟩

/-- The guidance of a shot takes one turn in a step, whatever the arena was. -/
theorem takes (h : d.IsStepOver a) (hp : d.before.Fertile) :
    d.after.Fertile ∧ d.after.owner = d.before.owner ∧ ∃ t, d.Takes d.before.owner t := by
  obtain ⟨hfertile, howner, t, hbefore, hafter, htold, _⟩ := h.turn hp
  -- Over all arenas it has been the same turn.
  have same {u : Turn} (hb : d.before.guidance = u.before) (ha : d.after.guidance = u.after) :
      u = t := Turn.eq_of (hb.symm.trans hbefore) (ha.symm.trans hafter)
  refine ⟨hfertile, howner, t, rfl, hbefore, hafter, htold, ⟨a, h⟩, fun a₁ q b ha hcomes => ?_,
    fun a₁ ha hends => ?_⟩
  · obtain ⟨_, _, u, hbefore', hafter', _, hguided, _⟩ := ha.turn hp
    obtain rfl := same hbefore' hafter'
    obtain ⟨hcame, hq, hsteer, hturn⟩ := hguided q b hcomes
    obtain ⟨a', hstep, _⟩ := ha
    have hflight := hcomes.stepProjectile_eq.symm.trans hstep
    rw [hsteer, (Turn.steer_frame q u).1, hturn, hq] at hflight
    cases hm : (u.steer q).advance b.terrain b.config b.wind with
    | error f =>
      rw [hm] at hflight
      exact nomatch hflight
    | ok s =>
      rw [hm] at hflight
      exact ⟨hcame, s.1, s.2, a', rfl, Except.ok.inj hflight, hstep⟩
  · obtain ⟨_, _, u, hbefore', hafter', _, _, hstays⟩ := ha.turn hp
    obtain rfl := same hbefore' hafter'
    exact hstays hends

/-- In the step of a projectile without guidance nothing comes of that. -/
theorem unguided (h : d.IsStepOver a) (hg : d.before.guidance = none) :
    d.after.guidance = none := by
  obtain ⟨a', hstep, _⟩ := h
  obtain ⟨_, haim, _⟩ | ⟨q, b, _, hcame, hleft, _⟩ := Arena.stepProjectile_guides hstep
  · exact haim.guidance.trans hg
  · have hq : q.guidance = none := hcame.guidance.trans hg
    have hsame : (q.guide b.actors).2 = q := by
      unfold Projectile.guide
      rw [hq]
      split <;> rfl
    rw [hleft.guidance, hsame, hq]

end Deed.IsStepOver

theorem Deed.IsStep.isStepOver {d : Deed} {arsenal : Arsenal} (h : d.IsStep arsenal) :
    ∃ a, d.IsStepOver a := by
  obtain ⟨a, a', _, hstep, htold⟩ := h
  exact ⟨a, a', hstep, htold⟩

/-! ## Turns one after another -/

/-- The turns that are taken in some deeds are known from the guidance before and after each. -/
theorem Deed.Takes.turns_eq {owner : ActorId} {ds : List Deed} {ts us : List Turn}
    (h : List.Forall₂ (Deed.Takes owner) ds ts)
    (hu : ds.map (fun d => (d.before.guidance, d.after.guidance)) =
      us.map fun u => (u.before, u.after)) : ts = us := by
  induction h generalizing us with
  | nil => exact (List.map_eq_nil_iff.1 hu.symm).symm
  | cons h _ ih =>
    obtain ⟨u, us, rfl, hfirst, hrest⟩ := List.map_eq_cons_iff.1 hu.symm
    obtain ⟨hbefore, hafter⟩ := Prod.mk.inj hfirst
    rw [ih hrest.symm,
      Turn.eq_of (h.before.symm.trans hbefore.symm) (h.after.symm.trans hafter.symm)]

namespace Turn

/-- Turns follow on one another from one guidance to another. -/
def Run : Option Guidance → List Turn → Option Guidance → Prop
  | g, [], g' => g' = g
  | g, t :: ts, g' => t.before = g ∧ Run t.after ts g'

/-- Without guidance there is nothing to do. -/
theorem run_none {ts : List Turn} {g : Option Guidance} (h : Run none ts g) :
    ts = List.replicate ts.length rests ∧ g = none := by
  induction ts with
  | nil => exact ⟨rfl, h⟩
  | cons t ts ih =>
    obtain ⟨hbefore, hrun⟩ := h
    cases t with
    | rests =>
      obtain ⟨hts, hg⟩ := ih hrun
      exact ⟨congrArg (rests :: ·) hts, hg⟩
    | _ => exact nomatch hbefore

/-- What has locked holds. -/
theorem run_locked {ts : List Turn} {g : Option Guidance} {kind : GuidanceKind} {c : Vec2}
    (h : Run (some (.locked kind c)) ts g) :
    ts = List.replicate ts.length (holds kind c) ∧ g = some (.locked kind c) := by
  induction ts with
  | nil => exact ⟨rfl, h⟩
  | cons t ts ih =>
    obtain ⟨hbefore, hrun⟩ := h
    cases t with
    | holds k c' =>
      obtain ⟨rfl, rfl⟩ : k = kind ∧ c' = c := by simpa [before] using hbefore
      obtain ⟨hts, hg⟩ := ih hrun
      exact ⟨congrArg (holds k c' :: ·) hts, hg⟩
    | rests | waits | locks => simp [before] at hbefore

/-- What is armed waits, and either goes on waiting or locks once and holds. -/
theorem run_armed {ts : List Turn} {g : Option Guidance} {kind : GuidanceKind}
    (h : Run (some (.armed kind)) ts g) :
    ts = List.replicate ts.length (waits kind) ∧ g = some (.armed kind) ∨
      ∃ n m c, ts = List.replicate n (waits kind) ++ locks kind c :: List.replicate m (holds kind c) ∧
        g = some (.locked kind c) := by
  induction ts with
  | nil => exact .inl ⟨rfl, h⟩
  | cons t ts ih =>
    obtain ⟨hbefore, hrun⟩ := h
    -- It waits until its first lock, and whoever is locked keeps it.
    cases t with
    | waits k =>
      obtain rfl : k = kind := by simpa [before] using hbefore
      obtain ⟨hts, hg⟩ | ⟨n, m, c, hts, hg⟩ := ih hrun
      · exact .inl ⟨congrArg (waits k :: ·) hts, hg⟩
      · exact .inr ⟨n + 1, m, c, congrArg (waits k :: ·) hts, hg⟩
    | locks k c =>
      obtain rfl : k = kind := by simpa [before] using hbefore
      obtain ⟨hts, hg⟩ := run_locked hrun
      exact .inr ⟨0, ts.length, c, congrArg (locks k c :: ·) hts, hg⟩
    | rests | holds => simp [before] at hbefore

end Turn

namespace Battle

namespace Unfolds

variable {b b' : Battle} {handed told : List Event} {shots : List Nat} {ds : List Deed}
  {handle : Nat} {p : Projectile}

/-- Along a run the turns of a shot follow on one another, up to the guidance that it has in the end,
if it is still in flight. -/
theorem turns (h : Unfolds b handed told shots ds b') (tidy : b.Tidy)
    (hp : (handle, p) ∈ b.roster.entries.toList) (fertile : p.Fertile) :
    ∃ ts g, List.Forall₂ (Deed.Takes p.owner) (ds.filter (·.handle = handle)) ts ∧
      Turn.Run p.guidance ts g ∧
      ∀ q, (handle, q) ∈ b'.roster.entries.toList → q.owner = p.owner ∧ q.guidance = g := by
  -- As long as the shot is in the row, its handle finds it and nobody else; then there is no more.
  induction h generalizing p with
  | nil b =>
    refine ⟨[], p.guidance, .nil, rfl, fun q hq => ?_⟩
    obtain rfl : p = q := congrArg Prod.snd (List.inj_on_of_nodup_map tidy.row.nodup hp hq rfl)
    exact ⟨rfl, rfl⟩
  | @interlude b b₁ _ _ _ _ _ _ _ _ h hs ih =>
    have known : handle < b.roster.next := tidy.row.below _ (List.mem_map.2 ⟨_, hp, rfl⟩)
    have known₁ := Nat.lt_of_lt_of_le known h.next_le
    by_cases hin : handle ∈ b₁.roster.handles
    · -- Whoever is in the row under the handle is the shot, with the aim that it had.
      obtain ⟨⟨_, q⟩, hq, rfl⟩ := List.mem_map.1 hin
      obtain ⟨p', hp', haim⟩ | ⟨hnew, _⟩ := h.entries _ hq
      · obtain rfl : p = p' := congrArg Prod.snd (List.inj_on_of_nodup_map tidy.row.nodup hp hp' rfl)
        obtain ⟨ts, g, htakes, hrun, hend⟩ := ih (h.tidy tidy) hq (haim.fertile fertile)
        rw [haim.owner] at htakes hend
        rw [haim.guidance] at hrun
        exact ⟨ts, g, htakes, hrun, hend⟩
      · exact absurd known (Nat.not_lt.2 hnew)
    · obtain ⟨hnone, hgone⟩ := hs.gone (h.tidy tidy) known₁ hin
      rw [hnone]
      exact ⟨[], p.guidance, .nil, rfl, fun q hq => absurd (List.mem_map.2 ⟨_, hq, rfl⟩) hgone⟩
  | @step b _ _ _ _ _ _ h hs ih =>
    have known : handle < b.roster.next := tidy.row.below _ (List.mem_map.2 ⟨_, hp, rfl⟩)
    obtain ⟨d, hdeeds, rfl, hstep, hon, hoff⟩ := step_deed tidy h hp
    obtain ⟨a, hover⟩ := hstep.isStepOver
    obtain ⟨hfertile, howner, t, htakes⟩ := hover.takes fertile
    rw [List.filter_append, hdeeds, List.singleton_append]
    cases hactive : d.after.active with
    | true =>
      obtain ⟨ts, g, hrest, hrun, hend⟩ := ih (step_tidy tidy h) (hon hactive) hfertile
      rw [howner] at hrest hend
      rw [htakes.after] at hrun
      exact ⟨t :: ts, g, .cons htakes hrest, ⟨htakes.before.symm, hrun⟩, hend⟩
    | false =>
      -- This was its last step.
      obtain ⟨_, _, _, _, _, hnext⟩ := step_stepAll tidy.row h
      obtain ⟨hnone, hgone⟩ := hs.gone (step_tidy tidy h) (by omega) (hoff hactive)
      rw [hnone]
      exact ⟨[t], t.after, .cons htakes .nil, ⟨htakes.before.symm, rfl⟩,
        fun q hq => absurd (List.mem_map.2 ⟨_, hq, rfl⟩) hgone⟩

/-- Who joins the row in a run and is no shot has no guidance, and gets none. -/
theorem unguided (h : Unfolds b handed told shots ds b') (tidy : b.Tidy) {n : Nat}
    (hn : n ≤ b.roster.next) {old : List Nat}
    (hb : ∀ e ∈ b.roster.entries.toList, n ≤ e.1 → e.1 ∈ old ∨ e.2.guidance = none) :
    ∀ e ∈ b'.roster.entries.toList, n ≤ e.1 → e.1 ∈ old ++ shots ∨ e.2.guidance = none := by
  -- `old` are the handles of the shots that have been fired up to here.
  induction h generalizing old with
  | nil b => simpa using hb
  | interlude h _ ih =>
    rw [← List.append_assoc]
    refine ih (h.tidy tidy) (Nat.le_trans hn h.next_le) fun e he hle => ?_
    obtain ⟨p, hp, haim⟩ | ⟨_, hshot | hnone⟩ := h.entries e he
    · exact (hb _ hp hle).imp (List.mem_append_left _) haim.guidance.trans
    · exact .inl (List.mem_append_right _ hshot)
    · exact .inr hnone
  | @step b _ _ _ _ _ _ h _ ih =>
    obtain ⟨moved, arena, hall, _, hperm, hnext⟩ := step_stepAll tidy.row h
    obtain ⟨hbefore, hafter, _⟩ := Arena.stepAll_deeds hall
    refine ih (step_tidy tidy h) (by omega) fun e he hle => ?_
    obtain he | he := List.mem_append.1 (hperm.mem_iff.1 he)
    · -- One that was in the row before has had its step.
      have hin := (List.mem_filter.1 he).1
      rw [← hafter] at hin
      obtain ⟨d, hd, rfl⟩ := List.mem_map.1 hin
      have hold : (d.handle, d.before) ∈ b.roster.entries.toList := by
        rw [← hbefore]
        exact List.mem_map_of_mem (f := fun d : Deed => (d.handle, d.before)) hd
      obtain ⟨a, hover⟩ := (Arena.deeds_isStep _ _ d hd).isStepOver
      exact (hb _ hold hle).imp id hover.unguided
    · obtain ⟨_, s, _, hs⟩ := Roster.mem_freshFrom he
      exact .inr (hs ▸ rfl)

end Unfolds

/-- Under a handle a shot of an owner is in flight, and is armed with a kind of guidance or has none. -/
def Armed (b : Battle) (handle : Nat) (owner : ActorId) (kind : Option GuidanceKind) : Prop :=
  ∃ p, (handle, p) ∈ b.roster.entries.toList ∧ p.Fertile ∧ p.owner = owner ∧
    p.guidance = kind.map .armed

/-- A shot joins the row with the kind of guidance that its event tells of, armed. -/
theorem launch?_armed {b b' : Battle} {owner : ActorId} {degrees power : Float}
    {weapon : WeaponId} {handle : Nat}
    (h : b.launch? owner degrees power weapon = some (handle, b')) :
    ∃ kind, b'.Armed handle owner kind ∧
      b'.arena.events.toList = b.arena.events.toList ++ [.launched owner weapon kind] := by
  simp only [launch?, Option.bind_eq_bind, Option.bind_eq_some_iff] at h
  obtain ⟨i, hi, shooter, hs, behavior, _, h⟩ := h
  obtain ⟨rfl, rfl⟩ := Prod.mk.inj (Option.some.inj h)
  obtain ⟨hlt, hn, _⟩ := List.findIdx?_eq_some_iff_getElem.1 hi
  have howner : shooter.id = owner := by
    rw [List.getElem?_eq_getElem hlt] at hs
    rw [← Option.some.inj hs]
    exact (of_decide_eq_true hn).1
  refine ⟨shooter.inventory.takeGuidance.1,
    ⟨{ Projectile.ofSpec (shot shooter degrees power weapon behavior) with
        guidance := shooter.inventory.takeGuidance.1.map .armed },
      Array.mem_toList_iff.2 Array.mem_push_self, ⟨rfl, ?_⟩, howner, rfl⟩,
    Array.toList_appendList ..⟩
  -- No behavior makes a particle of the shot itself.
  unfold Projectile.isParticle
  cases behavior <;> rfl

/-- Guidance locks once and stays frozen.  A launch puts a shot into flight that is armed with the kind
of guidance that its event tells of.  From then on, whatever is called, the guidance of the shot takes
one turn in each of its steps: without an item none, and otherwise it waits with the kind that it has
been armed with, until it locks, and holds that one correction in all steps to come.  All locks that
are told of are those of such turns, and who joins the row later and is no shot has no guidance. -/
theorem guidance_locks_once :
    (∀ (b b₁ : Battle) (owner : ActorId) (degrees power : Float) (weapon : WeaponId) (handle : Nat),
      b.Tidy → b.launch? owner degrees power weapon = some (handle, b₁) →
      b₁.Tidy ∧ ∃ kind, b₁.Armed handle owner kind ∧
        b₁.arena.events.toList = b.arena.events.toList ++ [.launched owner weapon kind]) ∧
    ∀ (b b' : Battle) (handle : Nat) (owner : ActorId) (kind : Option GuidanceKind) (cs : List Call)
      (handed : List Event),
      b.Tidy → b.Armed handle owner kind → Call.performAll cs b = .ok (handed, b') →
      ∃ turns guidance told,
        List.Forall₂ (Deed.Takes owner) (Call.deedsOf handle cs b) turns ∧
        (kind = none → turns = List.replicate turns.length .rests ∧ guidance = none) ∧
        (∀ k, kind = some k →
          turns = List.replicate turns.length (.waits k) ∧ guidance = some (.armed k) ∨
          ∃ n m c,
            turns = List.replicate n (.waits k) ++ .locks k c :: List.replicate m (.holds k c) ∧
              guidance = some (.locked k c)) ∧
        (∀ q, (handle, q) ∈ b'.roster.entries.toList → q.owner = owner ∧ q.guidance = guidance) ∧
        handed ++ b'.arena.events.toList = b.arena.events.toList ++ told ∧
        Event.locks told = (Call.along Call.deeds cs b).flatMap (fun d => Event.locks d.told) ∧
        ∀ e ∈ b'.roster.entries.toList, b.roster.next ≤ e.1 → e.1 ∉ Call.along Call.shots cs b →
          e.2.guidance = none := by
  refine ⟨fun b b₁ owner degrees power weapon handle tidy launched =>
    ⟨launch?_tidy tidy launched, launch?_armed launched⟩,
    fun b b' handle owner kind cs handed tidy armed h => ?_⟩
  obtain ⟨p, hp, fertile, rfl, hguidance⟩ := armed
  obtain ⟨told, hrun⟩ := Call.performAll_unfolds h
  obtain ⟨turns, guidance, htakes, hturns, hend⟩ := hrun.turns tidy hp fertile
  obtain ⟨hevents, hlocks, _⟩ := hrun.books tidy
  rw [hguidance] at hturns
  refine ⟨turns, guidance, told, htakes, ?_, ?_, hend, hevents, hlocks, fun e he hnew hshot => ?_⟩
  · rintro rfl
    exact Turn.run_none hturns
  · rintro k rfl
    exact Turn.run_armed hturns
  · -- Before any of the calls there is nothing new in the row.
    have hstart : ∀ e ∈ b.roster.entries.toList, b.roster.next ≤ e.1 →
        e.1 ∈ ([] : List Nat) ∨ e.2.guidance = none := fun e he hle =>
      absurd (tidy.row.below e.1 (List.mem_map_of_mem he)) (Nat.not_lt.2 hle)
    obtain hin | hnone := hrun.unguided tidy (Nat.le_refl _) hstart e he hnew
    · exact absurd hin (by simpa using hshot)
    · exact hnone

/-- A tank on a hill with an item for the heat of its enemy. -/
def duel : Battle :=
  (pit.addActor { Actor.fresh 0 20 40 with inventory := { heatGuidance := 1 } }).addActor
    (.fresh 1 34 45)

/-- A missile in flight that is armed for what lies straight above or below it, where nothing pulls at
it. -/
def overflight : Battle :=
  { assemble { gravity := 0 } (.blank 40 20) (.ofSeed 0) with
    roster := ⟨#[(0, { Projectile.ofSpec ⟨⟨2, 5⟩, ⟨200, 0⟩, 0, 0, .weapon, .none⟩ with
      guidance := some (.armed .vertical) })], 1⟩ }

/-- It flies on over an enemy at column 16. -/
def ambush : List Call := .setActors [.fresh 1 16 60] :: List.replicate 6 .step

/-- What its guidance does in these steps. -/
def overflightTurns : List Turn :=
  List.replicate 3 (.waits .vertical) ++
    .locks .vertical ⟨0, -2⟩ :: List.replicate 2 (.holds .vertical ⟨0, -2⟩)

/-- The tank fires a missile that is armed for heat.  The other one waits for three steps, comes over
its enemy, and is drawn down to it from then on, by the same amount in each step. -/
theorem guidance_locks_once_overflight :
    (duel.Tidy ∧ ∃ handle b₁, duel.launch? 0 45 300 2 = some (handle, b₁) ∧
      b₁.Armed handle 0 (some .heat)) ∧
    overflight.Tidy ∧ overflight.Armed 0 0 (some .vertical) ∧
    ∃ handed b' turns guidance told,
      Call.performAll ambush overflight = .ok (handed, b') ∧
      List.Forall₂ (Deed.Takes 0) (Call.deedsOf 0 ambush overflight) turns ∧
      turns = overflightTurns ∧
      (Call.deedsOf 0 ambush overflight).map (fun d => d.after.velocity) =
        [⟨200, 0⟩, ⟨200, 0⟩, ⟨200, 0⟩, ⟨200, -2⟩, ⟨200, -4⟩, ⟨200, -6⟩] ∧
      (∀ q, (0, q) ∈ b'.roster.entries.toList → q.owner = 0 ∧ q.guidance = guidance) ∧
      guidance = some (.locked .vertical ⟨0, -2⟩) ∧
      handed ++ b'.arena.events.toList = told ∧
      Event.locks told = [.guidanceLocked 0 .vertical] := by
  obtain ⟨hlaunch, hflight⟩ := guidance_locks_once
  refine ⟨?_, ?_⟩
  · have tidy : duel.Tidy := ⟨⟨List.nodup_nil, List.forall_mem_nil _⟩, rfl⟩
    obtain ⟨⟨handle, b₁⟩, hfired⟩ : ∃ r, duel.launch? 0 45 300 2 = some r :=
      Option.isSome_iff_exists.1 (by decide +kernel)
    have htold : (duel.launch? 0 45 300 2).map (fun r => r.2.arena.events.toList) =
        some [.launched 0 2 (some .heat)] := by decide +kernel
    rw [hfired] at htold
    obtain ⟨_, kind, armed, hevents⟩ := hlaunch _ _ _ _ _ _ _ tidy hfired
    have hsame : [Event.launched 0 2 (some .heat)] = [.launched 0 2 kind] :=
      (Option.some.inj htold).symm.trans hevents
    obtain rfl : some .heat = kind := by simpa using hsame
    exact ⟨tidy, handle, b₁, hfired, armed⟩
  · have tidy : overflight.Tidy := ⟨⟨List.nodup_singleton 0, by decide⟩, rfl⟩
    have armed : overflight.Armed 0 0 (some .vertical) :=
      ⟨_, List.mem_singleton_self _, by decide, rfl, rfl⟩
    have hends : (Call.performAll ambush overflight).isOk = true := by decide +kernel
    obtain ⟨⟨handed, b'⟩, hrun⟩ := Fault.exists_of_isOk hends
    obtain ⟨turns, guidance, told, htakes, _, hturns, hend, hevents, hlocks, _⟩ :=
      hflight _ b' 0 0 _ ambush handed tidy armed hrun
    obtain rfl : turns = overflightTurns := Deed.Takes.turns_eq htakes (by decide +kernel)
    refine ⟨tidy, armed, handed, b', _, guidance, told, hrun, htakes, rfl, by decide +kernel, hend,
      ?_, hevents, hlocks.trans (by decide +kernel)⟩
    obtain ⟨hwaits, _⟩ | ⟨n, m, c, hlocked, hguidance⟩ := hturns .vertical rfl
    · exact absurd hwaits (by decide +kernel)
    · -- The correction is that of the only turn that locks.
      have hmem : Turn.locks .vertical c ∈ overflightTurns := by
        rw [hlocked]
        exact List.mem_append_right _ List.mem_cons_self
      have hcorrection : c = ⟨0, -2⟩ := by simpa [overflightTurns] using hmem
      rw [hguidance, hcorrection]

end Battle

end Artillery
