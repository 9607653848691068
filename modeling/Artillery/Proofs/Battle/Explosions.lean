import Artillery.Proofs.Battle.Calls
import Artillery.Proofs.Explosion
import Artillery.Proofs.Ledger.Tracks

/-!
# Explosions and their animations

The queue of a battle is given one animation for each explosion that the events tell of, and a step
in each frame.  Nothing else happens to it, so that what is shown is what has been told.

## Key results

- `Moves.queued`: a run of moves adds the animations of its explosions
- `perform_queues`: so does every call, and a frame makes a step after that
- `explosions_shown`: whatever is called, all explosions that are told of are shown in order
-/

namespace Artillery

/-! ## The explosions that events tell of -/

namespace Event

/-- The animation of the explosion that an event tells of. -/
def animation? : Event → Option Animation
  | explosion x y radius _ => some (.ofBlast ⟨x, y⟩ radius)
  | _ => none

/-- What an event means for the queue. -/
def push? : Event → Option ExplosionQueue.Call
  | explosion x y radius _ => some (.push ⟨x, y⟩ radius)
  | _ => none

/-- What some events mean for the queue. -/
def pushes (es : List Event) : List ExplosionQueue.Call := es.filterMap push?

/-- What is added to the queue for two runs of events is added in their order. -/
theorem pushes_append (es fs : List Event) : pushes (es ++ fs) = pushes es ++ pushes fs :=
  List.filterMap_append

/-- Events of other kinds add nothing. -/
theorem pushes_eq_nil {es : List Event} (h : ∀ e ∈ es, e.push? = none) : pushes es = [] :=
  List.filterMap_eq_nil_iff.2 h

/-- An explosion is not about an actor. -/
theorem push?_of_subject {e : Event} {id : ActorId} (h : e.subject? = some id) :
    e.push? = none := by
  cases e with
  | explosion => exact nomatch h
  | _ => rfl

/-- The queue is given the animations of the explosions. -/
theorem pushed_pushes (es : List Event) :
    ExplosionQueue.Call.pushed (pushes es) = es.filterMap animation? := by
  induction es with
  | nil => rfl
  | cons e es ih =>
    cases e with
    | explosion x y radius attacker => exact congrArg (_ :: ·) ih
    | _ => exact ih

end Event

open Event

/-- A report of damage adds nothing. -/
theorem DamageReport.pushes_events (r : DamageReport) (attacker : ActorId) :
    pushes (r.events attacker) = [] := by
  refine pushes_eq_nil fun e he => ?_
  obtain ⟨_, _, _, rfl⟩ | ⟨_, rfl⟩ | ⟨_, rfl⟩ := mem_events he <;> rfl

/-! ## Moves -/

namespace Arena

open ExplosionQueue.Call

variable {a a' : Arena} {es : List Event}

/-- A move adds the animations of its explosions. -/
theorem Move.queued (h : a.Move es a') : a'.explosions = performAll (pushes es) a.explosions := by
  -- Only an explosion touches the queue, and only it is told as one.
  cases h with
  | blow b hr => rfl
  | shock s carried =>
    rw [DamageReport.pushes_events]
    rfl
  | dig center work hw =>
    rw [Arena.dig, if_neg hw]
    rfl
  | queue weapon spawn hs =>
    rw [Arena.queue, if_neg (by simpa using hs)]
    rfl
  | @deflect p p' id i target target' depleted k hi ht hd => cases depleted <;> rfl
  | _ => rfl

/-- So does a run of moves. -/
theorem Moves.queued (h : a.Moves es a') : a'.explosions = performAll (pushes es) a.explosions := by
  induction h with
  | nil => rfl
  | cons h _ ih => rw [ih, h.queued, pushes_append, performAll_append]

end Arena

/-! ## Calls -/

namespace Battle

/-- The battle goes on with events, some of which are handed over, while something happens to the
queue of its explosions. -/
structure Queues (b : Battle) (handed told : List Event) (heard : List ExplosionQueue.Call)
    (b' : Battle) : Prop where
  events : handed ++ b'.arena.events.toList = b.arena.events.toList ++ told
  queue : b'.arena.explosions = ExplosionQueue.Call.performAll heard b.arena.explosions

namespace Queues

variable {b b₁ b' : Battle} {handed later told after : List Event}
  {heard next : List ExplosionQueue.Call}

/-- What is heard of two parts is heard of one after the other. -/
theorem trans (h₁ : Queues b handed told heard b₁) (h₂ : Queues b₁ later after next b') :
    Queues b (handed ++ later) (told ++ after) (heard ++ next) b' := by
  constructor
  · rw [List.append_assoc, h₂.events, ← List.append_assoc, h₁.events, List.append_assoc]
  · rw [h₂.queue, h₁.queue, ExplosionQueue.Call.performAll_append]

/-- Where neither events nor queue change, nothing is told or heard. -/
theorem idle (he : b'.arena.events = b.arena.events)
    (hq : b'.arena.explosions = b.arena.explosions) : Queues b [] [] [] b' := by
  constructor
  · rw [he]
    exact (List.append_nil _).symm
  · exact hq

/-- Events without an explosion are not heard by the queue. -/
theorem of_silent (he : b'.arena.events.toList = b.arena.events.toList ++ told)
    (hs : ∀ e ∈ told, e.push? = none) (hq : b'.arena.explosions = b.arena.explosions) :
    Queues b [] told (pushes told) b' := by
  refine ⟨he, ?_⟩
  rw [pushes_eq_nil hs]
  exact hq

/-- A run of moves is heard as it is told. -/
theorem of_moves {arena : Arena} (h : b.arena.Moves told arena)
    (he : b'.arena.events = arena.events) (hq : b'.arena.explosions = arena.explosions) :
    Queues b [] told (pushes told) b' := by
  constructor
  · rw [he]
    exact h.events
  · rw [hq]
    exact h.queued

/-- Whatever projectiles do, the queue hears of their explosions. -/
theorem of_movesOn (h : MovesOn b b') : ∃ told, Queues b [] told (pushes told) b' := by
  obtain ⟨told, arena, hmoves, ha⟩ := h
  exact ⟨told, .of_moves hmoves (by rw [ha]) (by rw [ha])⟩

end Queues

section Parts

variable {b b' : Battle}

/-- So it does in a step of flight. -/
theorem step_queues (h : b.step = .ok b') : ∃ told, Queues b [] told (pushes told) b' := by
  obtain ⟨es, arena, hmoves, ha, _⟩ := step_moves h
  have hrow : Queues b.redraw [] es (pushes es) b' :=
    .of_moves hmoves (by rw [ha]) (by rw [ha])
  exact ⟨es, ⟨hrow.events, hrow.queue⟩⟩

/-- So it does in any number of them. -/
theorem stepWhileFlying_queues {n : Nat} (h : stepWhileFlying n b = .ok b') :
    ∃ told, Queues b [] told (pushes told) b' := by
  have hnone : Queues b [] [] (pushes []) b := .idle rfl rfl
  refine stepWhileFlying_keeps (P := fun c => ∃ told, Queues b [] told (pushes told) c) ?_
    ⟨[], hnone⟩ h
  rintro c c' ⟨told, hc⟩ hs
  obtain ⟨after, hc'⟩ := step_queues hs
  refine ⟨told ++ after, ?_⟩
  rw [pushes_append]
  exact hc.trans hc'

/-- Falling makes no explosion. -/
theorem stepFalling_queues {falling : Bool} (h : b.stepFalling = .ok (falling, b')) :
    ∃ told, Queues b [] told (pushes told) b' ∧ pushes told = [] := by
  obtain ⟨_, rfl⟩ | ⟨_, actors, terrain, events, hstep, rfl⟩ := stepFalling_cases h
  · exact ⟨[], .idle rfl rfl, rfl⟩
  · have hsilent : ∀ e ∈ events, e.push? = none := by
      intro e he
      obtain ⟨id, hid⟩ := Falling.step_subject hstep e he
      exact push?_of_subject hid
    exact ⟨events, .of_silent (Array.toList_appendList ..) hsilent rfl, pushes_eq_nil hsilent⟩

/-- In a frame all explosions come before the step of the queue, since falling makes none. -/
theorem tick_queues {handed : List Event} (h : b.tick = .ok (handed, b')) :
    ∃ told, Queues b handed told (pushes told ++ [.step]) b' := by
  obtain ⟨flown, fallen, hf, hd, rfl, rfl⟩ := tick_cases h
  -- First the steps are heard, then the frame; falls are told of, but not heard.
  obtain ⟨told, hflown⟩ := stepWhileFlying_queues hf
  have hboom : Queues flown [] [] [.step] flown.stepExplosions :=
    ⟨(List.append_nil _).symm, rfl⟩
  have hfall : ∃ after, Queues flown.stepExplosions [] after (pushes after) fallen ∧
      pushes after = [] := by
    obtain ⟨_, falling, hd⟩ | ⟨_, rfl⟩ := hd
    · exact stepFalling_queues hd
    · exact ⟨[], .idle rfl rfl, rfl⟩
  obtain ⟨after, hfallen, hsilent⟩ := hfall
  obtain ⟨hevents, hqueue⟩ := (hflown.trans hboom).trans hfallen
  refine ⟨told ++ after, (List.append_nil _).trans ?_, ?_⟩
  · simpa using hevents
  · rw [pushes_append, hsilent]
    simpa [hsilent] using hqueue

/-- Nor does a launch. -/
theorem launch?_queues {owner : ActorId} {degrees power : Float} {weapon : WeaponId} {handle : Nat}
    (h : b.launch? owner degrees power weapon = some (handle, b')) :
    ∃ told, Queues b [] told (pushes told) b' := by
  simp only [launch?, Option.bind_eq_bind, Option.bind_eq_some_iff] at h
  obtain ⟨i, _, shooter, _, behavior, _, h⟩ := h
  obtain ⟨_, rfl⟩ := Prod.mk.inj (Option.some.inj h)
  refine ⟨_, .of_silent (Array.toList_appendList ..) (fun e he => ?_) rfl⟩
  rw [List.mem_singleton.1 he]
  rfl

end Parts

namespace Call

/-- The steps that a call makes the queue take. -/
def frames : Call → List ExplosionQueue.Call
  | tick | stepExplosions => [.step]
  | _ => []

/-- What the queue hears of a call that has told some events: the explosions, and then the step of a
frame. -/
def heard (c : Call) (told : List Event) : List ExplosionQueue.Call := pushes told ++ c.frames

/-- The queue of a battle hears of nothing but explosions and frames. -/
theorem perform_queues {c : Call} {b b' : Battle} {handed : List Event}
    (h : c.perform b = .ok (handed, b')) : ∃ told, Queues b handed told (c.heard told) b' := by
  -- Where no frame passes, only the explosions are heard.
  have quiet {d : Battle} {es : List Event} (hf : c.frames = [])
      (hq : ∃ told, Queues b es told (pushes told) d) :
      ∃ told, Queues b es told (c.heard told) d := by
    obtain ⟨told, hq⟩ := hq
    refine ⟨told, ?_⟩
    rw [heard, hf, List.append_nil]
    exact hq
  have same {d : Battle} (hf : c.frames = []) (he : d.arena.events = b.arena.events)
      (hq : d.arena.explosions = b.arena.explosions) :
      ∃ told, Queues b [] told (c.heard told) d := quiet hf ⟨[], .idle he hq⟩
  -- Each call is quiet in this sense, or is a frame.
  cases c with
  | setArsenal | setActors | addActor | spawn | setWind =>
    obtain ⟨rfl, rfl⟩ := Prod.mk.inj (Except.ok.inj h)
    exact same rfl rfl rfl
  | placeActors count =>
    obtain ⟨r, hr, h⟩ := Fault.bind_ok h
    obtain ⟨rfl, rfl⟩ := Prod.mk.inj (Except.ok.inj h)
    obtain ⟨placed, _, hr⟩ := Fault.bind_ok hr
    obtain rfl := Except.ok.inj hr
    exact same rfl rfl rfl
  | launch owner degrees power weapon =>
    simp only [perform] at h
    split at h <;> obtain ⟨rfl, rfl⟩ := Prod.mk.inj (Except.ok.inj h)
    · rename_i hl
      exact quiet rfl (launch?_queues hl)
    · exact same rfl rfl rfl
  | tick => exact tick_queues h
  | step =>
    obtain ⟨r, hr, h⟩ := Fault.bind_ok h
    obtain ⟨rfl, rfl⟩ := Prod.mk.inj (Except.ok.inj h)
    exact quiet rfl (step_queues hr)
  | advance handle =>
    obtain ⟨r, hr, h⟩ := Fault.bind_ok h
    obtain ⟨rfl, rfl⟩ := Prod.mk.inj (Except.ok.inj h)
    have ha := advance_arena hr
    exact same rfl (congrArg Arena.events ha) (congrArg Arena.explosions ha)
  | strike | applyImpact | fly | applyFlight =>
    obtain ⟨rfl, hmoves⟩ := perform_movesOn h trivial
    exact quiet rfl (Queues.of_movesOn hmoves)
  | onTerrain op =>
    obtain ⟨terrain, _, h⟩ := Fault.bind_ok h
    obtain ⟨rfl, rfl⟩ := Prod.mk.inj (Except.ok.inj h)
    exact same rfl rfl rfl
  | strikeActors center radius attacker carried =>
    obtain ⟨rfl, rfl⟩ := Prod.mk.inj (Except.ok.inj h)
    exact quiet rfl ⟨_, .of_moves (Arena.Move.shock b.arena _ carried).moves rfl rfl⟩
  | stepFalling =>
    obtain ⟨r, hr, h⟩ := Fault.bind_ok h
    obtain ⟨rfl, rfl⟩ := Prod.mk.inj (Except.ok.inj h)
    obtain ⟨told, hq, _⟩ := stepFalling_queues hr
    exact quiet rfl ⟨told, hq⟩
  | stepExplosions =>
    obtain ⟨rfl, rfl⟩ := Prod.mk.inj (Except.ok.inj h)
    exact ⟨[], (List.append_nil _).symm, rfl⟩
  | changeWind =>
    obtain ⟨r, hr, h⟩ := Fault.bind_ok h
    obtain ⟨rfl, rfl⟩ := Prod.mk.inj (Except.ok.inj h)
    obtain ⟨wind, _, hr⟩ := Fault.bind_ok hr
    obtain rfl := Except.ok.inj hr
    exact quiet rfl ⟨_, .of_silent (Array.toList_appendList ..)
      (fun e he => List.mem_singleton.1 he ▸ rfl) rfl⟩
  | drain =>
    obtain ⟨rfl, rfl⟩ := Prod.mk.inj (Except.ok.inj h)
    exact ⟨[], rfl, rfl⟩

/-- Over any number of calls the queue hears of each in turn. -/
theorem performAll_queues {cs : List Call} {b b' : Battle} {handed : List Event}
    (h : performAll cs b = .ok (handed, b')) :
    ∃ run : List (Call × List Event), run.map Prod.fst = cs ∧
      Queues b handed (run.flatMap Prod.snd) (run.flatMap fun e => e.1.heard e.2) b' := by
  induction cs generalizing b handed with
  | nil =>
    obtain ⟨rfl, rfl⟩ := Prod.mk.inj (Except.ok.inj h)
    exact ⟨[], rfl, .idle rfl rfl⟩
  | cons c cs ih =>
    obtain ⟨⟨first, b₁⟩, h₁, h⟩ := Fault.bind_ok h
    obtain ⟨⟨later, b₂⟩, h₂, h⟩ := Fault.bind_ok h
    obtain ⟨rfl, rfl⟩ := Prod.mk.inj (Except.ok.inj h)
    obtain ⟨told, hq⟩ := perform_queues h₁
    obtain ⟨run, hrun, hq'⟩ := ih h₂
    -- What is told is noted call by call, so that each is heard with its frames.
    exact ⟨(c, told) :: run, by rw [List.map_cons, hrun], hq.trans hq'⟩

/-- Frames add nothing to the queue. -/
theorem pushed_heard (c : Call) (told : List Event) :
    ExplosionQueue.Call.pushed (c.heard told) = told.filterMap animation? := by
  have hframes : ExplosionQueue.Call.pushed c.frames = [] := by cases c <;> rfl
  rw [heard, ExplosionQueue.Call.pushed_append, pushed_pushes, hframes, List.append_nil]

/-- Over a run the animations are added that are told of. -/
theorem pushed_run (run : List (Call × List Event)) :
    ExplosionQueue.Call.pushed (run.flatMap fun e => e.1.heard e.2) =
      (run.flatMap Prod.snd).filterMap animation? := by
  induction run with
  | nil => rfl
  | cons e run ih =>
    rw [List.flatMap_cons, List.flatMap_cons, ExplosionQueue.Call.pushed_append, pushed_heard, ih,
      List.filterMap_append]

end Call

/-- All explosions are shown, one after another.  In a queue, whatever happens to it, nothing waits
while nothing plays; animations become active in the order in which they were added; each is active
for as many steps as it has frames, from its first to its last; and a step answers that nothing
plays exactly when everything has been shown.  The queue of a battle hears, in every run of calls,
of the explosions that are told of, in their order, and of a step after those of a frame, and of
nothing else. -/
theorem explosions_shown :
    (∀ cs : List ExplosionQueue.Call,
      let q := ExplosionQueue.Call.performAll cs {}
      let added := ExplosionQueue.Call.pushed cs
      (q.active = none → q.pending = []) ∧
      ExplosionQueue.Call.started cs {} ++ q.pending = added ∧
      ExplosionQueue.Call.shown cs {} ++ q.remaining = added.flatMap Animation.frames ∧
      (q.goesOn = false ↔
        ExplosionQueue.Call.shown (cs ++ [.step]) {} = added.flatMap Animation.frames)) ∧
    (∀ (center : Pixel) (radius : Int),
      (Animation.ofBlast center radius).frames.length = max 8 (max radius 0 / 2).toNat) ∧
    ∀ (b b' : Battle) (cs : List Call) (handed : List Event),
      Call.performAll cs b = .ok (handed, b') →
      ∃ run : List (Call × List Event), run.map Prod.fst = cs ∧
        handed ++ b'.arena.events.toList = b.arena.events.toList ++ run.flatMap Prod.snd ∧
        b'.arena.explosions = ExplosionQueue.Call.performAll
          (run.flatMap fun e => e.1.heard e.2) b.arena.explosions ∧
        ExplosionQueue.Call.pushed (run.flatMap fun e => e.1.heard e.2) =
          (run.flatMap Prod.snd).filterMap animation? := by
  refine ⟨fun cs => ⟨?_, ?_, ?_, ?_⟩, Animation.length_frames_ofBlast, fun b b' cs handed h => ?_⟩
  · exact (ExplosionQueue.Call.performAll_sound ExplosionQueue.empty_sound cs).idle
  · exact ExplosionQueue.Call.started_append_pending ExplosionQueue.empty_sound cs
  · exact ExplosionQueue.Call.shown_append_remaining ExplosionQueue.empty_sound cs
  · exact ExplosionQueue.goesOn_eq_false_iff cs
  · obtain ⟨run, hrun, hevents, hqueue⟩ := Call.performAll_queues h
    exact ⟨run, hrun, hevents, hqueue, Call.pushed_run run⟩

/-- Two shells in a hill. -/
def volley : Battle :=
  let shell (x : Float) : Projectile := { Projectile.ofSpec {
    position := ⟨x, 19⟩, velocity := ⟨0, 0⟩, weapon := 0, owner := 0, warhead := .weapon
    maneuver := .none } with age := 3 }
  { assemble {} ((Raster.blank 32 24).fillDisc 16 20 14) (.ofSeed 0) with
    roster := { entries := #[(0, shell 4), (1, shell 28)], next := 2 } }

/-- Both go off in the same frame; in the next the first animation plays on and the second waits. -/
theorem explosions_shown_volley :
    ∃ handed b', Call.performAll [.tick, .stepExplosions] volley = .ok (handed, b') ∧
      handed.filterMap animation? = [.ofBlast ⟨4, 19⟩ 10, .ofBlast ⟨28, 19⟩ 10] ∧
      b'.arena.explosions =
        ⟨some { Animation.ofBlast ⟨4, 19⟩ 10 with frame := 2 }, [.ofBlast ⟨28, 19⟩ 10]⟩ ∧
      ∃ heard, b'.arena.explosions = ExplosionQueue.Call.performAll heard {} ∧
        ExplosionQueue.Call.pushed heard = handed.filterMap animation? := by
  have run : ((Call.performAll [.tick, .stepExplosions] volley).toOption.any fun r => decide (
      r.1.filterMap animation? = [.ofBlast ⟨4, 19⟩ 10, .ofBlast ⟨28, 19⟩ 10] ∧
      r.2.arena.explosions =
        ⟨some { Animation.ofBlast ⟨4, 19⟩ 10 with frame := 2 }, [.ofBlast ⟨28, 19⟩ 10]⟩ ∧
      r.2.arena.events.toList.length = 0)) = true := by decide +kernel
  obtain ⟨⟨handed, b'⟩, h, run⟩ := Fault.exists_of_any run
  obtain ⟨hblasts, hqueue, hdrained⟩ := of_decide_eq_true run
  obtain ⟨told, _, hevents, hheard, hpushed⟩ := explosions_shown.2.2 volley b' _ handed h
  -- Nothing is left in the battle, so that what was handed over is all that was told.
  have hall : handed = told.flatMap Prod.snd := by
    rw [List.length_eq_zero_iff.1 hdrained, List.append_nil] at hevents
    exact hevents
  exact ⟨handed, b', h, hblasts, hqueue, _, hheard, by rw [hpushed, hall]⟩

end Battle

end Artillery
