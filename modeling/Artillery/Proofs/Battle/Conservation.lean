import Artillery.Proofs.Battle.Steps
import Artillery.Proofs.Roster

/-!
# Conservation of projectiles

A step goes through the row as it stood at the start, although every projectile that has been
stepped moves to the end of the row and the last one takes its place.  Nobody is left out and nobody
acts twice, because the rest of the work is always in the row, in whatever order.

## Key results

- `stepEach_stepAll`: a pass over the row steps each of its projectiles once, in order
- `Moves.spawns`: the asked-for projectiles are those that the events tell of
- `step_conserves`: after a step the row holds what has not ended and what is new
- `step_tidy`: a step keeps the row and the list of asked-for projectiles in order
-/

namespace Artillery

/-! ## The projectiles that events tell of -/

namespace Event

/-- How many new projectiles an event tells of. -/
def spawnCount : Event → Nat
  | .spawned _ count => count
  | _ => 0

/-- How many new projectiles some events tell of. -/
def spawnTotal : List Event → Nat
  | [] => 0
  | e :: es => e.spawnCount + spawnTotal es

theorem spawnTotal_append (es fs : List Event) :
    spawnTotal (es ++ fs) = spawnTotal es + spawnTotal fs := by
  induction es with
  | nil => simp [spawnTotal]
  | cons e es ih => rw [List.cons_append, spawnTotal, ih, spawnTotal, Nat.add_assoc]

theorem spawnTotal_eq_zero {es : List Event} (h : ∀ e ∈ es, e.spawnCount = 0) :
    spawnTotal es = 0 := by
  induction es with
  | nil => rfl
  | cons e es ih =>
    obtain ⟨he, hes⟩ := List.forall_mem_cons.1 h
    rw [spawnTotal, he, ih hes]

end Event

/-- A report tells of hits and deaths only. -/
theorem DamageReport.spawnTotal_events (r : DamageReport) (attacker : ActorId) :
    Event.spawnTotal (r.events attacker) = 0 := by
  refine Event.spawnTotal_eq_zero fun e he => ?_
  obtain ⟨_, _, _, rfl⟩ | ⟨_, rfl⟩ | ⟨_, rfl⟩ := mem_events he <;> rfl

namespace Arena

/-- A move asks for as many projectiles as its events tell of. -/
theorem Move.spawns {a a' : Arena} {es : List Event} (h : a.Move es a') :
    a'.spawns.size = a.spawns.size + Event.spawnTotal es := by
  -- Only what is queued joins the spawns, and it is told with its number.
  cases h with
  | shock s carried =>
    rw [DamageReport.spawnTotal_events]
    rfl
  | dig center work hw =>
    rw [Arena.dig, if_neg hw]
    rfl
  | queue weapon spawn hs =>
    rw [Arena.queue, if_neg (by simpa using hs)]
    show (a.spawns ++ spawn).size = a.spawns.size + spawn.length
    rw [← Array.length_toList, Array.toList_appendList, List.length_append, Array.length_toList]
  | deflect hi ht hd => split <;> rfl
  | _ => rfl

/-- The moves of an arena queue as many projectiles as they tell of. -/
theorem Moves.spawns {a a' : Arena} {es : List Event} (h : a.Moves es a') :
    a'.spawns.size = a.spawns.size + Event.spawnTotal es := by
  induction h with
  | nil => rfl
  | cons h _ ih => rw [ih, h.spawns, Event.spawnTotal_append, Nat.add_assoc]

/-! ## One pass over the row -/

/-- Takes each of some projectiles through a step, in order, and leaves it under its handle. -/
def stepAll : List (Nat × Projectile) → Arena → Except Fault (List (Nat × Projectile) × Arena)
  | [], a => .ok ([], a)
  | (handle, p) :: rest, a => do
    let (p, a) ← a.stepProjectile p
    let (rest, a) ← stepAll rest a
    return ((handle, p) :: rest, a)

/-- Handles do not change. -/
theorem stepAll_handles {todo moved : List (Nat × Projectile)} {a a' : Arena}
    (h : stepAll todo a = .ok (moved, a')) : moved.map Prod.fst = todo.map Prod.fst := by
  induction todo generalizing a moved with
  | nil =>
    obtain ⟨rfl, rfl⟩ := Prod.mk.inj (Except.ok.inj h)
    rfl
  | cons e todo ih =>
    obtain ⟨handle, p⟩ := e
    obtain ⟨_, _, h⟩ := Fault.bind_ok h
    obtain ⟨⟨rest, _⟩, hr, h⟩ := Fault.bind_ok h
    obtain ⟨rfl, rfl⟩ := Prod.mk.inj (Except.ok.inj h)
    rw [List.map_cons, List.map_cons, ih hr]

/-- Steps one after another are a run of moves. -/
theorem stepAll_moves {todo moved : List (Nat × Projectile)} {a a' : Arena}
    (h : stepAll todo a = .ok (moved, a')) : ∃ es, a.Moves es a' := by
  induction todo generalizing a moved with
  | nil =>
    obtain ⟨rfl, rfl⟩ := Prod.mk.inj (Except.ok.inj h)
    exact ⟨_, .nil _⟩
  | cons e todo ih =>
    obtain ⟨⟨p, a₁⟩, hp, h⟩ := Fault.bind_ok h
    obtain ⟨⟨rest, a₂⟩, hr, h⟩ := Fault.bind_ok h
    obtain ⟨rfl, rfl⟩ := Prod.mk.inj (Except.ok.inj h)
    obtain ⟨es, hes⟩ := stepProjectile_moves hp
    obtain ⟨fs, hfs⟩ := ih hr
    exact ⟨_, hes.trans hfs⟩

end Arena

namespace Battle

/-- A pass over a part of the row gives what the projectiles of that part give one after another, or
breaks down with them.  The induction is on the part that is still to be done: it and the part that
is done are together the row, in some order. -/
theorem stepEach_stepAll {todo done : List (Nat × Projectile)} {b : Battle}
    (hrow : b.roster.entries.toList.Perm (todo ++ done)) (nodup : b.roster.handles.Nodup) :
    (∀ f, Arena.stepAll todo b.arena = .error f → stepEach (todo.map Prod.fst) b = .error f) ∧
      ∀ moved arena, Arena.stepAll todo b.arena = .ok (moved, arena) →
        ∃ roster, stepEach (todo.map Prod.fst) b =
            .ok { b with arena := arena, roster := roster } ∧
          roster.entries.toList.Perm (done ++ moved) ∧ roster.next = b.roster.next := by
  induction todo generalizing done b with
  | nil =>
    constructor
    · intro f h
      cases h
    · intro moved arena h
      obtain ⟨rfl, rfl⟩ := Prod.mk.inj (Except.ok.inj h)
      exact ⟨b.roster, rfl, by simpa using hrow, rfl⟩
  | cons e todo ih =>
    obtain ⟨handle, p⟩ := e
    have hm : (handle, p) ∈ b.roster.entries.toList := hrow.mem_iff.2 List.mem_cons_self
    obtain ⟨r, hr⟩ := Roster.take?_of_mem nodup hm
    obtain ⟨hperm, hnext⟩ := Roster.take?_perm hr
    have hrest : r.entries.toList.Perm (todo ++ done) := (hperm.trans hrow).cons_inv
    have hstep : stepEach (((handle, p) :: todo).map Prod.fst) b =
        (b.arena.stepProjectile p >>= fun q => stepEach (todo.map Prod.fst)
          { b with arena := q.2, roster := r.put handle q.1 }) := by
      simp only [List.map_cons, stepEach, hr]
    rw [hstep]
    cases hp : b.arena.stepProjectile p with
    | error f =>
      have hall : Arena.stepAll ((handle, p) :: todo) b.arena = .error f := by
        simp only [Arena.stepAll, hp]
        rfl
      rw [hall]
      constructor
      · intro g h
        obtain rfl := Except.error.inj h
        rfl
      · intro moved arena h
        cases h
    | ok q =>
      obtain ⟨p', a'⟩ := q
      -- The projectile goes to the end of the row, where the work is done.
      have hrow' : (r.put handle p').entries.toList.Perm (todo ++ (done ++ [(handle, p')])) := by
        rw [Roster.entries_put, ← List.append_assoc]
        exact hrest.append_right _
      have hnodup' : (r.put handle p').handles.Nodup :=
        (Roster.handles_put_perm hr p').nodup_iff.2 nodup
      obtain ⟨ihe, iho⟩ := ih (b := { b with arena := a', roster := r.put handle p' }) hrow' hnodup'
      have hall : Arena.stepAll ((handle, p) :: todo) b.arena =
          (Arena.stepAll todo a' >>= fun q => .ok ((handle, p') :: q.1, q.2)) := by
        simp only [Arena.stepAll, hp]
        rfl
      rw [hall]
      constructor
      · intro f h
        cases ht : Arena.stepAll todo a' with
        | error g =>
          rw [ht] at h
          obtain rfl := Except.error.inj h
          exact ihe _ ht
        | ok q =>
          rw [ht] at h
          cases h
      · intro moved arena h
        obtain ⟨⟨rest, arena'⟩, ht, h⟩ := Fault.bind_ok h
        obtain ⟨rfl, rfl⟩ := Prod.mk.inj (Except.ok.inj h)
        obtain ⟨roster, hs, hperm', hnext'⟩ := iho _ _ ht
        refine ⟨roster, hs, ?_, hnext'.trans hnext⟩
        simpa using hperm'

/-! ## A step -/

/-- The row is in order, and nobody has been asked for who is not in it yet.  That is how every call
leaves a battle. -/
structure Tidy (b : Battle) : Prop where
  row : b.roster.Valid
  spawns : b.arena.spawns = #[]

/-- A step is one pass over the row, after which the new projectiles join and those that have ended
leave. -/
theorem step_eq {b : Battle} (row : b.roster.Valid) :
    (∀ f, Arena.stepAll b.roster.entries.toList b.redraw.arena = .error f → b.step = .error f) ∧
      ∀ moved arena, Arena.stepAll b.roster.entries.toList b.redraw.arena = .ok (moved, arena) →
        ∃ b', b.step = .ok b' ∧ b'.arena = { arena with spawns := #[] } ∧
          b'.roster.entries.toList.Perm
            (moved.filter (·.2.active) ++ Roster.freshFrom b.roster.next arena.spawns.toList) ∧
          b'.roster.next = b.roster.next + arena.spawns.size := by
  have hrow : b.redraw.roster.entries.toList.Perm (b.roster.entries.toList ++ []) :=
    .of_eq (List.append_nil _).symm
  obtain ⟨he, ho⟩ := stepEach_stepAll hrow row.nodup
  constructor
  · intro f h
    have hs : stepEach b.redraw.roster.handles b.redraw = .error f := he f h
    show (stepEach b.redraw.roster.handles b.redraw >>= _) = _
    rw [hs]
    rfl
  · intro moved arena h
    obtain ⟨roster, hs, hperm, hnext⟩ := ho moved arena h
    obtain ⟨hentries, hcount⟩ := Roster.entries_addAll roster arena.spawns.toList
    have hall : ((roster.addAll arena.spawns.toList).entries.toList).Perm
        (moved ++ Roster.freshFrom b.roster.next arena.spawns.toList) := by
      rw [hentries, hnext]
      exact hperm.append_right _
    have hfresh : ∀ e ∈ Roster.freshFrom b.roster.next arena.spawns.toList, e.2.active = true :=
      fun e he => (Roster.freshFrom_active he).1
    -- Sweeping asks for a row without repetitions, which the new handles do not disturb.
    have hnodup : (roster.addAll arena.spawns.toList).handles.Nodup := by
      apply (hall.map Prod.fst).nodup_iff.2
      rw [List.map_append, Arena.stepAll_handles h]
      exact row.nodup_append_fresh arena.spawns.toList
    obtain ⟨hsweep, hnext'⟩ := Roster.sweep_perm hnodup
    refine ⟨{
        arena := { arena with spawns := #[] }
        roster := (roster.addAll arena.spawns.toList).sweep
        clock := b.clock.tickStep }, ?_, rfl, ?_, ?_⟩
    · show (stepEach b.redraw.roster.handles b.redraw >>= _) = _
      rw [show stepEach b.redraw.roster.handles b.redraw = _ from hs]
      rfl
    · refine hsweep.trans ((hall.filter _).trans (.of_eq ?_))
      rw [List.filter_append, List.filter_eq_self.2 hfresh]
    · calc (roster.addAll arena.spawns.toList).sweep.next
          = (roster.addAll arena.spawns.toList).next := hnext'
        _ = roster.next + arena.spawns.toList.length := hcount
        _ = b.roster.next + arena.spawns.size := by rw [hnext, Array.length_toList]; rfl

/-- What a step that returns has done, seen from its result. -/
theorem step_stepAll {b b' : Battle} (row : b.roster.Valid) (h : b.step = .ok b') :
    ∃ moved arena,
      Arena.stepAll b.roster.entries.toList b.redraw.arena = .ok (moved, arena) ∧
        b'.arena = { arena with spawns := #[] } ∧
          b'.roster.entries.toList.Perm
            (moved.filter (·.2.active) ++ Roster.freshFrom b.roster.next arena.spawns.toList) ∧
          b'.roster.next = b.roster.next + arena.spawns.size := by
  obtain ⟨he, ho⟩ := step_eq row
  -- A step that returns has not failed on any projectile of the row.
  cases hs : Arena.stepAll b.roster.entries.toList b.redraw.arena with
  | error f =>
    rw [he f hs] at h
    exact nomatch h
  | ok r =>
    obtain ⟨moved, arena⟩ := r
    obtain ⟨b₁, hb, hrest⟩ := ho moved arena hs
    rw [hb] at h
    obtain rfl := Except.ok.inj h
    exact ⟨moved, arena, rfl, hrest⟩

/-- The row after a step is in order again. -/
theorem step_tidy {b b' : Battle} (tidy : b.Tidy) (h : b.step = .ok b') : b'.Tidy := by
  obtain ⟨moved, arena, hs, ha, hperm, hnext⟩ := step_stepAll tidy.row h
  have hhandles : (b'.roster.handles).Perm ((moved.filter (·.2.active)).map Prod.fst ++
      (Roster.freshFrom b.roster.next arena.spawns.toList).map Prod.fst) := by
    rw [← List.map_append]
    exact hperm.map Prod.fst
  have hsub : ((moved.filter (·.2.active)).map Prod.fst).Sublist b.roster.handles := by
    have := List.Sublist.map Prod.fst (List.filter_sublist (p := (·.2.active)) (l := moved))
    rwa [Arena.stepAll_handles hs] at this
  have hnodup := tidy.row.nodup_append_fresh arena.spawns.toList
  refine ⟨⟨hhandles.nodup_iff.2 (hnodup.sublist (hsub.append_right _)), ?_⟩, by rw [ha]⟩
  · intro n hn
    rw [hnext]
    -- A handle of the row is an old one or has just been given out.
    obtain hn | hn := List.mem_append.1 (hhandles.mem_iff.1 hn)
    · have := tidy.row.below n (hsub.subset hn)
      omega
    · rw [Roster.handles_freshFrom, List.mem_range'_1, Array.length_toList] at hn
      exact hn.2

/-- A step runs every projectile of the row once, in the order of the row at the start, and breaks
down only where one of them does.  Afterwards the row holds, without repetition, the projectiles
that have not ended, under their old handles, and one new one for each that the events of the step
tell of. -/
theorem step_conserves {b : Battle} (tidy : b.Tidy) :
    (∀ f, b.step = .error f ↔
      Arena.stepAll b.roster.entries.toList b.redraw.arena = .error f) ∧
    ∀ b', b.step = .ok b' →
      ∃ moved arena told fresh,
        Arena.stepAll b.roster.entries.toList b.redraw.arena = .ok (moved, arena) ∧
        moved.map Prod.fst = b.roster.handles ∧
        b'.arena = { arena with spawns := #[] } ∧
        b'.arena.events.toList = b.arena.events.toList ++ told ∧
        b'.roster.entries.toList.Perm (moved.filter (·.2.active) ++ fresh) ∧
        b'.roster.handles.Nodup ∧
        fresh.map Prod.snd = arena.spawns.toList.map .ofSpec ∧
        fresh.length = Event.spawnTotal told ∧
        (∀ e ∈ fresh, e.1 ∉ b.roster.handles ∧ e.2.active = true ∧ e.2.age = 0) ∧
        (∀ e ∈ b'.roster.entries.toList, e.2.active = true) ∧
        (b'.roster.anyActive = false ↔ b'.roster.entries = #[]) := by
  obtain ⟨hfault, hresult⟩ := step_eq tidy.row
  constructor
  · intro f
    refine ⟨fun h => ?_, hfault f⟩
    cases hs : Arena.stepAll b.roster.entries.toList b.redraw.arena with
    | error g =>
      have hg : (.error g : Except Fault Battle) = .error f := (hfault g hs).symm.trans h
      rw [Except.error.inj hg]
    | ok r =>
      obtain ⟨b', hb, _⟩ := hresult r.1 r.2 hs
      rw [hb] at h
      exact nomatch h
  · intro b' h
    obtain ⟨moved, arena, hs, ha, hperm, hnext⟩ := step_stepAll tidy.row h
    obtain ⟨told, hmoves⟩ := Arena.stepAll_moves hs
    have hall : ∀ e ∈ b'.roster.entries.toList, e.2.active = true := by
      intro e he
      obtain he | he := List.mem_append.1 (hperm.mem_iff.1 he)
      · exact (List.mem_filter.1 he).2
      · exact (Roster.freshFrom_active he).1
    have htold : b'.arena.events.toList = b.arena.events.toList ++ told := by
      rw [ha]
      exact hmoves.events
    -- Nobody was waiting at the start, so all that are waiting have been told of in this step.
    have hcount : arena.spawns.size = Event.spawnTotal told := by
      rw [hmoves.spawns]
      show b.arena.spawns.size + _ = _
      rw [tidy.spawns]
      show 0 + _ = _
      omega
    have hnew : ∀ e ∈ Roster.freshFrom b.roster.next arena.spawns.toList,
        e.1 ∉ b.roster.handles := by
      intro e he hin
      have hlate := List.mem_map_of_mem (f := Prod.fst) he
      rw [Roster.handles_freshFrom, List.mem_range'_1] at hlate
      have := tidy.row.below _ hin
      omega
    refine ⟨moved, arena, told, Roster.freshFrom b.roster.next arena.spawns.toList, hs,
      Arena.stepAll_handles hs, ha, htold, hperm, (step_tidy tidy h).row.nodup,
      Roster.projectiles_freshFrom _ _, ?_, fun e he => ⟨hnew e he, Roster.freshFrom_active he⟩,
      hall, Roster.anyActive_eq_false hall⟩
    rw [Roster.length_freshFrom, Array.length_toList, hcount]

/-- A battle with a projectile that has ended, a warhead that is about to split, and a shell. -/
def splitting : Battle :=
  let shell : Projectile := .ofSpec {
    position := ⟨8, 4⟩, velocity := ⟨0, -1⟩, weapon := 7, owner := 0, warhead := .weapon
    maneuver := .splitTracked (some 1) false }
  { assemble {} (.blank 16 24) (.ofSeed 0) with
    roster := {
      entries := #[(4, { shell with active := false }), (2, shell), (7, { shell with weapon := 0 })]
      next := 8 } }

/-- The first one leaves, the warhead leaves six bombs behind, and the shell flies on; every bomb is
told of. -/
theorem step_conserves_splitting :
    splitting.Tidy ∧ ∃ b' told kept fresh, splitting.step = .ok b' ∧
      b'.roster.handles = [13, 12, 7, 8, 9, 10, 11] ∧ b'.arena.events.toList = told ∧
      b'.roster.entries.toList.Perm (kept ++ fresh) ∧ fresh.length = Event.spawnTotal told := by
  have tidy : splitting.Tidy := ⟨⟨by decide, by decide⟩, rfl⟩
  have run : (splitting.step.toOption.any fun b' =>
      decide (b'.roster.handles = [13, 12, 7, 8, 9, 10, 11])) = true := by decide +kernel
  -- The row that is computed shows the order of the handles after the swaps.
  obtain ⟨b', hb, run⟩ := Fault.exists_of_any run
  obtain ⟨moved, arena, told, fresh, _, _, _, htold, hperm, _, _, hfresh, _⟩ :=
    (step_conserves tidy).2 b' hb
  exact ⟨tidy, b', told, _, fresh, hb, of_decide_eq_true run, htold, hperm, hfresh⟩

end Battle

end Artillery
