import Artillery.Proofs.Arena.Progress
import Artillery.Proofs.Battle.Conservation

/-!
# Progress of a battle

Every step ends an active projectile or brings it on, so that no shot lasts for ever, with one
exception: what rolls without the behavior of a roller is moved by nobody.  Such a projectile stays
as it is, and the air is never clear again.

## Key results

- `step_progress`: a step ends what is active or brings it on, unless it is stranded
- `step_stranded`: a step leaves a stranded projectile as it is
- `step_stuck`: a battle that stays as it is although a projectile is active
-/

namespace Artillery

namespace Arena

/-- Each projectile of a row is stepped over some arena with the same arsenal. -/
theorem stepAll_mem {todo moved : List (Nat × Projectile)} {a a' : Arena}
    (h : stepAll todo a = .ok (moved, a')) {handle : Nat} {p : Projectile}
    (hm : (handle, p) ∈ todo) :
    ∃ (b : Arena) (p' : Projectile) (b' : Arena), b.arsenal = a.arsenal ∧
      b.stepProjectile p = .ok (p', b') ∧ (handle, p') ∈ moved := by
  induction todo generalizing a moved with
  | nil => exact nomatch hm
  | cons e todo ih =>
    obtain ⟨⟨q, a₁⟩, hq, h⟩ := Fault.bind_ok h
    obtain ⟨⟨rest, a₂⟩, hr, h⟩ := Fault.bind_ok h
    obtain ⟨rfl, rfl⟩ := Prod.mk.inj (Except.ok.inj h)
    obtain rfl | hm := List.mem_cons.1 hm
    · exact ⟨a, q, a₁, rfl, hq, List.mem_cons_self⟩
    · -- What the first one does to the arena leaves its table.
      obtain ⟨es, hes⟩ := stepProjectile_moves hq
      obtain ⟨b, p', b', hb, hp, hin⟩ := ih hr hm
      exact ⟨b, p', b', hb.trans hes.rules.2.1, hp, List.mem_cons_of_mem _ hin⟩

end Arena

namespace Battle

variable {b b' : Battle} {handle : Nat} {p : Projectile}

/-- What comes out of the pass of a step is in the row afterwards, unless it has ended; then nothing
is under its handle any more. -/
theorem step_moved {moved : List (Nat × Projectile)} {arena : Arena} (row : b.roster.Valid)
    (hs : Arena.stepAll b.roster.entries.toList b.redraw.arena = .ok (moved, arena))
    (hperm : b'.roster.entries.toList.Perm
      (moved.filter (·.2.active) ++ Roster.freshFrom b.roster.next arena.spawns.toList))
    (hin : (handle, p) ∈ moved) :
    (p.active = true → (handle, p) ∈ b'.roster.entries.toList) ∧
      (p.active = false → handle ∉ b'.roster.handles) := by
  refine ⟨fun hon => ?_, fun hends hmem => ?_⟩
  · exact hperm.mem_iff.2 (List.mem_append_left _ (List.mem_filter.2 ⟨hin, hon⟩))
  · have hold : handle ∈ b.roster.handles := by
      rw [Roster.handles, ← Arena.stepAll_handles hs]
      exact List.mem_map.2 ⟨_, hin, rfl⟩
    obtain ⟨e, he, rfl⟩ := List.mem_map.1 hmem
    obtain he | he := List.mem_append.1 (hperm.mem_iff.1 he)
    · -- Under its handle nothing else has come out of the pass.
      obtain ⟨he, hon⟩ := List.mem_filter.1 he
      have hnodup : (moved.map Prod.fst).Nodup := by
        rw [Arena.stepAll_handles hs]
        exact row.nodup
      have hsame : e = (e.1, p) := List.inj_on_of_nodup_map hnodup he hin rfl
      rw [hsame, hends] at hon
      exact absurd hon Bool.false_ne_true
    · -- Projectiles that are new are given handles that nothing had before.
      have hlate := List.mem_map_of_mem (f := Prod.fst) he
      rw [Roster.handles_freshFrom, List.mem_range'_1] at hlate
      have := row.below _ hold
      omega

/-- A step takes each projectile of the row through a step under the same arsenal.  It stays in the row
exactly as it comes out of it, or leaves the row if that has ended it. -/
theorem step_mem (tidy : b.Tidy) (h : b.step = .ok b')
    (hp : (handle, p) ∈ b.roster.entries.toList) :
    ∃ (a : Arena) (p' : Projectile) (a' : Arena),
      a.arsenal = b.arena.arsenal ∧ a.stepProjectile p = .ok (p', a') ∧
      (p'.active = true → (handle, p') ∈ b'.roster.entries.toList) ∧
      (p'.active = false → handle ∉ b'.roster.handles) := by
  obtain ⟨moved, arena, hs, _, hperm, _⟩ := step_stepAll tidy.row h
  obtain ⟨a, p', a', ha, hstep, hin⟩ := Arena.stepAll_mem hs hp
  exact ⟨a, p', a', ha, hstep, step_moved tidy.row hs hperm hin⟩

/-- A step leaves a stranded projectile as it is. -/
theorem step_stranded (tidy : b.Tidy) (h : b.step = .ok b')
    (hp : (handle, p) ∈ b.roster.entries.toList) (active : p.active = true)
    (hs : p.Stranded b.arena.arsenal) : (handle, p) ∈ b'.roster.entries.toList := by
  obtain ⟨a, p', a', ha, hstep, hon, _⟩ := step_mem tidy h hp
  rw [← ha] at hs
  rw [Arena.stepProjectile_stranded active hs] at hstep
  obtain ⟨rfl, _⟩ := Prod.mk.inj (Except.ok.inj hstep)
  exact hon active

/-- So does any number of steps. -/
theorem stepWhileFlying_stranded {n : Nat} (tidy : b.Tidy) (h : stepWhileFlying n b = .ok b')
    (hp : (handle, p) ∈ b.roster.entries.toList) (active : p.active = true)
    (hs : p.Stranded b.arena.arsenal) : (handle, p) ∈ b'.roster.entries.toList := by
  -- The arsenal stays as well, and with it the reason why the projectile is stranded.
  have hkeeps : b'.Tidy ∧ (handle, p) ∈ b'.roster.entries.toList ∧ p.Stranded b'.arena.arsenal := by
    apply stepWhileFlying_keeps (P := fun c =>
      c.Tidy ∧ (handle, p) ∈ c.roster.entries.toList ∧ p.Stranded c.arena.arsenal) _ ⟨tidy, hp, hs⟩ h
    rintro c c' ⟨tidy, hp, hs⟩ hstep
    obtain ⟨es, arena, hmoves, ha, _⟩ := step_moves hstep
    have harsenal : c'.arena.arsenal = c.arena.arsenal := by
      rw [ha]
      exact hmoves.rules.2.1
    exact ⟨step_tidy tidy hstep, step_stranded tidy hstep hp active hs, harsenal ▸ hs⟩
  exact hkeeps.2.1

/-- A step brings on whatever is active and not stranded.  Such a projectile has ended after the step,
or it is a step older, or as a roller it has rolled a step more; in no case is it as it was.  What is
stranded stays as it is, however many steps are made.  Ages and steps are counted without a bound,
which is what 32 bits do until a counter is at its last value. -/
theorem step_progress (tidy : b.Tidy) (hp : (handle, p) ∈ b.roster.entries.toList)
    (active : p.active = true) :
    (¬p.Stranded b.arena.arsenal → ∀ b', b.step = .ok b' →
      handle ∉ b'.roster.handles ∨ ∃ p', (handle, p') ∈ b'.roster.entries.toList ∧
        (p'.isRolling = false → p'.age = p.age + 1) ∧
        (p.isRolling = true → p'.isRolling = true → p'.framesRolled = p.framesRolled + 1) ∧
        p' ≠ p) ∧
    (p.Stranded b.arena.arsenal → ∀ n b', stepWhileFlying n b = .ok b' →
      (handle, p) ∈ b'.roster.entries.toList) := by
  refine ⟨fun hs b' h => ?_, fun hs n b' h => stepWhileFlying_stranded tidy h hp active hs⟩
  obtain ⟨a, p', a', ha, hstep, hon, hoff⟩ := step_mem tidy h hp
  rw [← ha] at hs
  -- What goes on has been counted on: by its age in the air, by its frames on the ground.
  cases hends : p'.active with
  | false => exact .inl (hoff hends)
  | true =>
    have hgoes : ¬p'.active = false := ne_false_of_eq_true hends
    refine .inr ⟨p', hon hends, ?_⟩
    cases hr : p.isRolling with
    | false =>
      have hage := (Arena.stepProjectile_flying active hr hstep).resolve_left hgoes
      refine ⟨fun _ => hage, fun hc => absurd hc Bool.false_ne_true, ?_⟩
      rintro rfl
      omega
    | true =>
      obtain ⟨hrolls, hframes⟩ :=
        (Arena.stepProjectile_rolling active hr hs hstep).resolve_left hgoes
      refine ⟨fun hc => ?_, fun _ _ => hframes, ?_⟩
      · rw [hrolls] at hc
        exact nomatch hc
      · rintro rfl
        omega

/-- A shell, and a roller that has rolled long enough, over an empty field. -/
def bowling : Battle :=
  let shell : Projectile := .ofSpec {
    position := ⟨8, 4⟩, velocity := ⟨0, 0⟩, weapon := 0, owner := 0, warhead := .weapon
    maneuver := .none }
  { assemble {} (.blank 16 24) (.ofSeed 0) with
    roster := {
      entries := #[(4, shell), (2, { shell with weapon := 13, maneuver := .rolling 1 1 120 })]
      next := 5 } }

/-- The roller goes off, and the shell is a step older. -/
theorem step_progress_bowling :
    bowling.Tidy ∧ ∃ b', bowling.step = .ok b' ∧ b'.roster.handles = [4] ∧
      ∃ shell, (4, shell) ∈ b'.roster.entries.toList ∧ shell.age = 1 := by
  have tidy : bowling.Tidy := ⟨⟨by decide, by decide⟩, rfl⟩
  have run : (bowling.step.toOption.any fun b' => decide (
      b'.roster.entries.toList.map (fun e => (e.1, e.2.isRolling)) = [(4, false)])) = true := by
    decide +kernel
  obtain ⟨b', hb, run⟩ := Fault.exists_of_any run
  have hrow := of_decide_eq_true run
  have hhandles : b'.roster.handles = [4] := by
    have hfirst := congrArg (List.map Prod.fst) hrow
    rw [List.map_map] at hfirst
    exact hfirst
  -- The shell that is left flies, and who flies is older after the step.
  have hflies : ∀ e ∈ b'.roster.entries.toList, e.2.isRolling = false := by
    intro e he
    have hm : (e.1, e.2.isRolling) ∈ [(4, false)] := by
      rw [← hrow]
      exact List.mem_map.2 ⟨e, he, rfl⟩
    exact congrArg Prod.snd (List.mem_singleton.1 hm)
  have hp : (4, _) ∈ bowling.roster.entries.toList := List.mem_cons_self
  obtain ⟨hprogress, _⟩ := step_progress tidy hp rfl
  obtain hgone | ⟨shell, hin, hage, _⟩ := hprogress (fun hs => Bool.false_ne_true hs.1) b' hb
  · exact absurd (by rw [hhandles]; exact List.mem_singleton_self 4) hgone
  · exact ⟨tidy, b', hb, hhandles, shell, hin, hage (hflies _ hin)⟩

/-- A missile that has been made to roll. -/
def stuck : Battle :=
  ((assemble {} (.blank 16 24) (.ofSeed 0)).spawn {
    position := ⟨8, 4⟩, velocity := ⟨0, 0⟩, weapon := 0, owner := 0, warhead := .weapon
    maneuver := .rolling 1 2 0 }).2

/-- Not every active projectile is brought on: the missile is as it was, although flight leaves it to
its behavior. -/
theorem step_stuck :
    ∃ b' p, stuck.step = .ok b' ∧ (0, p) ∈ stuck.roster.entries.toList ∧ p.active = true ∧
      p.isRolling = true ∧ (0, p) ∈ b'.roster.entries.toList := by
  have run : stuck.step.isOk = true := by decide +kernel
  obtain ⟨b', hb⟩ := Fault.exists_of_isOk run
  have tidy : stuck.Tidy := ⟨⟨by decide, by decide⟩, rfl⟩
  have hm : (0, Projectile.ofSpec _) ∈ stuck.roster.entries.toList := List.mem_cons_self
  -- The behavior of a missile is not to roll.
  refine ⟨b', _, hb, hm, rfl, rfl, step_stranded tidy hb hm rfl ⟨rfl, .inr ?_⟩⟩
  intro w hw
  obtain rfl := Option.some.inj hw
  decide

end Battle

end Artillery
