import Artillery.Proofs.Arena.Budgets
import Artillery.Proofs.Battle.Careers
import Artillery.Proofs.Mirv

/-!
# Splitting warheads in a match

A splitting warhead that is fired sees the velocity that it has at the start of each of its steps.
It splits in the step in which it sees that turn, and is gone with it.

## Key results

- `stepProjectile_climbs`: a step of a warhead that has not split yet
- `Career.splits`: where a warhead splits along its career
- `BroodsOnce.perform`: there is one brood at most under a handle, whatever is called
- `splits_at_apogee`: a warhead splits at its first apogee and nowhere else
-/

namespace Artillery

open Mirv

/-! ## Steps -/

/-- Events of flight tell of no brood. -/
theorem Event.broods_of_isEnRoute {es : List Event} (h : ∀ e ∈ es, e.isEnRoute = true) :
    broods es = [] := by
  refine broods_eq_nil fun e he => ?_
  have hroute := h e he
  cases e with
  | spawned => exact nomatch hroute
  | _ => rfl

/-- A splitting warhead has seen some velocities and has not split. -/
structure Projectile.Climbs (p : Projectile) (arsenal : Arsenal) (seen : List Float) : Prop where
  warhead : p.warhead = .weapon
  mirv : ∃ w, arsenal.get? p.weapon = some w ∧ w.behavior = .mirv
  watches : Watches p seen

namespace Projectile

variable {p q : Projectile} {arsenal : Arsenal} {seen : List Float}

/-- In flight it does what its behavior says. -/
theorem Climbs.fly {s : Surroundings} (hp : p.Climbs s.arsenal seen) (active : p.active = true) :
    ∃ w, p.fly s = .ok (Mirv.fly p w) := by
  obtain ⟨w, hw, hmirv⟩ := hp.mirv
  refine ⟨w, ?_⟩
  unfold Projectile.fly
  rw [if_neg fun hc => hc.elim (fun ha => ha active) (not_isBomb hp.warhead), hp.watches.maneuver]
  dsimp only
  rw [hw]
  dsimp only
  unfold flyAs
  rw [hmirv]

theorem Climbs.fliesOn {a b : Arena} (hp : p.Climbs arsenal seen) (h : a.FliesOn p b q) :
    q.Climbs arsenal seen :=
  ⟨h.stock.warhead.trans hp.warhead, h.stock.weapon ▸ hp.mirv, hp.watches.congr h.maneuver⟩

/-- Where it strikes before it has split, it goes off in one. -/
theorem Climbs.strike {s : Surroundings} (hp : p.Climbs s.arsenal seen) (hit : Hit)
    (k : Keystream) : ((p.strike hit s).run k).1 = (.blast Mirv.impactRadius, p) := by
  obtain ⟨w, hw, hmirv⟩ := hp.mirv
  unfold Projectile.strike
  rw [hp.warhead, hp.watches.maneuver]
  dsimp only
  rw [hw]
  dsimp only
  unfold strikeAs
  rw [hmirv]
  rfl

end Projectile

namespace Arena

variable {a a' : Arena} {p p' : Projectile} {seen : List Float}

/-- A step of a warhead that sees its velocity turn is its end and makes six projectiles.  Any other
makes none, and the warhead ends or has seen one velocity more. -/
theorem stepProjectile_climbs (active : p.active = true) (hp : p.Climbs a.arsenal seen)
    (vs : List Float) (h : a.stepProjectile p = .ok (p', a')) :
    ∃ told, a'.events.toList = a.events.toList ++ told ∧
      (TurnsAt (seen ++ p.velocity.y :: vs) seen.length ∧ p'.active = false ∧
          Event.broods told = [6] ∨
        ¬TurnsAt (seen ++ p.velocity.y :: vs) seen.length ∧ Event.broods told = [] ∧
          (p'.active = true → p'.Climbs a.arsenal (seen ++ [p.velocity.y]))) := by
  obtain ⟨w, hfly⟩ := hp.fly (s := a.surroundings) active
  obtain ⟨hturns, heffect, _⟩ | ⟨hrises, heffect, hnext⟩ := fly_watches hp.watches w vs
  · obtain ⟨rfl, rfl⟩ := stepProjectile_removed active hfly (by rw [heffect]) h
    obtain ⟨es, hes, hbroods, _⟩ := a.applyFlight_bears (Mirv.fly p w).2 (Mirv.fly p w).1
    refine ⟨es, hes, .inl ⟨hturns, rfl, ?_⟩⟩
    rw [hbroods, heffect]
    rfl
  · have hflies : p.isRolling = false := by
      unfold Projectile.isRolling
      rw [hp.watches.maneuver]
    have hfertile : p.Fertile := by
      refine ⟨hp.warhead, ?_⟩
      unfold Projectile.isParticle
      rw [hp.watches.maneuver]
    obtain ⟨hstock, _⟩ := Mirv.fly_brood hfertile w
    have hovers := Mirv.fly_hovers hflies w
    have hclimbs : (Mirv.fly p w).2.Climbs a.arsenal (seen ++ [p.velocity.y]) :=
      ⟨hstock.warhead.trans hp.warhead, hstock.weapon ▸ hp.mirv, hnext⟩
    rw [stepProjectile_nothing active hfly heffect] at h
    obtain ⟨b, q, hflown, hresult⟩ := flyOn_cases (hovers.active.trans active) h
    have hq := hclimbs.fliesOn hflown
    obtain ⟨es, hes, henroute⟩ := hflown.told
    have hnone := Event.broods_of_isEnRoute henroute
    obtain ⟨rfl, rfl⟩ | ⟨_, hit, rfl, rfl⟩ := hresult
    · exact ⟨es, hes, .inr ⟨hrises, hnone, fun _ => hq⟩⟩
    · -- What it strikes sets it off, and that makes no projectiles.
      rw [← hflown.arsenal] at hq
      have hstrike := hq.strike (s := b.surroundings) hit b.keystream
      obtain ⟨fs, hfs, hbroods, _⟩ := b.impact_bears q hit
      have hblast : Event.broods fs = [] := by
        rw [hbroods, hstrike]
        exact if_pos rfl
      refine ⟨es ++ fs, by rw [hfs, hes, List.append_assoc], .inr ⟨hrises, ?_, fun on => ?_⟩⟩
      · rw [Event.broods_append, hnone, hblast]
        rfl
      · rw [impact_ends (by rw [hstrike]; rfl)] at on
        exact nomatch on

end Arena

/-! ## Careers -/

/-- So is a deed of such a warhead. -/
theorem Deed.IsStep.climbs {d : Deed} {arsenal : Arsenal} {seen : List Float} (h : d.IsStep arsenal)
    (active : d.before.active = true) (hp : d.before.Climbs arsenal seen) (vs : List Float) :
    TurnsAt (seen ++ d.before.velocity.y :: vs) seen.length ∧ d.after.active = false ∧
        d.broods = [6] ∨
      ¬TurnsAt (seen ++ d.before.velocity.y :: vs) seen.length ∧ d.broods = [] ∧
        (d.after.active = true → d.after.Climbs arsenal (seen ++ [d.before.velocity.y])) := by
  obtain ⟨a, a', rfl, hstep, htold⟩ := h
  obtain ⟨told, hevents, hcases⟩ := Arena.stepProjectile_climbs active hp vs hstep
  -- The broods of the deed are those of the events that its step has told.
  have hsame : d.broods = Event.broods told := by
    rw [hevents] at htold
    rw [List.append_cancel_left htold]
    rfl
  rw [hsame]
  exact hcases

/-- Along its career a warhead splits where the velocities that it sees turn for the first time. -/
theorem Career.splits {arsenal : Arsenal} {seen : List Float} {p : Projectile} {ds : List Deed}
    {r : Option Projectile} (h : Career arsenal p ds r) (active : p.active = true)
    (hp : p.Climbs arsenal seen) :
    ∀ i d, ds[i]? = some d →
      (ApogeeAt (seen ++ ds.map (·.before.velocity.y)) (seen.length + i) →
        d.broods = [6] ∧ d.after.active = false) ∧
      (¬ApogeeAt (seen ++ ds.map (·.before.velocity.y)) (seen.length + i) → d.broods = []) := by
  induction h generalizing seen with
  | rest p => exact fun i d hd => nomatch hd
  | @goes d ds r h on _ ih =>
    -- It goes on, so that it has not split in this step.
    obtain ⟨_, hends, _⟩ | ⟨hrises, hbroods, hclimbs⟩ :=
      h.climbs active hp (ds.map (·.before.velocity.y))
    · rw [hends] at on
      exact nomatch on
    · have hlater := ih on (hclimbs on)
      intro i d' hd'
      rw [List.map_cons]
      cases i with
      | zero =>
        obtain rfl := Option.some.inj hd'
        exact ⟨fun hc => absurd hc.1 hrises, fun _ => hbroods⟩
      | succ i =>
        have hrest := hlater i d' hd'
        rw [List.append_assoc, List.length_append, List.length_singleton, Nat.add_assoc,
          Nat.add_comm 1 i] at hrest
        exact hrest
  | @ends d h off =>
    intro i d' hd'
    cases i with
    | zero =>
      obtain rfl := Option.some.inj hd'
      obtain ⟨hturns, hends, hbroods⟩ | ⟨hrises, hbroods, _⟩ := h.climbs active hp []
      · exact ⟨fun _ => ⟨hbroods, hends⟩,
          fun hc => absurd (hp.watches.apogeeAt_length.2 hturns) hc⟩
      · exact ⟨fun hc => absurd hc.1 hrises, fun _ => hbroods⟩
    | succ i => exact nomatch hd'

namespace Battle

/-! ## Broods in a run -/

/-- There has been no brood under a handle, or there has been one and nothing has the handle any more. -/
structure BroodsOnce (handle : Nat) (ds : List Deed) (b : Battle) : Prop where
  tidy : b.Tidy
  known : handle < b.roster.next
  once : ds.flatMap Deed.broods = [] ∨
    (ds.flatMap Deed.broods).length = 1 ∧ handle ∉ b.roster.handles

namespace BroodsOnce

variable {b b' : Battle} {handle : Nat} {ds : List Deed}

theorem idle (h : BroodsOnce handle ds b) (tidy : b'.Tidy) (onward : Onward b b') :
    BroodsOnce handle ds b' where
  tidy := tidy
  known := Nat.lt_of_lt_of_le h.known onward.next_le
  once := h.once.imp_right (And.imp_right (onward.gone handle h.known))

/-- A brood is made by a projectile of the row, which leaves that with it. -/
theorem step (h : BroodsOnce handle ds b) (hs : b.step = .ok b') :
    BroodsOnce handle (ds ++ b.stepDeeds.filter (·.handle = handle)) b' := by
  have onward := Onward.step h.tidy hs
  refine ⟨step_tidy h.tidy hs, Nat.lt_of_lt_of_le h.known onward.next_le, ?_⟩
  by_cases hin : handle ∈ b.roster.handles
  · obtain ⟨⟨_, p⟩, hp, rfl⟩ := List.mem_map.1 hin
    -- Who is still in the row has had no brood: after one it would have left.
    have hnone : ds.flatMap Deed.broods = [] := h.once.resolve_right fun hc => hc.2 hin
    obtain ⟨d, hdeeds, _, _, _, hoff⟩ := step_deed h.tidy hs hp
    have hd : d ∈ b.stepDeeds := by
      have hmem := List.mem_singleton_self d
      rw [← hdeeds] at hmem
      exact (List.mem_filter.1 hmem).1
    rw [hdeeds, List.flatMap_append, hnone]
    -- Either the deed has no brood, or the projectile ends with it.
    obtain hquiet | ⟨_, hends, n, _, hone⟩ := (step_modest h.tidy hs d hd).once
    · exact .inl (by simp [hquiet])
    · exact .inr ⟨by simp [hone], hoff hends⟩
  · obtain ⟨hnone, hstays⟩ := step_gone h.tidy hs hin h.known
    rw [hnone, List.append_nil]
    exact h.once.imp_right fun hc => ⟨hc.1, hstays⟩

/-- So there is one brood at most, whatever is called. -/
theorem perform {c : Call} {es : List Event} (h : BroodsOnce handle ds b)
    (hp : c.perform b = .ok (es, b')) :
    BroodsOnce handle (ds ++ (c.deeds b).filter (·.handle = handle)) b' := by
  have keeps : Keeps handle (BroodsOnce handle) :=
    ⟨fun h hm => h.idle (hm.tidy h.tidy) hm.onward, step⟩
  -- Projectiles that are taken in hand keep their handles.
  have idle (hd : c.deeds b = []) (onward : Onward b b') :
      BroodsOnce handle (ds ++ (c.deeds b).filter (·.handle = handle)) b' := by
    rw [hd, List.filter_nil, List.append_nil]
    exact h.idle (Call.perform_tidy h.tidy hp) onward
  cases c with
  | setArsenal =>
    obtain ⟨rfl, rfl⟩ := Prod.mk.inj (Except.ok.inj hp)
    exact idle rfl (.of_roster rfl)
  | advance =>
    obtain ⟨r, hr, hp⟩ := Fault.bind_ok hp
    obtain ⟨rfl, rfl⟩ := Prod.mk.inj (Except.ok.inj hp)
    exact idle rfl (.advance hr)
  | strike | applyImpact | fly | applyFlight =>
    obtain ⟨r, hr, hp⟩ := Fault.bind_ok hp
    obtain ⟨rfl, rfl⟩ := Prod.mk.inj (Except.ok.inj hp)
    exact idle rfl (.withProjectile hr)
  | _ => exact keeps.perform trivial h hp

end BroodsOnce

/-! ## Shots -/

/-- A splitting warhead that is fired has seen nothing. -/
theorem launch?_climbs {b b' : Battle} {owner : ActorId} {degrees power : Float}
    {weapon : WeaponId} {w : Weapon} {handle : Nat}
    (h : b.launch? owner degrees power weapon = some (handle, b'))
    (hw : b.arena.arsenal.get? weapon = some w) (hmirv : w.behavior = .mirv) :
    ∃ p, (handle, p) ∈ b'.roster.entries.toList ∧ p.active = true ∧
      p.Climbs b'.arena.arsenal [] := by
  obtain ⟨p, hp, active, hweapon, hwarhead, hmaneuver⟩ := launch?_shot h hw
  rw [(Meanwhile.launch h).arsenal]
  refine ⟨p, hp, active, hwarhead, ⟨w, hweapon ▸ hw, hmirv⟩, .start ?_⟩
  rw [hmaneuver, hmirv]
  rfl

/-- Whatever is called, a splitting warhead splits once at most.  Where it is left to its steps, it
splits in the one that begins with the first apogee of the velocities with which its steps begin,
which is its end, and in no other. -/
def SplitsAtApogee (b : Battle) (handle : Nat) : Prop :=
  ∀ (cs : List Call) (es : List Event) (b' : Battle), Call.performAll cs b = .ok (es, b') →
    let deeds := Call.deedsOf handle cs b
    (deeds.flatMap Deed.broods).length ≤ 1 ∧
    ((∀ c ∈ cs, c.LeavesFlight) → ∀ i d, deeds[i]? = some d →
      (ApogeeAt (deeds.map (·.before.velocity.y)) i →
        d.broods = [6] ∧ d.after.active = false) ∧
      (¬ApogeeAt (deeds.map (·.before.velocity.y)) i → d.broods = []))

/-- So does every warhead that has seen nothing yet. -/
theorem splitsAtApogee_of_climbs {b : Battle} {handle : Nat} {p : Projectile} (tidy : b.Tidy)
    (hp : (handle, p) ∈ b.roster.entries.toList) (active : p.active = true)
    (fresh : p.Climbs b.arena.arsenal []) : b.SplitsAtApogee handle := by
  intro cs es b' hrun deeds
  constructor
  · -- That there is one brood at most holds of all calls, also of those that let it fly by hand.
    have hfirst : BroodsOnce handle [] b :=
      ⟨tidy, tidy.row.below handle (List.mem_map_of_mem hp), .inl rfl⟩
    obtain hnone | ⟨hone, _⟩ :=
      (Call.performAll_keeps (fun _ _ => BroodsOnce.perform) hfirst hrun).once
    · exact Nat.le_trans (Nat.le_of_eq (congrArg List.length hnone)) (Nat.zero_le 1)
    · exact Nat.le_of_eq hone
  · intro hcs
    -- Where only steps move it, its velocities are those before its steps.
    obtain ⟨r, hcareer, _⟩ := (Call.performAll_fares hcs (.start tidy hp) hrun).exists_career
    have hsplits := hcareer.splits active fresh
    simpa only [List.nil_append, List.length_nil, Nat.zero_add] using hsplits

/-- A splitting warhead splits at its first apogee and nowhere else.  Whatever positions and velocities
it is given before its steps, the step in which it sees its vertical velocity turn for the first
time removes it and releases six bombs of one radius where it is, and all others have no effect.
In a match it splits at the first apogee as well, from wherever it starts and wherever it is fired. -/
theorem splits_at_apogee :
    (∀ (weapon : Weapon) (p : Projectile) (legs : List (Vec2 × Vec2)),
      p.maneuver = .splitTracked none false →
      (flyAll weapon legs p).length = legs.length ∧
      ∀ i x v, legs[i]? = some (x, v) →
        (ApogeeAt (legs.map (·.2.y)) i →
          ∃ effect, (flyAll weapon legs p)[i]? = some effect ∧ IsFan p weapon x effect) ∧
        (¬ApogeeAt (legs.map (·.2.y)) i → (flyAll weapon legs p)[i]? = some .nothing)) ∧
    ∀ b : Battle, b.Tidy →
      (∀ handle p, (handle, p) ∈ b.roster.entries.toList → p.active = true →
        p.Climbs b.arena.arsenal [] → b.SplitsAtApogee handle) ∧
      ∀ owner degrees power weapon w handle b₁, b.arena.arsenal.get? weapon = some w →
        w.behavior = .mirv → b.launch? owner degrees power weapon = some (handle, b₁) →
        b₁.SplitsAtApogee handle := by
  refine ⟨fun weapon p legs fresh => ⟨length_flyAll weapon legs p,
    fun i x v hleg => flyAll_splits fresh weapon legs hleg⟩, fun b tidy => ⟨?_, ?_⟩⟩
  · intro handle p hp active fresh
    exact splitsAtApogee_of_climbs tidy hp active fresh
  · intro owner degrees power weapon w handle b₁ hw hmirv hlaunch
    obtain ⟨p, hp, active, fresh⟩ := launch?_climbs hlaunch hw hmirv
    exact splitsAtApogee_of_climbs (launch?_tidy tidy hlaunch) hp active fresh

/-- A warhead of a heavy fan. -/
def deathsHead : Weapon := ⟨"Death's Head", .mirv, 1, .weapon⟩

/-- It rises, begins to fall, and is thrown up again. -/
def ascent : List (Vec2 × Vec2) :=
  [(⟨10, 50⟩, ⟨30, 10⟩), (⟨11, 45⟩, ⟨30, 0.5⟩), (⟨12, 44⟩, ⟨30, -0.2⟩), (⟨12, 44⟩, ⟨30, 5⟩),
    (⟨13, 44⟩, ⟨30, -5⟩)]

/-- A splitting warhead before its first step. -/
def unsplit : Projectile := .ofSpec {
  position := ⟨0, 0⟩, velocity := ⟨0, 0⟩, weapon := 8, owner := 2, warhead := .weapon
  maneuver := .initial .mirv }

/-- A tank on a hill. -/
def battery : Battle := pit.addActor (.fresh 0 20 40)

/-- A splitting warhead that hardly climbs any more. -/
def skyrocket : Battle :=
  { assemble {} (.blank 40 20) (.ofSeed 0) with
    roster := ⟨#[(0, .ofSpec ⟨⟨2, 18⟩, ⟨50, 0.3⟩, 7, 0, .weapon, .initial .mirv⟩)], 1⟩ }

/-- It splits where it begins to fall, and does not when it falls again.  The rocket climbs in its
first four steps, splits in the fifth, and leaves six bombs. -/
theorem splits_at_apogee_ascent :
    ((∃ effect, (flyAll deathsHead ascent unsplit)[2]? = some effect ∧
      IsFan unsplit deathsHead ⟨12, 44⟩ effect) ∧
      (flyAll deathsHead ascent unsplit)[4]? = some .nothing) ∧
    (battery.Tidy ∧ ∃ handle b₁, battery.launch? 0 90 500 7 = some (handle, b₁) ∧
      b₁.SplitsAtApogee handle) ∧
    skyrocket.Tidy ∧
    ∃ es b', Call.performAll (List.replicate 5 .step) skyrocket = .ok (es, b') ∧
      ApogeeAt ((Call.deedsOf 0 (List.replicate 5 .step) skyrocket).map (·.before.velocity.y)) 4 ∧
      (Call.deedsOf 0 (List.replicate 5 .step) skyrocket).map Deed.broods = [[], [], [], [], [6]] ∧
      (∃ d, (Call.deedsOf 0 (List.replicate 5 .step) skyrocket)[4]? = some d ∧
        d.broods = [6] ∧ d.after.active = false) ∧
      b'.roster.handles = [6, 1, 2, 3, 4, 5] := by
  obtain ⟨hflights, hmatches⟩ := splits_at_apogee
  obtain ⟨_, hsteps⟩ := hflights deathsHead unsplit ascent rfl
  refine ⟨⟨(hsteps 2 ⟨12, 44⟩ ⟨30, -0.2⟩ rfl).1 (by decide +kernel),
    (hsteps 4 ⟨13, 44⟩ ⟨30, -5⟩ rfl).2 (by decide +kernel)⟩, ?_, ?_⟩
  · have tidy : battery.Tidy := ⟨⟨List.nodup_nil, List.forall_mem_nil _⟩, rfl⟩
    obtain ⟨⟨handle, b₁⟩, hlaunch⟩ : ∃ r, battery.launch? 0 90 500 7 = some r :=
      Option.isSome_iff_exists.1 (by decide +kernel)
    exact ⟨tidy, handle, b₁, hlaunch,
      (hmatches battery tidy).2 0 90 500 7 _ handle b₁ rfl rfl hlaunch⟩
  · have tidy : skyrocket.Tidy := ⟨⟨List.nodup_singleton 0, by decide⟩, rfl⟩
    have hends : (Call.performAll (List.replicate 5 .step) skyrocket).toOption.map
        (fun r => r.2.roster.handles) = some [6, 1, 2, 3, 4, 5] := by decide +kernel
    obtain ⟨⟨es, b'⟩, hrun⟩ : ∃ r, Call.performAll (List.replicate 5 .step) skyrocket = .ok r :=
      Fault.exists_of_isOk (by decide +kernel)
    rw [hrun] at hends
    have happex : ApogeeAt
        ((Call.deedsOf 0 (List.replicate 5 .step) skyrocket).map (·.before.velocity.y)) 4 := by
      decide +kernel
    have hbroods : (Call.deedsOf 0 (List.replicate 5 .step) skyrocket).map Deed.broods =
        [[], [], [], [], [6]] := by decide +kernel
    obtain ⟨d, hd, _⟩ : ∃ d, (Call.deedsOf 0 (List.replicate 5 .step) skyrocket)[4]? = some d ∧
        d.broods = [6] := Option.map_eq_some_iff.1 (by rw [← List.getElem?_map, hbroods]; rfl)
    -- The rocket has just begun its ascent, so that it is one of those the theorem is about.
    obtain ⟨_, hsplits⟩ := (hmatches skyrocket tidy).1 0 _ (List.mem_singleton_self _) rfl
      ⟨rfl, ⟨_, rfl, rfl⟩, .start rfl⟩ _ es b' hrun
    have hsplit := (hsplits (fun c hc => by rw [List.eq_of_mem_replicate hc]; trivial) 4 d hd).1
      happex
    exact ⟨tidy, es, b', hrun, happex, hbroods, ⟨d, hd, hsplit⟩, Option.some.inj hends⟩

end Battle

end Artillery
