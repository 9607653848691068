import Artillery.Proofs.Battle.Unfolding
import Artillery.Proofs.Trail

/-!
# Trails in a battle

Whatever is called, every projectile of the row has left one pixel in each of its steps of flight, and
its trail shows the latest of them.

## Key results

- `Recorded`: every projectile of the row trails what it has left so far
- `Recorded.step`, `Recorded.perform`: a step goes on with the trails, and so does every call
- `trail_shows_latest`: a trail shows the latest pixels that its projectile has left
-/

namespace Artillery

/-! ## What is left in a run -/

namespace Deed

/-- The pixel that a projectile has left in a step: the one at which it began, if the step has made it
older. -/
def departure (d : Deed) : List Pixel :=
  if d.after.age = d.before.age then [] else [d.before.pixel]

/-- The pixels that one projectile has left in some steps. -/
def departures (handle : Nat) (ds : List Deed) : List Pixel :=
  (ds.filter (·.handle = handle)).flatMap departure

theorem departures_append (handle : Nat) (ds es : List Deed) :
    departures handle (ds ++ es) = departures handle ds ++ departures handle es := by
  rw [departures, List.filter_append, List.flatMap_append]
  rfl

end Deed

namespace Battle

/-- The pixels that a projectile leaves in a call: those of its steps, or of the single flight that it
is sent on. -/
def Call.departures (handle : Nat) (b : Battle) : Call → List Pixel
  | advance n => if n = handle then ((b.roster.find? handle).map Projectile.departure).getD [] else []
  | c => Deed.departures handle (c.deeds b)

/-- The projectiles of the row have left some pixels, by their handles, and trail the latest of them.
Handles that have not been given out have left none. -/
structure Recorded (left : Nat → List Pixel) (b : Battle) : Prop where
  tidy : b.Tidy
  late : ∀ n, b.roster.next ≤ n → left n = []
  trails : ∀ e ∈ b.roster.entries.toList, e.2.Trails (left e.1)

namespace Recorded

variable {left more : Nat → List Pixel} {b b' : Battle} {handle : Nat}

/-- A battle without projectiles has no trails. -/
theorem start (hr : b.roster.entries = #[]) (hs : b.arena.spawns = #[]) :
    Recorded (fun _ => []) b := by
  have hrow : b.roster.handles = [] := by rw [Roster.handles, hr]; rfl
  refine ⟨⟨⟨hrow ▸ List.nodup_nil, fun n hn => ?_⟩, hs⟩, fun _ _ => rfl, fun e he => ?_⟩
  · rw [hrow] at hn
    exact absurd hn List.not_mem_nil
  · rw [hr] at he
    exact absurd he List.not_mem_nil

/-- The trails go on if each projectile of the row was there before and has gone on with its trail, or
is new and has left nothing. -/
theorem goes (h : Recorded left b) (tidy : b'.Tidy) (next_le : b.roster.next ≤ b'.roster.next)
    (late : ∀ n, b'.roster.next ≤ n → more n = [])
    (entries : ∀ e ∈ b'.roster.entries.toList,
      (∃ p, (e.1, p) ∈ b.roster.entries.toList ∧
        (p.Trails (left e.1) → e.2.Trails (left e.1 ++ more e.1))) ∨
      b.roster.next ≤ e.1 ∧ e.2.Trails [] ∧ more e.1 = []) :
    Recorded (fun n => left n ++ more n) b' where
  tidy := tidy
  late := fun n hn => by
    rw [h.late n (Nat.le_trans next_le hn), late n hn]
    rfl
  trails := fun e he => by
    obtain ⟨p, hp, hgoes⟩ | ⟨hnew, htrail, hnone⟩ := entries e he
    · -- Who was there has left what is recorded of it, and who is new nothing yet.
      exact hgoes (h.trails _ hp)
    · rw [h.late e.1 hnew, hnone]
      exact htrail

/-- Between the flights nothing is left. -/
theorem idle (h : Recorded left b) (tidy : b'.Tidy) (next_le : b.roster.next ≤ b'.roster.next)
    (entries : ∀ e ∈ b'.roster.entries.toList,
      (∃ p, (e.1, p) ∈ b.roster.entries.toList ∧ p.SameTrail e.2) ∨
        b.roster.next ≤ e.1 ∧ e.2.Trails []) :
    Recorded (fun n => left n ++ []) b' :=
  h.goes tidy next_le (fun _ _ => rfl) fun e he =>
    (entries e he).imp
      (fun ⟨p, hp, hsame⟩ => ⟨p, hp, fun ht => by rw [List.append_nil]; exact hsame.trails ht⟩)
      fun ⟨hnew, ht⟩ => ⟨hnew, ht, rfl⟩

/-- What leaves the row alone may change anything else. -/
theorem of_roster (h : Recorded left b) (tidy : b'.Tidy) (hr : b'.roster = b.roster) :
    Recorded (fun n => left n ++ []) b' :=
  h.idle tidy (Nat.le_of_eq (congrArg Roster.next hr.symm)) fun e he =>
    .inl ⟨e.2, hr ▸ he, .refl e.2⟩

/-! ## Single projectiles -/

theorem spawn (h : Recorded left b) (s : ProjectileSpec) :
    Recorded (fun n => left n ++ []) (b.spawn s).2 :=
  h.idle ⟨h.tidy.row.add _, h.tidy.spawns⟩ (Nat.le_succ _) fun e he => by
    obtain hin | rfl := spawn_entries b s e he
    · exact .inl ⟨e.2, hin, .refl e.2⟩
    · exact .inr ⟨Nat.le_refl _, Projectile.ofSpec_trails s⟩

theorem launch {owner : ActorId} {degrees power : Float} {weapon : WeaponId} (h : Recorded left b)
    (hl : b.launch? owner degrees power weapon = some (handle, b')) :
    Recorded (fun n => left n ++ []) b' := by
  have tidy := launch?_tidy h.tidy hl
  simp only [launch?, Option.bind_eq_bind, Option.bind_eq_some_iff] at hl
  obtain ⟨i, _, shooter, _, behavior, _, hl⟩ := hl
  obtain ⟨rfl, rfl⟩ := Prod.mk.inj (Option.some.inj hl)
  refine h.idle tidy (Nat.le_succ _) fun e he => ?_
  -- The new one has been put into the row after those that were there.
  obtain hin | hin := List.mem_append.1 (Roster.entries_put .. ▸ he)
  · exact .inl ⟨e.2, hin, .refl e.2⟩
  · rw [List.mem_singleton.1 hin]
    exact .inr ⟨Nat.le_refl _, rfl, rfl⟩

/-- What is done with a single projectile, but for a flight, leaves nothing. -/
theorem withProjectile {α : Type} {result : Option α}
    {act : Projectile → Arena → Except Fault (α × Projectile × Arena)} (h : Recorded left b)
    (hact : ∀ p v q arena, act p b.arena = .ok (v, q, arena) → p.SameTrail q)
    (hw : b.withProjectile handle act = .ok (result, b')) : Recorded (fun n => left n ++ []) b' :=
  h.idle (withProjectile_tidy h.tidy hw) (Onward.withProjectile hw).next_le fun e he =>
    (withProjectile_entries Projectile.SameTrail.refl hact hw e he).imp_right
      fun ⟨hnew, s, hs⟩ => ⟨hnew, hs ▸ Projectile.ofSpec_trails s⟩

/-- A single flight leaves a pixel of its own projectile only. -/
theorem advance {status : Option FlightStatus} (h : Recorded left b)
    (hm : b.advance handle = .ok (status, b')) :
    Recorded (fun n => left n ++ (Call.advance handle).departures n b) b' := by
  have hnext := (Onward.advance hm).next_le
  refine h.goes (advance_tidy h.tidy hm) hnext (fun n hn => ?_) fun e he => .inl ?_
  · simp only [Call.departures]
    split
    · -- A handle that has not been given out finds nobody.
      rename_i hhandle
      subst hhandle
      have hnone : b.roster.find? handle = none := by
        simp only [Roster.find?, Option.map_eq_none_iff, Array.find?_eq_none]
        intro e he heq
        have hlt := h.tidy.row.below _ (List.mem_map_of_mem (Array.mem_toList_iff.2 he))
        rw [of_decide_eq_true heq] at hlt
        omega
      rw [hnone]
      rfl
    · rfl
  · obtain ⟨hin, hother⟩ | ⟨hhandle, p, s, hp, hfind, hflown⟩ := advance_entries hm e he
    · refine ⟨e.2, hin, fun ht => ?_⟩
      rw [show (Call.advance handle).departures e.1 b = [] from if_neg (Ne.symm hother),
        List.append_nil]
      exact ht
    · refine ⟨p, hhandle ▸ hp, fun ht => ?_⟩
      have hleft : (Call.advance handle).departures e.1 b = p.departure := by
        simp only [Call.departures]
        rw [if_pos hhandle.symm, hhandle, hfind]
        rfl
      rw [hleft]
      exact Projectile.advance_trails ht hflown

/-! ## Steps and frames -/

/-- In a step every projectile leaves what its deed leaves. -/
theorem step (h : Recorded left b) (hs : b.step = .ok b') :
    Recorded (fun n => left n ++ Deed.departures n b.stepDeeds) b' := by
  have tidy := step_tidy h.tidy hs
  obtain ⟨moved, arena, hall, _, hperm, hnext⟩ := step_stepAll h.tidy.row hs
  have gone {n : Nat} (hn : n ∉ b.roster.handles) : Deed.departures n b.stepDeeds = [] := by
    rw [Deed.departures, stepDeeds_gone h.tidy hs hn]
    rfl
  have fresh {n : Nat} (hn : b.roster.next ≤ n) : n ∉ b.roster.handles := fun hin =>
    absurd (h.tidy.row.below n hin) (Nat.not_lt.2 hn)
  refine h.goes tidy (by omega) (fun n hn => gone (fresh (by omega))) fun e he => ?_
  by_cases hin : e.1 ∈ b.roster.handles
  · left
    obtain ⟨⟨n, p⟩, hp, rfl⟩ := List.mem_map.1 hin
    obtain ⟨d, hdeeds, rfl, ⟨a, a', _, hstep, _⟩, hon, hoff⟩ := step_deed h.tidy hs hp
    refine ⟨d.before, hp, fun ht => ?_⟩
    cases hactive : d.after.active with
    | true =>
      -- Whoever is in the row under the handle is the projectile as it comes out of the deed.
      have hsame : e = (e.1, d.after) := List.inj_on_of_nodup_map tidy.row.nodup he (hon hactive) rfl
      have hleft : Deed.departures e.1 b.stepDeeds = d.departure := by
        rw [Deed.departures, hdeeds, List.flatMap_singleton]
      rw [hleft, congrArg Prod.snd hsame]
      exact Arena.stepProjectile_trails ht hstep
    | false => exact absurd (List.mem_map_of_mem he) (hoff hactive)
  · right
    obtain hold | hnew := List.mem_append.1 (hperm.mem_iff.1 he)
    · refine absurd ?_ hin
      rw [Roster.handles, ← Arena.stepAll_handles hall]
      exact List.mem_map_of_mem (List.mem_filter.1 hold).1
    · obtain ⟨hn, s, _, hs⟩ := Roster.mem_freshFrom hnew
      exact ⟨hn, hs ▸ Projectile.ofSpec_trails s, gone hin⟩

/-- Stepping while projectiles fly records every departure. -/
theorem stepWhileFlying {n : Nat} (h : Recorded left b)
    (hs : Battle.stepWhileFlying n b = .ok b') :
    Recorded (fun handle => left handle ++ Deed.departures handle (deedsWhileFlying n b)) b' := by
  induction n generalizing b left with
  | zero =>
    obtain rfl := Except.ok.inj hs
    exact h.of_roster h.tidy rfl
  | succ n ih =>
    rw [Battle.stepWhileFlying] at hs
    rw [deedsWhileFlying]
    split at hs
    · rename_i hfly
      obtain ⟨b₁, hb, hs⟩ := Fault.bind_ok hs
      have hrest := ih (h.step hb) hs
      -- The deeds of the first step come before those of the others.
      rw [if_pos hfly, hb]
      simpa only [Deed.departures_append, List.append_assoc] using hrest
    · rename_i hfly
      obtain rfl := Except.ok.inj hs
      rw [if_neg hfly]
      exact h.of_roster h.tidy rfl

/-- In a frame the trails go on by its steps. -/
theorem tick {es : List Event} (h : Recorded left b) (ht : b.tick = .ok (es, b')) :
    Recorded (fun handle => left handle ++ (Call.tick).departures handle b) b' := by
  have tidy := tick_tidy h.tidy ht
  obtain ⟨flown, fallen, hf, hd, rfl, rfl⟩ := tick_cases ht
  have hroster : fallen.roster = flown.roster := by
    obtain ⟨_, falling, hd⟩ | ⟨_, rfl⟩ := hd
    · exact (stepFalling_roster hd).1
    · rfl
  have hall := (h.stepWhileFlying hf).of_roster tidy hroster
  simp only [List.append_nil] at hall
  exact hall

/-! ## Calls -/

/-- Every call goes on with the trails. -/
theorem perform {c : Call} {es : List Event} (h : Recorded left b)
    (hp : c.perform b = .ok (es, b')) :
    Recorded (fun handle => left handle ++ c.departures handle b) b' := by
  have tidy := Call.perform_tidy h.tidy hp
  -- Only a launch, a step and the calls on a projectile concern those in the row.
  cases c with
  | setArsenal | setActors | addActor | strikeActors | stepExplosions | setWind | drain =>
    obtain ⟨rfl, rfl⟩ := Prod.mk.inj (Except.ok.inj hp)
    exact h.of_roster tidy rfl
  | spawn s =>
    obtain ⟨rfl, rfl⟩ := Prod.mk.inj (Except.ok.inj hp)
    exact h.spawn s
  | launch owner degrees power weapon =>
    simp only [Call.perform] at hp
    split at hp <;> obtain ⟨rfl, rfl⟩ := Prod.mk.inj (Except.ok.inj hp)
    · rename_i hl
      exact h.launch hl
    · exact h.of_roster tidy rfl
  | tick => exact h.tick hp
  | placeActors count =>
    obtain ⟨r, hr, hp⟩ := Fault.bind_ok hp
    obtain ⟨rfl, rfl⟩ := Prod.mk.inj (Except.ok.inj hp)
    obtain ⟨placed, _, hr⟩ := Fault.bind_ok hr
    obtain rfl := Except.ok.inj hr
    exact h.of_roster tidy rfl
  | onTerrain op =>
    obtain ⟨terrain, _, hp⟩ := Fault.bind_ok hp
    obtain ⟨rfl, rfl⟩ := Prod.mk.inj (Except.ok.inj hp)
    exact h.of_roster tidy rfl
  | changeWind =>
    obtain ⟨r, hr, hp⟩ := Fault.bind_ok hp
    obtain ⟨rfl, rfl⟩ := Prod.mk.inj (Except.ok.inj hp)
    obtain ⟨wind, _, hr⟩ := Fault.bind_ok hr
    obtain rfl := Except.ok.inj hr
    exact h.of_roster tidy rfl
  | step =>
    obtain ⟨r, hr, hp⟩ := Fault.bind_ok hp
    obtain ⟨rfl, rfl⟩ := Prod.mk.inj (Except.ok.inj hp)
    exact h.step hr
  | stepFalling =>
    obtain ⟨r, hr, hp⟩ := Fault.bind_ok hp
    obtain ⟨rfl, rfl⟩ := Prod.mk.inj (Except.ok.inj hp)
    exact h.of_roster tidy (stepFalling_roster hr).1
  | advance handle =>
    obtain ⟨r, hr, hp⟩ := Fault.bind_ok hp
    obtain ⟨rfl, rfl⟩ := Prod.mk.inj (Except.ok.inj hp)
    exact h.advance hr
  | strike handle hit =>
    obtain ⟨r, hr, hp⟩ := Fault.bind_ok hp
    obtain ⟨rfl, rfl⟩ := Prod.mk.inj (Except.ok.inj hp)
    refine h.withProjectile (fun p v q arena ha => ?_) hr
    obtain ⟨_, hq⟩ := Prod.mk.inj (Except.ok.inj ha)
    exact (Prod.mk.inj hq).1 ▸ p.strike_trail hit _ _
  | applyImpact handle effect =>
    obtain ⟨r, hr, hp⟩ := Fault.bind_ok hp
    obtain ⟨rfl, rfl⟩ := Prod.mk.inj (Except.ok.inj hp)
    refine h.withProjectile (fun p v q arena ha => ?_) hr
    obtain ⟨_, hq⟩ := Prod.mk.inj (Except.ok.inj ha)
    exact (Prod.mk.inj hq).1 ▸ b.arena.applyImpact_trail p effect
  | fly handle =>
    obtain ⟨r, hr, hp⟩ := Fault.bind_ok hp
    obtain ⟨rfl, rfl⟩ := Prod.mk.inj (Except.ok.inj hp)
    refine h.withProjectile (fun p v q arena ha => ?_) hr
    obtain ⟨e, he, ha⟩ := Fault.bind_ok ha
    obtain ⟨_, hq⟩ := Prod.mk.inj (Except.ok.inj ha)
    exact (Prod.mk.inj hq).1 ▸ (Projectile.fly_track he).toSameTrail
  | applyFlight handle effect =>
    obtain ⟨r, hr, hp⟩ := Fault.bind_ok hp
    obtain ⟨rfl, rfl⟩ := Prod.mk.inj (Except.ok.inj hp)
    refine h.withProjectile (fun p v q arena ha => ?_) hr
    obtain ⟨_, hq⟩ := Prod.mk.inj (Except.ok.inj ha)
    exact (Prod.mk.inj hq).1 ▸ b.arena.applyFlight_trail p effect

/-- So does every run. -/
theorem performAll {cs : List Call} {es : List Event} (h : Recorded left b)
    (hp : Call.performAll cs b = .ok (es, b')) :
    Recorded (fun handle => left handle ++ Call.along (Call.departures handle) cs b) b' := by
  induction cs generalizing b left es with
  | nil =>
    obtain ⟨rfl, rfl⟩ := Prod.mk.inj (Except.ok.inj hp)
    exact h.of_roster h.tidy rfl
  | cons c cs ih =>
    obtain ⟨⟨first, b₁⟩, h₁, hp⟩ := Fault.bind_ok hp
    obtain ⟨⟨later, b₂⟩, h₂, hp⟩ := Fault.bind_ok hp
    obtain ⟨rfl, rfl⟩ := Prod.mk.inj (Except.ok.inj hp)
    -- What it leaves in the first call comes before what it leaves later.
    have hrest := ih (h.perform h₁) h₂
    simp only [Call.along, h₁]
    simpa only [List.append_assoc] using hrest

end Recorded

/-- A trail shows the latest pixels from which its projectile has flown, the earliest of them first:
as many as the projectile is old, and no more than fit.  This is so for a projectile made to order,
guided or not, after all that can be done with it, and for every projectile of the row after any
calls. -/
theorem trail_shows_latest :
    (∀ (s : ProjectileSpec) (guidance : Option Guidance) (es : List Episode) (left : List Pixel)
        (q : Projectile),
      Episode.playAll es { Projectile.ofSpec s with guidance } = .ok (left, q) →
        q.age = left.length ∧ q.trail.size = min q.age Projectile.trailLimit ∧
          q.trail.toList = left.rtake (min q.age Projectile.trailLimit)) ∧
      ∀ (b : Battle) (cs : List Call) (handed : List Event) (b' : Battle),
        b.roster.entries = #[] → b.arena.spawns = #[] →
        Call.performAll cs b = .ok (handed, b') →
          ∀ handle p, (handle, p) ∈ b'.roster.entries.toList →
            p.age = (Call.along (Call.departures handle) cs b).length ∧
            p.trail.size = min p.age Projectile.trailLimit ∧
            p.trail.toList =
              (Call.along (Call.departures handle) cs b).rtake (min p.age Projectile.trailLimit) := by
  refine ⟨fun s guidance es left q h => ?_, fun b cs handed b' hr hs h handle p hp => ?_⟩
  · have hnew : Projectile.Trails { Projectile.ofSpec s with guidance } [] := ⟨rfl, rfl⟩
    exact (Episode.playAll_trails hnew h).shows
  · exact (((Recorded.start hr hs).performAll h).trails _ hp).shows

/-- A leapfrog above a small field. -/
def frog : ProjectileSpec where
  position := ⟨20, -50⟩
  velocity := ⟨30, 20⟩
  weapon := 4
  owner := 0
  warhead := .weapon
  maneuver := .initial .bounce

/-- The leapfrog flies, and bounces on the way. -/
def hops : List Call := [.spawn frog, .step, .step, .strike 0 .terrain, .step, .advance 0]

/-- Of 250 pixels the trail shows the latest 200.  A bounce moves the leapfrog up without a pixel. -/
theorem trail_shows_latest_frog :
    (∃ left q, Episode.playAll (List.replicate 250 (.advance (.blank 41 55) {} 0))
        { Projectile.ofSpec frog with guidance := none } = .ok (left, q) ∧
      q.age = 250 ∧ q.trail.size = 200 ∧ q.trail.toList = left.drop 50) ∧
    pit.roster.entries = #[] ∧ pit.arena.spawns = #[] ∧
    ∃ handed b' p, Call.performAll hops pit = .ok (handed, b') ∧
      (0, p) ∈ b'.roster.entries.toList ∧
      p.trail.toList = [⟨20, -50⟩, ⟨21, -50⟩, ⟨21, -54⟩, ⟨22, -54⟩] := by
  refine ⟨?_, rfl, rfl, ?_⟩
  · have room : (Raster.blank 41 55).Roomy := Room.of_checkScreen rfl
    obtain ⟨left, q, hplay, hlength⟩ := Episode.playAll_advances room {} 0
      (p := { Projectile.ofSpec frog with guidance := none }) rfl rfl 250
    obtain ⟨hage, hsize, htrail⟩ := trail_shows_latest.1 frog none _ left q hplay
    rw [hlength] at hage
    rw [hage] at hsize htrail
    refine ⟨left, q, hplay, hage, hsize, htrail.trans ?_⟩
    -- The last 200 of 250 pixels are all but the first 50.
    rw [List.rtake, hlength]
    rfl
  · have run : ((Call.performAll hops pit).toOption.any fun r =>
        decide (r.2.roster.handles = [0])) = true := by decide +kernel
    obtain ⟨⟨handed, b'⟩, hb, run⟩ := Fault.exists_of_any run
    have hleft : Call.along (Call.departures 0) hops pit =
        [⟨20, -50⟩, ⟨21, -50⟩, ⟨21, -54⟩, ⟨22, -54⟩] := by decide +kernel
    have hrow : b'.roster.handles = [0] := of_decide_eq_true run
    have hin : 0 ∈ b'.roster.handles := hrow ▸ List.mem_singleton_self 0
    obtain ⟨⟨handle, p⟩, hp, rfl⟩ := List.mem_map.1 hin
    obtain ⟨hage, _, htrail⟩ := trail_shows_latest.2 pit hops handed b' rfl rfl hb 0 p hp
    refine ⟨handed, b', p, hb, hp, ?_⟩
    rw [hleft] at hage htrail
    rw [htrail, hage]
    rfl

end Battle

end Artillery
