import Mathlib.Data.List.DropRight
import Artillery.Proofs.Arena.Budgets
import Artillery.Proofs.Arena.Faultless

/-!
# The trail of a projectile

A step of flight leaves the pixel from which it starts in the trail, and a full trail loses its oldest
pixel.  Everything else that happens to a projectile may move it, but leaves its trail and its age
alone, so that the two agree at all times.

## Key results

- `Trails`: a projectile has left some pixels, and its trail shows the latest of them
- `recordTrail_toList`: recording a pixel keeps the latest ones
- `advance_trails`: a step of flight leaves one more pixel, if it moves the projectile
- `stepProjectile_trails`: a whole step leaves the pixel at which it begins, or none
- `Episode.playAll_trails`: so a trail goes on through everything that happens to a projectile
-/

namespace Artillery

namespace Projectile

/-- The pixel that a projectile leaves in a step of flight; none if it has ended or rolls, because
then flight does not move it. -/
def departure (p : Projectile) : List Pixel :=
  if p.active ∧ ¬p.isRolling then [p.pixel] else []

/-- A projectile has left some pixels, earliest first: one in each of its steps, and its trail
consists of the latest of them. -/
structure Trails (p : Projectile) (left : List Pixel) : Prop where
  age : p.age = left.length
  trail : p.trail.toList = left.rtake trailLimit

variable {p q : Projectile} {left : List Pixel}

/-! ## Recording -/

/-- A new projectile has left nothing. -/
theorem ofSpec_trails (s : ProjectileSpec) : (ofSpec s).Trails [] := ⟨rfl, rfl⟩

/-- A trail has as many pixels as there were, up to its limit. -/
theorem Trails.size (h : p.Trails left) : p.trail.size = min p.age trailLimit := by
  rw [← Array.length_toList, h.trail, h.age, List.rtake, List.length_drop]
  omega

/-- The number of pixels in a trail and the pixels themselves, by the age of the projectile. -/
theorem Trails.shows (h : p.Trails left) :
    p.age = left.length ∧ p.trail.size = min p.age trailLimit ∧
      p.trail.toList = left.rtake (min p.age trailLimit) := by
  have hkept : left.length - trailLimit = left.length - min left.length trailLimit := by omega
  refine ⟨h.age, h.size, h.trail.trans ?_⟩
  rw [List.rtake, List.rtake, h.age, hkept]

/-- The latest of some things but for one place are those of the rest. -/
theorem drop_one_rtake {α : Type} {l : List α} {n : Nat} (h : n < l.length) :
    (l.rtake (n + 1)).drop 1 = l.rtake n := by
  have hsum : l.length - (n + 1) + 1 = l.length - n := by omega
  rw [List.rtake, List.drop_drop, hsum, List.rtake]

/-- Nothing is dropped from a list that is short enough. -/
theorem rtake_of_length_le {α : Type} {l : List α} {n : Nat} (h : l.length ≤ n) : l.rtake n = l := by
  rw [List.rtake, Nat.sub_eq_zero_of_le h, List.drop_zero]

/-- Recording a pixel keeps the latest of all that have been recorded. -/
theorem recordTrail_toList (h : p.trail.toList = left.rtake trailLimit) :
    p.recordTrail.trail.toList = (left ++ [p.pixel]).rtake trailLimit := by
  have hsize : p.trail.size = left.length - (left.length - trailLimit) := by
    rw [← Array.length_toList, h, List.rtake, List.length_drop]
  have hlimit : trailLimit = 199 + 1 := rfl
  -- Room for the new pixel is made by the oldest one, or is there.
  have hkept : (if p.trail.size = trailLimit then p.trail.extract 1 p.trail.size
      else p.trail).toList = left.rtake 199 := by
    split
    · rename_i hfull
      rw [Array.toList_extract, List.extract_eq_take_drop, h,
        List.take_of_length_le (by rw [List.length_drop, ← h, Array.length_toList]), hlimit,
        drop_one_rtake (by omega)]
    · rw [h, rtake_of_length_le (by omega), rtake_of_length_le (by omega)]
  calc p.recordTrail.trail.toList
      = left.rtake 199 ++ [p.pixel] := by
        rw [← hkept]
        exact Array.toList_push ..
    _ = (left ++ [p.pixel]).rtake trailLimit := (List.rtake_concat_succ left 199 p.pixel).symm

/-- A step of flight leaves one more pixel, if it moves the projectile. -/
theorem advance_trails {terrain : Raster} {config : Config} {wind : Float} {status : FlightStatus}
    (hp : p.Trails left) (h : p.advance terrain config wind = .ok (status, q)) :
    q.Trails (left ++ p.departure) := by
  have stays (hd : p.departure = []) : p.Trails (left ++ p.departure) := by
    rw [hd, List.append_nil]
    exact hp
  unfold advance at h
  split at h
  · rename_i hended
    obtain ⟨_, rfl⟩ := Prod.mk.inj (Except.ok.inj h)
    exact stays (if_neg fun hc => hended hc.1)
  split at h
  · rename_i hrolls
    obtain ⟨_, rfl⟩ := Prod.mk.inj (Except.ok.inj h)
    exact stays (if_neg fun hc => hc.2 hrolls)
  · rename_i hactive hflies
    have hd : p.departure = [p.pixel] := if_pos ⟨Decidable.not_not.1 hactive, hflies⟩
    obtain ⟨⟨outcome, x, vx⟩, _, h⟩ := Fault.bind_ok h
    rw [hd]
    -- Whatever the walls say, the pixel has been recorded and the age counted.
    cases outcome with
    | _ =>
      obtain ⟨_, rfl⟩ := Prod.mk.inj (Except.ok.inj h)
      refine ⟨?_, recordTrail_toList hp.trail⟩
      rw [List.length_append, ← hp.age]
      rfl

/-! ## What leaves the trail alone -/

/-- A projectile is as old as it was, and has the trail that it had. -/
structure SameTrail (p q : Projectile) : Prop where
  age : q.age = p.age
  trail : q.trail = p.trail

namespace SameTrail

variable {r : Projectile}

theorem refl (p : Projectile) : SameTrail p p := ⟨rfl, rfl⟩

theorem trans (h₁ : SameTrail p q) (h₂ : SameTrail q r) : SameTrail p r :=
  ⟨h₂.age.trans h₁.age, h₂.trail.trans h₁.trail⟩

/-- Who keeps its age and its trail has left what it had. -/
theorem trails (h : SameTrail p q) (hp : p.Trails left) : q.Trails left :=
  ⟨h.age.trans hp.age, by rw [h.trail, hp.trail]⟩

end SameTrail

/-- Not even the pixel changes that a step of flight would leave. -/
structure SameTrack (p q : Projectile) : Prop extends SameTrail p q where
  departure : q.departure = p.departure

namespace SameTrack

variable {r : Projectile}

theorem refl (p : Projectile) : SameTrack p p := ⟨.refl p, rfl⟩

theorem trans (h₁ : SameTrack p q) (h₂ : SameTrack q r) : SameTrack p r :=
  ⟨h₁.toSameTrail.trans h₂.toSameTrail, h₂.departure.trans h₁.departure⟩

/-- What stays at its place leaves the same pixel. -/
theorem of_still (h : p.SameTrail q) (ha : q.active = p.active) (hr : q.isRolling = p.isRolling)
    (hx : q.position = p.position) : SameTrack p q := by
  refine ⟨h, ?_⟩
  unfold Projectile.departure pixel
  rw [ha, hr, hx]

/-- What rolls leaves none, wherever it is. -/
theorem of_rolling (h : p.SameTrail q) (hp : p.isRolling = true) (hq : q.isRolling = true) :
    SameTrack p q :=
  ⟨h, (if_neg fun hc => hc.2 hq).trans (if_neg fun hc => hc.2 hp).symm⟩

end SameTrack

end Projectile

open Projectile

/-- A particle is not moved by its behavior. -/
theorem Particle.fly_track {p : Projectile} {life : Nat} {soil : Bool}
    (hm : p.maneuver = .particle life soil) (terrain : Raster) (config : Config) :
    p.SameTrack (Particle.fly p life soil terrain config).2 := by
  -- A particle does not roll, neither before nor after.
  have hp : p.isRolling = false := by
    unfold isRolling
    rw [hm]
  unfold Particle.fly
  dsimp only
  split
  · exact .of_still ⟨rfl, rfl⟩ rfl hp.symm rfl
  · split <;> exact .of_still ⟨rfl, rfl⟩ rfl hp.symm rfl

/-- Nor is a splitting warhead. -/
theorem Mirv.fly_track (p : Projectile) (weapon : Weapon) : p.SameTrack (Mirv.fly p weapon).2 := by
  unfold Mirv.fly
  split
  · rename_i previousVy hm
    have hp : p.isRolling = false := by
      unfold isRolling
      rw [hm]
    dsimp only
    split <;> exact .of_still ⟨rfl, rfl⟩ rfl hp.symm rfl
  · exact .refl p

/-- A frame of a roller keeps its track. -/
theorem Roller.fly_track {p q : Projectile} {weapon : Weapon} {terrain : Raster} {config : Config}
    {effect : FlightEffect} (h : Roller.fly p weapon terrain config = .ok (effect, q)) :
    p.SameTrack q := by
  cases hrolls : p.isRolling with
  | false =>
    rw [Roller.fly_flying hrolls] at h
    obtain ⟨_, rfl⟩ := Prod.mk.inj (Except.ok.inj h)
    exact .refl p
  | true =>
    -- A roller is moved, but goes on rolling.
    obtain ⟨_, _, _, hm⟩ := isRolling_iff.1 hrolls
    obtain ⟨_, position, rfl⟩ | ⟨_, x, vx, _, h⟩ := Roller.fly_cases hm h
    · exact .of_rolling ⟨rfl, rfl⟩ hrolls hrolls
    · obtain ⟨_, _, _, _, rfl⟩ := Roller.settle_cases h
      exact .of_rolling ⟨rfl, rfl⟩ hrolls rfl

namespace Projectile

variable {p q : Projectile} {left : List Pixel}

/-- In flight a behavior moves nothing but what rolls. -/
theorem fly_track {s : Surroundings} {effect : FlightEffect} (h : p.fly s = .ok (effect, q)) :
    p.SameTrack q := by
  -- All behaviors give their answer in the same form, so that it is enough to look at that.
  have answer {r : FlightEffect × Projectile} (hr : p.SameTrack r.2)
      (h : (.ok r : Except Fault _) = .ok (effect, q)) : p.SameTrack q := by
    obtain rfl := Except.ok.inj h
    exact hr
  unfold fly at h
  split at h
  · exact answer (.refl p) h
  · split at h
    · rename_i hm
      exact answer (Particle.fly_track hm s.terrain s.config) h
    · split at h
      · unfold flyAs at h
        split at h
        · exact Roller.fly_track h
        · exact answer (Mirv.fly_track p _) h
        · exact answer (.refl p) h
      · exact answer (.refl p) h

/-- Guidance turns a projectile and does not move it. -/
theorem guide_track (p : Projectile) (actors : List Actor) : p.SameTrack (p.guide actors).2 := by
  unfold guide
  split
  · split
    · exact .of_still ⟨rfl, rfl⟩ rfl rfl rfl
    · split
      · exact .of_still ⟨rfl, rfl⟩ rfl rfl rfl
      · exact .refl p
    · exact .refl p
  · exact .refl p

/-- An impact may move a projectile, and leaves its trail alone. -/
theorem strike_trail (p : Projectile) (hit : Hit) (s : Surroundings) (k : Keystream) :
    p.SameTrail ((p.strike hit s).run k).1.2 := by
  obtain ⟨_, _, _, h⟩ := p.strike_course hit s k
  rw [h]
  exact ⟨rfl, rfl⟩

end Projectile

/-- A shield may throw a projectile back, and leaves its trail alone. -/
theorem Actor.deflect_trail {target target' : Actor} {p q : Projectile} {depleted : Bool}
    {k k' : Keystream} (h : (target.deflect p).run k = (some (target', q, depleted), k')) :
    p.SameTrail q := by
  rw [Actor.deflect_course h]
  exact ⟨rfl, rfl⟩

namespace Arena

/-- Carrying out an effect in flight leaves the trail. -/
theorem applyFlight_trail (a : Arena) (p : Projectile) (effect : FlightEffect) :
    p.SameTrail (a.applyFlight p effect).1 := by
  rw [applyFlight_fst]
  split <;> exact ⟨rfl, rfl⟩

/-- So does carrying out one where the projectile strikes. -/
theorem applyImpact_trail (a : Arena) (p : Projectile) (effect : ImpactEffect) :
    p.SameTrail (a.applyImpact p effect).1 := by
  rw [applyImpact_fst]
  split <;> exact ⟨rfl, rfl⟩

/-- So does a whole impact. -/
theorem impact_trail (a : Arena) (p : Projectile) (hit : Hit) :
    p.SameTrail (a.impact p hit).1 :=
  (p.strike_trail hit _ _).trans (applyImpact_trail _ _ _)

/-- Nothing that comes of a step of flight changes the trail any more. -/
theorem resolve_trail (a : Arena) (p : Projectile) (status : FlightStatus) :
    p.SameTrail (a.resolve p status).1 := by
  cases status with
  | flying => exact .refl p
  | offscreen => exact ⟨rfl, rfl⟩
  | hitTerrain => exact a.impact_trail p .terrain
  | hitWall => exact a.impact_trail p .wall
  | hitTank id =>
    unfold resolve
    dsimp only
    split
    · rename_i hd
      -- A shield sets a new course, and nothing else of the projectile.
      rw [(deflect?_cases hd).1]
      exact ⟨rfl, rfl⟩
    · exact a.impact_trail p (.tank id)

/-- A step leaves the pixel at which it begins where it makes the projectile older, and none where
it does not. -/
theorem stepProjectile_trails {a a' : Arena} {p p' : Projectile} {left : List Pixel}
    (hp : p.Trails left) (h : a.stepProjectile p = .ok (p', a')) :
    p'.Trails (left ++ if p'.age = p.age then [] else [p.pixel]) := by
  have idle (hs : p.SameTrail p') : p'.Trails (left ++ if p'.age = p.age then [] else [p.pixel]) := by
    rw [if_pos hs.age, List.append_nil]
    exact hs.trails hp
  by_cases active : p.active = true
  · obtain ⟨effect, q, hf, ⟨_, rfl⟩ | ⟨hon, b, status, r, hm, rfl⟩⟩ := stepProjectile_cases active h
    · exact idle ((Projectile.fly_track hf).toSameTrail.trans (a.applyFlight_trail q effect))
    · -- Up to its flight the projectile is where it was at the beginning, unless it rolls.
      have hkept : (a.applyFlight q effect).1 = q := by
        rw [applyFlight_fst] at hon ⊢
        split at hon
        · exact nomatch hon
        · rename_i hstays
          exact if_neg hstays
      rw [hkept] at hm
      have htrack := (Projectile.fly_track hf).trans (q.guide_track (a.applyFlight q effect).2.actors)
      have hflown := (b.resolve_trail r status).trails
        (Projectile.advance_trails (htrack.toSameTrail.trails hp) hm)
      rw [htrack.departure] at hflown
      unfold Projectile.departure at hflown
      -- A roller leaves no pixel, and is no older; whatever flies leaves one and is.
      split at hflown
      · have hage : (b.resolve r status).1.age ≠ p.age := by
          rw [hflown.age, hp.age, List.length_append]
          exact Nat.succ_ne_self _
        rwa [if_neg hage]
      · have hage : (b.resolve r status).1.age = p.age := by
          rw [hflown.age, hp.age, List.append_nil]
        rwa [if_pos hage]
  · rw [stepProjectile_eq, if_pos active] at h
    obtain ⟨rfl, _⟩ := Prod.mk.inj (Except.ok.inj h)
    exact idle (.refl p)

end Arena

/-! ## All that happens to a projectile -/

/-- What can be done with a projectile, with all that the outcome depends on. -/
inductive Episode where
  /-- It flies for one step. -/
  | advance (terrain : Raster) (config : Config) (wind : Float)
  /-- Its behavior acts in flight. -/
  | fly (s : Surroundings)
  /-- What a behavior asks for in flight is carried out. -/
  | applyFlight (a : Arena) (effect : FlightEffect)
  /-- Guidance acts. -/
  | guide (actors : List Actor)
  /-- It strikes something. -/
  | strike (hit : Hit) (s : Surroundings) (k : Keystream)
  /-- What an impact asks for is carried out. -/
  | applyImpact (a : Arena) (effect : ImpactEffect)
  /-- An actor throws it back, if that can. -/
  | deflect (target : Actor) (k : Keystream)
  /-- What comes of a step of flight: it may be lost, strike or be thrown back. -/
  | resolve (a : Arena) (status : FlightStatus)

namespace Episode

/-- The projectile afterwards. -/
def play (p : Projectile) : Episode → Except Fault Projectile
  | advance terrain config wind => do return (← p.advance terrain config wind).2
  | fly s => do return (← p.fly s).2
  | applyFlight a effect => .ok (a.applyFlight p effect).1
  | guide actors => .ok (p.guide actors).2
  | strike hit s k => .ok ((p.strike hit s).run k).1.2
  | applyImpact a effect => .ok (a.applyImpact p effect).1
  | deflect target k =>
    match ((target.deflect p).run k).1 with
    | some (_, q, _) => .ok q
    | none => .ok p
  | resolve a status => .ok (a.resolve p status).1

/-- The pixel that the projectile leaves: only steps of flight have one. -/
def departure (p : Projectile) : Episode → List Pixel
  | advance .. => p.departure
  | _ => []

/-- Episodes one after another: the pixels that the projectile has left, and the projectile in the
end. -/
def playAll : List Episode → Projectile → Except Fault (List Pixel × Projectile)
  | [], p => .ok ([], p)
  | e :: es, p => do
    let q ← e.play p
    let (later, r) ← playAll es q
    return (e.departure p ++ later, r)

variable {p q : Projectile} {left : List Pixel}

/-- An episode other than a step of flight leaves the trail alone. -/
theorem play_trails {e : Episode} (hp : p.Trails left) (h : e.play p = .ok q) :
    q.Trails (left ++ e.departure p) := by
  have idle (hd : e.departure p = []) (hs : p.SameTrail q) : q.Trails (left ++ e.departure p) := by
    rw [hd, List.append_nil]
    exact hs.trails hp
  -- Only a step of flight can record a pixel; the others are told by what they keep.
  cases e with
  | advance terrain config wind =>
    obtain ⟨r, hr, h⟩ := Fault.bind_ok h
    obtain rfl := Except.ok.inj h
    exact Projectile.advance_trails hp hr
  | fly s =>
    obtain ⟨r, hr, h⟩ := Fault.bind_ok h
    obtain rfl := Except.ok.inj h
    exact idle rfl (Projectile.fly_track hr).toSameTrail
  | applyFlight a effect =>
    obtain rfl := Except.ok.inj h
    exact idle rfl (a.applyFlight_trail p effect)
  | guide actors =>
    obtain rfl := Except.ok.inj h
    exact idle rfl (p.guide_track actors).toSameTrail
  | strike hit s k =>
    obtain rfl := Except.ok.inj h
    exact idle rfl (p.strike_trail hit s k)
  | applyImpact a effect =>
    obtain rfl := Except.ok.inj h
    exact idle rfl (a.applyImpact_trail p effect)
  | deflect target k =>
    simp only [play] at h
    split at h <;> obtain rfl := Except.ok.inj h
    · rename_i hd
      exact idle rfl (Actor.deflect_trail (Prod.ext hd rfl))
    · exact idle rfl (.refl p)
  | resolve a status =>
    obtain rfl := Except.ok.inj h
    exact idle rfl (a.resolve_trail p status)

/-- Through all episodes a projectile trails what it has left. -/
theorem playAll_trails {es : List Episode} {later : List Pixel} (hp : p.Trails left)
    (h : playAll es p = .ok (later, q)) : q.Trails (left ++ later) := by
  induction es generalizing p left later with
  | nil =>
    obtain ⟨rfl, rfl⟩ := Prod.mk.inj (Except.ok.inj h)
    rwa [List.append_nil]
  | cons e es ih =>
    obtain ⟨r, hr, h⟩ := Fault.bind_ok h
    obtain ⟨⟨last, _⟩, hs, h⟩ := Fault.bind_ok h
    obtain ⟨rfl, rfl⟩ := Prod.mk.inj (Except.ok.inj h)
    rw [← List.append_assoc]
    exact ih (play_trails hp hr) hs

/-- What is in flight leaves a pixel in each of its steps, however many there are. -/
theorem playAll_advances {terrain : Raster} (room : terrain.Roomy) (config : Config) (wind : Float)
    (active : p.active = true) (flies : p.isRolling = false) (n : Nat) :
    ∃ later q, playAll (List.replicate n (.advance terrain config wind)) p = .ok (later, q) ∧
      later.length = n := by
  induction n generalizing p with
  | zero => exact ⟨[], p, rfl, rfl⟩
  | succ n ih =>
    obtain ⟨⟨status, r⟩, hr⟩ := p.advance_returns room config wind
    obtain ⟨hkind, hon⟩ := Projectile.advance_frame hr
    have hrolls : r.isRolling = false := by
      rw [isRolling, hkind]
      exact flies
    obtain ⟨later, q, hq, hlength⟩ := ih (hon.trans active) hrolls
    refine ⟨p.pixel :: later, q, ?_, congrArg Nat.succ hlength⟩
    -- It is active and flies before each of the steps, which is what the induction carries along.
    have hleft : p.departure = [p.pixel] := if_pos ⟨active, ne_true_of_eq_false flies⟩
    have hplay : (advance terrain config wind).play p = .ok r := by
      rw [play, hr]
      rfl
    rw [List.replicate_succ, playAll, hplay, departure, hleft]
    change (playAll _ r >>= _) = _
    rw [hq]
    rfl

end Episode

end Artillery
