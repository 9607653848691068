import Artillery.Proofs.Arena.Faultless
import Artillery.Proofs.Arena.Progress
import Artillery.Proofs.Number.Order
import Artillery.Proofs.Raster.Level

/-!
# The way of a roller

A roller that is left to itself comes to rest on the surface after every step, one row above the
ground of the column that it is in, and what it gains on its way down is counted from the row that it
rested on.  There is one exception: a roller that is not over the raster, as on the outer half of the
last column, is put down on the nearest column, but when it rolls on its row is looked up where it
is.  The ground there is the bottom of the raster, and so it gains nothing.

## Key results

- `fly_rests`: what a step does that leaves a roller to itself
- `flyAll_returns`, `flyAll_step`: consecutive steps have no fault, and each starts where the one
  before has ended
- `rests_on_surface`: where its steps leave a roller, and what they add to its speed
-/

namespace Artillery.Roller

/-- The column of the raster that is nearest to a projectile. -/
def columnOf (terrain : Raster) (p : Projectile) : Int :=
  max 0 (min p.pixel.x ((terrain.width : Int) - 1))

/-- The ground row of that column. -/
def groundOf (terrain : Raster) (p : Projectile) : Int := terrain.heightAt (columnOf terrain p)

/-- A projectile is over one of the columns of the raster. -/
def OverRaster (terrain : Raster) (p : Projectile) : Prop :=
  0 ≤ p.pixel.x ∧ p.pixel.x < terrain.width

instance (terrain : Raster) (p : Projectile) : Decidable (OverRaster terrain p) :=
  inferInstanceAs (Decidable (_ ∧ _))

/-- A projectile is one row above the ground. -/
def Rests (terrain : Raster) (p : Projectile) : Prop :=
  p.position.y = Quantity.ofInt (groundOf terrain p - 1)

/-- The speed of a projectile that rolls. -/
def speed? (p : Projectile) : Option Float :=
  match p.maneuver with
  | .rolling _ speed _ => some speed
  | _ => none

/-- The speed of a roller after one more step: what the walls leave of it grows with the rows of the
way down, and friction takes its part. -/
def speedAfter (terrain : Raster) (config : Config) (p : Projectile) (drop : Int) : Option Float :=
  match p.maneuver with
  | .rolling direction speed _ =>
    let x := p.position.x + direction * Quantity.atMost maxStep speed
    match config.wall.apply (Float.ofNat terrain.width) x (direction * speed) with
    | .ok (_, _, vx) => some ((vx.abs + downhillGain * Quantity.ofInt (max 0 drop)) * friction)
    | .error _ => none
  | _ => none

/-- What a roller does in consecutive steps, and where each of them leaves it. -/
def flyAll (weapon : Weapon) (terrain : Raster) (config : Config) :
    Nat → Projectile → Except Fault (List (FlightEffect × Projectile))
  | 0, _ => .ok []
  | n + 1, p => do
    let (effect, q) ← fly p weapon terrain config
    let steps ← flyAll weapon terrain config n q
    return (effect, q) :: steps

variable {p q r : Projectile} {weapon : Weapon} {terrain : Raster} {config : Config}

/-! ## One step -/

/-- Over the raster a projectile has the column of its pixel. -/
theorem columnOf_of_over (hover : OverRaster terrain p) : columnOf terrain p = p.pixel.x := by
  obtain ⟨hleft, hright⟩ := hover
  unfold columnOf
  omega

/-- The ground lies on the raster. -/
theorem groundOf_le (indexed : terrain.Indexed) (p : Projectile) :
    groundOf terrain p ≤ terrain.height := Raster.heightAt_le indexed _

/-- The way down from where a roller is looked for: over the raster it is the way down from the row
that it rests on, and beyond it there is none. -/
theorem max_drop (indexed : terrain.Indexed) (p q : Projectile) :
    max 0 (groundOf terrain q - terrain.heightAt p.pixel.x) =
      max 0 (if OverRaster terrain p then groundOf terrain q - groundOf terrain p else 0) := by
  by_cases hover : OverRaster terrain p
  · rw [if_pos hover, groundOf, groundOf, columnOf_of_over hover]
  · have hbottom := Raster.heightAt_of_off hover
    have hle := groundOf_le indexed q
    rw [if_neg hover, hbottom]
    omega

/-- The speed is left as it is where there is no way down. -/
theorem gained_eq (vx : Float) (drop : Int) :
    (if 0 < drop then vx.abs + downhillGain * Quantity.ofInt drop else vx.abs) =
      vx.abs + downhillGain * Quantity.ofInt (max 0 drop) := by
  by_cases hdown : 0 < drop
  · rw [if_pos hdown, max_eq_right hdown.le]
  · have hnothing : downhillGain * Quantity.ofInt 0 = 0 := by decide +kernel
    rw [if_neg hdown, max_eq_left (not_lt.1 hdown), hnothing, Quantity.abs_add_zero]

/-- Where a roller is put down it rests, rolling. -/
theorem settle_rests {oldHeight : Int} {x vx : Float} {frames : Nat} {effect : FlightEffect}
    (h : settle p terrain oldHeight x vx frames weapon = .ok (effect, q)) :
    Rests terrain q ∧ q.maneuver = .rolling (if vx < 0 then -1 else 1)
      ((vx.abs + downhillGain * Quantity.ofInt (max 0 (groundOf terrain q - oldHeight))) *
        friction) frames := by
  obtain ⟨column, hcolumn, h⟩ := Fault.bind_ok h
  obtain rfl := congrArg Prod.snd (Except.ok.inj h)
  obtain ⟨_, rfl⟩ := le_of_clampInt hcolumn
  exact ⟨rfl, congrArg (fun s => Maneuver.rolling _ (s * friction) _) (gained_eq ..)⟩

/-- A step that leaves a roller to itself leaves it at rest on the surface. -/
theorem fly_rests (indexed : terrain.Indexed) (rolling : p.isRolling = true)
    (h : fly p weapon terrain config = .ok (.nothing, q)) :
    Rests terrain q ∧ speed? q = speedAfter terrain config p
      (if OverRaster terrain p then groundOf terrain q - groundOf terrain p else 0) := by
  obtain ⟨direction, speed, frames, hm⟩ := Projectile.isRolling_iff.1 rolling
  -- A frame that tells nothing is one that has settled the roller.
  obtain ⟨hends | hends, _⟩ | ⟨outcome, x, vx, hwall, h⟩ := fly_cases hm h
  · exact nomatch hends
  · exact nomatch hends
  · obtain ⟨hrests, hspeed⟩ := settle_rests h
    rw [max_drop indexed] at hspeed
    refine ⟨hrests, ?_⟩
    unfold speed? speedAfter
    rw [hspeed, hm]
    dsimp only
    rw [hwall]

/-- What does not ask for the removal of a roller asks for nothing. -/
theorem fly_nothing {effect : FlightEffect} (rolling : p.isRolling = true)
    (h : fly p weapon terrain config = .ok (effect, q)) (hkept : effect.remove = false) :
    effect = .nothing := by
  obtain ⟨direction, speed, frames, hm⟩ := Projectile.isRolling_iff.1 rolling
  obtain ⟨rfl | rfl, _⟩ | ⟨outcome, x, vx, _, h⟩ := fly_cases hm h
  · exact absurd hkept.symm Bool.false_ne_true
  · exact absurd hkept.symm Bool.false_ne_true
  · obtain ⟨rfl | rfl, _⟩ := settle_cases h
    · exact absurd hkept.symm Bool.false_ne_true
    · rfl

/-- Whatever a step asks for, the roller is still one. -/
theorem fly_isRolling {effect : FlightEffect} (rolling : p.isRolling = true)
    (h : fly p weapon terrain config = .ok (effect, q)) : q.isRolling = true := by
  obtain ⟨direction, speed, frames, hm⟩ := Projectile.isRolling_iff.1 rolling
  obtain ⟨_, position, rfl⟩ | ⟨outcome, x, vx, _, h⟩ := fly_cases hm h
  · exact rolling
  · obtain ⟨_, _, _, _, rfl⟩ := settle_cases h
    rfl

/-! ## Consecutive steps -/

/-- An arena has a place for a roller as soon as it has a column. -/
theorem walls_of_pos {width : Nat} (h : 0 < width) : 0 ≤ Float.ofNat width - 1 := by
  -- Few columns are computed; many exceed one by their magnitude, whatever the rounding.
  obtain hsmall | hlarge := Nat.lt_or_ge width 4
  · obtain rfl | rfl | rfl : width = 1 ∨ width = 2 ∨ width = 3 := by omega
    all_goals decide +kernel
  · have hreach : Quantity.Reaches 2 (Float.ofNat width) := Quantity.reaches_ofNat (k := 2) hlarge
    have hone : Quantity.Under 1 1 := .normal rfl (by decide)
    have hzero : Quantity.Under 1 0 := .zero
    exact (hreach.sub hone (by decide)).le hzero

/-- Any number of frames of rolling return where there are columns. -/
theorem flyAll_returns (columns : 0 < terrain.width) (weapon : Weapon) (config : Config) (n : Nat)
    (p : Projectile) : ∃ steps, flyAll weapon terrain config n p = .ok steps := by
  induction n generalizing p with
  | zero => exact ⟨_, rfl⟩
  | succ n ih =>
    have hcolumns : 0 ≤ (terrain.width : Int) - 1 := by omega
    have hfly := fly_returns hcolumns (walls_of_pos columns) p weapon config
    exact Fault.exists_bind hfly fun _ _ => Fault.exists_bind (ih _) fun _ _ => ⟨_, rfl⟩

/-- Each of some consecutive steps starts where the one before has ended, and it rolls there. -/
theorem flyAll_step {n : Nat} {steps : List (FlightEffect × Projectile)}
    (rolling : p.isRolling = true) (h : flyAll weapon terrain config n p = .ok steps) :
    steps.length = n ∧ ∀ (e : FlightEffect) (i : Nat) (before after : FlightEffect × Projectile),
      ((e, p) :: steps)[i]? = some before → steps[i]? = some after →
        before.2.isRolling = true ∧ fly before.2 weapon terrain config = .ok after := by
  -- With the start put before them, the steps are pairs of neighbours in one list.
  induction n generalizing p steps with
  | zero =>
    obtain rfl := Except.ok.inj h
    exact ⟨rfl, fun _ _ _ _ _ hafter => nomatch hafter⟩
  | succ n ih =>
    obtain ⟨⟨effect, q⟩, hfly, h⟩ := Fault.bind_ok h
    obtain ⟨rest, hrest, h⟩ := Fault.bind_ok h
    obtain rfl := Except.ok.inj h
    obtain ⟨hlength, hsteps⟩ := ih (fly_isRolling rolling hfly) hrest
    refine ⟨congrArg (· + 1) hlength, fun e i before after hbefore hafter => ?_⟩
    cases i with
    | zero =>
      obtain rfl := Option.some.inj hbefore
      obtain rfl := Option.some.inj hafter
      exact ⟨rolling, hfly⟩
    | succ i => exact hsteps effect i before after hbefore hafter

/-- A roller that its steps leave to itself rests on the surface after each of them.  The next one
counts its way down from the row that it rests on if it is over the raster, and as none if it is
beyond. -/
theorem rests_on_surface {terrain : Raster} (indexed : terrain.Indexed) (weapon : Weapon)
    (config : Config) {p : Projectile} (rolling : p.isRolling = true) (n : Nat) :
    (0 < terrain.width → ∃ steps, flyAll weapon terrain config n p = .ok steps) ∧
    ∀ steps, flyAll weapon terrain config n p = .ok steps → steps.length = n ∧
      (∀ (i : Nat) q, steps[i]? = some (.nothing, q) → Rests terrain q) ∧
      ∀ (i : Nat) q r, steps[i]? = some (.nothing, q) → steps[i + 1]? = some (.nothing, r) →
        speed? r = speedAfter terrain config q
          (if OverRaster terrain q then groundOf terrain r - groundOf terrain q else 0) := by
  refine ⟨fun columns => flyAll_returns columns weapon config n p, fun steps h => ?_⟩
  obtain ⟨hlength, hsteps⟩ := flyAll_step rolling h
  refine ⟨hlength, fun i q hq => ?_, fun i q r hq hr => ?_⟩
  · -- Each of the steps starts from the one before it, and the first one from the roller itself.
    have hi : i < ((FlightEffect.nothing, p) :: steps).length :=
      Nat.lt_succ_of_lt (List.getElem?_eq_some_iff.1 hq).1
    obtain ⟨hrolls, hfly⟩ := hsteps .nothing i _ _ (List.getElem?_eq_getElem hi) hq
    exact (fly_rests indexed hrolls hfly).1
  · obtain ⟨hrolls, hfly⟩ := hsteps .nothing (i + 1) _ _ hq hr
    exact (fly_rests indexed hrolls hfly).2

/-- Ground that goes down to a pit and up two steps to the last column. -/
def brink : Raster :=
  match Raster.ofProfile 41 55 (List.replicate 38 30 ++ [50, 40, 30]) with
  | .ok terrain => terrain
  | .error _ => .blank 41 55

/-- A roller that has come up to the last column but one. -/
def climber : Projectile :=
  .ofSpec ⟨⟨39, 39⟩, ⟨0, 0⟩, 0, 0, .weapon, .rolling 1 1.75 0⟩

/-- The weapon of such a projectile. -/
def wheel : Weapon := ⟨"Roller", .roller, 20, .weapon⟩

/-- Between walls of rubber. -/
def court : Config := { wall := .rubber }

/-- The raster with the brink is indexed. -/
theorem brink_indexed : brink.Indexed := by
  unfold brink
  split
  · rename_i terrain h
    exact Raster.ofProfile_indexed h
  · exact Raster.blank_indexed 41 55

/-- Its first step takes it beyond the last column, where it is put down on the higher step; from
there the wall throws it back to the lower one. -/
theorem climber_rebounds :
    ∃ q r, flyAll wheel brink court 2 climber = .ok [(.nothing, q), (.nothing, r)] ∧
      groundOf brink q = 30 ∧ groundOf brink r = 40 ∧ speed? r ≠ speedAfter brink court q 10 := by
  -- Only the ground rows and the speeds are computed, and the flight is known from its effects.
  have run : ((flyAll wheel brink court 2 climber).toOption.any fun steps =>
      decide ((∀ s ∈ steps, s.1.remove = false) ∧ steps.map (groundOf brink ·.2) = [30, 40] ∧
        steps.getLast?.bind (speed? ·.2) ≠ steps.head?.bind (speedAfter brink court ·.2 10))) =
      true := by decide +kernel
  obtain ⟨steps, h, run⟩ := Fault.exists_of_any run
  obtain ⟨hlength, hstep⟩ := flyAll_step (p := climber) rfl h
  obtain ⟨⟨e, q⟩, ⟨e', r⟩, rfl⟩ := List.length_eq_two.1 hlength
  obtain ⟨hkept, hground, hspeed⟩ := of_decide_eq_true run
  obtain ⟨hrolls, hfirst⟩ := hstep .nothing 0 _ _ rfl rfl
  obtain rfl := fly_nothing hrolls hfirst (hkept _ List.mem_cons_self)
  obtain ⟨hrolls', hsecond⟩ := hstep .nothing 1 _ _ rfl rfl
  obtain rfl := fly_nothing hrolls' hsecond (hkept _ (List.mem_cons_of_mem _ List.mem_cons_self))
  obtain ⟨hq, hr⟩ := List.cons.inj hground
  exact ⟨q, r, h, hq, (List.cons.inj hr).1, hspeed⟩

/-- The roller is on the surface after each of its two steps. -/
theorem rests_on_surface_climber :
    brink.Indexed ∧ climber.isRolling = true ∧
      ∃ q r, flyAll wheel brink court 2 climber = .ok [(.nothing, q), (.nothing, r)] ∧
        Rests brink q ∧ Rests brink r := by
  obtain ⟨_, hsteps⟩ := rests_on_surface brink_indexed wheel court (p := climber) rfl 2
  obtain ⟨q, r, h, _⟩ := climber_rebounds
  obtain ⟨_, hrests, _⟩ := hsteps _ h
  exact ⟨brink_indexed, rfl, q, r, h, hrests 0 q rfl, hrests 1 r rfl⟩

/-- The way down that the second step takes is ten rows, but its speed is not that of ten rows. -/
theorem rests_on_surface_uneven :
    brink.Indexed ∧ climber.isRolling = true ∧
      ∃ q r, flyAll wheel brink court 2 climber = .ok [(.nothing, q), (.nothing, r)] ∧
        speed? r ≠ speedAfter brink court q (groundOf brink r - groundOf brink q) := by
  obtain ⟨q, r, h, hq, hr, hspeed⟩ := climber_rebounds
  rw [← show groundOf brink r - groundOf brink q = 10 by omega] at hspeed
  exact ⟨brink_indexed, rfl, q, r, h, hspeed⟩

end Artillery.Roller
