import Artillery.Proofs.Battle.Conservation
import Artillery.Proofs.Raster.History

/-!
# Calls

The operations that an owner of a battle has, and what holds after any number of them.

## Key results

- `Call.perform_movesOn`: what is done with a single projectile is a run of moves
- `Call.perform_tidy` / `performAll_tidy`: whatever is called, the row of projectiles stays in order
  and nobody is left waiting to join it
-/

namespace Artillery.Battle

/-- The calls that change a battle. -/
inductive Call where
  | setArsenal (arsenal : Arsenal)
  | setActors (actors : List Actor)
  | placeActors (count : Nat)
  | addActor (a : Actor)
  | launch (owner : ActorId) (degrees power : Float) (weapon : WeaponId)
  | spawn (s : ProjectileSpec)
  | tick
  | step
  | advance (handle : Nat)
  | strike (handle : Nat) (hit : Hit)
  | applyImpact (handle : Nat) (effect : ImpactEffect)
  | fly (handle : Nat)
  | applyFlight (handle : Nat) (effect : FlightEffect)
  | onTerrain (op : Raster.Operation)
  | strikeActors (center : Vec2) (radius : Int) (attacker : ActorId) (carried : Option Vec2)
  | stepFalling
  | stepExplosions
  | changeWind
  | setWind (wind : Float)
  | drain

namespace Call

/-- Carries a call out: the events it hands over, and the battle after it. -/
def perform (b : Battle) : Call → Except Fault (List Event × Battle)
  | setArsenal arsenal => .ok ([], b.setArsenal arsenal)
  | setActors actors => .ok ([], b.setActors actors)
  | placeActors count => do return ([], ← b.placeActors count)
  | addActor a => .ok ([], b.addActor a)
  | launch owner degrees power weapon =>
    match b.launch? owner degrees power weapon with
    | some (_, b) => .ok ([], b)
    | none => .ok ([], b)
  | spawn s => .ok ([], (b.spawn s).2)
  | tick => b.tick
  | step => do return ([], ← b.step)
  | advance handle => do return ([], (← b.advance handle).2)
  | strike handle hit => do return ([], (← b.strike handle hit).2)
  | applyImpact handle effect => do return ([], (← b.applyImpact handle effect).2)
  | fly handle => do return ([], (← b.fly handle).2)
  | applyFlight handle effect => do return ([], (← b.applyFlight handle effect).2)
  | onTerrain op => do
    let terrain ← op.perform b.arena.terrain
    return ([], b.changeTerrain fun _ => terrain)
  | strikeActors center radius attacker carried =>
    .ok ([], (b.strikeActors center radius attacker carried).2)
  | stepFalling => do return ([], (← b.stepFalling).2)
  | stepExplosions => .ok ([], b.stepExplosions)
  | changeWind => do return ([], ← b.changeWind)
  | setWind wind => .ok ([], b.setWind wind)
  | drain => .ok b.drain

/-- Carries out calls one after another: all events that they have handed over, and the battle
after them. -/
def performAll : List Call → Battle → Except Fault (List Event × Battle)
  | [], b => .ok ([], b)
  | c :: cs, b => do
    let (handed, b) ← c.perform b
    let (later, b) ← performAll cs b
    return (handed ++ later, b)

end Call

/-- Whether a call takes a single projectile through a part of its step. -/
def Call.OnProjectile : Call → Prop
  | strike .. | applyImpact .. | fly .. | applyFlight .. => True
  | _ => False

/-- Such a call is a run of moves. -/
theorem Call.perform_movesOn {c : Call} {b b' : Battle} {es : List Event}
    (h : c.perform b = .ok (es, b')) (hc : c.OnProjectile) : es = [] ∧ MovesOn b b' := by
  cases c with
  | strike handle hit =>
    obtain ⟨r, hr, h⟩ := Fault.bind_ok h
    obtain ⟨rfl, rfl⟩ := Prod.mk.inj (Except.ok.inj h)
    exact ⟨rfl, strike_moves hr⟩
  | applyImpact handle effect =>
    obtain ⟨r, hr, h⟩ := Fault.bind_ok h
    obtain ⟨rfl, rfl⟩ := Prod.mk.inj (Except.ok.inj h)
    exact ⟨rfl, applyImpact_moves hr⟩
  | fly handle =>
    obtain ⟨r, hr, h⟩ := Fault.bind_ok h
    obtain ⟨rfl, rfl⟩ := Prod.mk.inj (Except.ok.inj h)
    exact ⟨rfl, fly_moves hr⟩
  | applyFlight handle effect =>
    obtain ⟨r, hr, h⟩ := Fault.bind_ok h
    obtain ⟨rfl, rfl⟩ := Prod.mk.inj (Except.ok.inj h)
    exact ⟨rfl, applyFlight_moves hr⟩
  | _ => exact hc.elim

/-! ## The row stays in order -/

/-- What leaves the row and the list of asked-for projectiles alone keeps both in order. -/
theorem Tidy.congr {b b' : Battle} (tidy : b.Tidy) (hr : b'.roster = b.roster)
    (hs : b'.arena.spawns = b.arena.spawns) : b'.Tidy :=
  ⟨hr ▸ tidy.row, hs.trans tidy.spawns⟩

/-- Letting a projectile of the row act on the arena keeps the row in order. -/
theorem withProjectile_tidy {α : Type} {b b' : Battle} {handle : Nat} {result : Option α}
    {act : Projectile → Arena → Except Fault (α × Projectile × Arena)} (tidy : b.Tidy)
    (h : b.withProjectile handle act = .ok (result, b')) : b'.Tidy := by
  rw [withProjectile] at h
  -- Without a projectile of that handle nothing happens; otherwise what it spawned joins the row.
  split at h
  · obtain ⟨rfl, rfl⟩ := Prod.mk.inj (Except.ok.inj h)
    exact tidy
  · rename_i p r hr
    obtain ⟨⟨v, q, arena⟩, _, h⟩ := Fault.bind_ok h
    obtain ⟨rfl, rfl⟩ := Prod.mk.inj (Except.ok.inj h)
    exact ⟨(tidy.row.put hr q).addAll arena.spawns.toList, rfl⟩

/-- Advancing a projectile keeps the row in order. -/
theorem advance_tidy {b b' : Battle} {handle : Nat} {status : Option FlightStatus} (tidy : b.Tidy)
    (h : b.advance handle = .ok (status, b')) : b'.Tidy := by
  rw [advance] at h
  split at h
  · obtain ⟨rfl, rfl⟩ := Prod.mk.inj (Except.ok.inj h)
    exact tidy
  · obtain ⟨⟨s, p⟩, _, h⟩ := Fault.bind_ok h
    obtain ⟨rfl, rfl⟩ := Prod.mk.inj (Except.ok.inj h)
    exact ⟨tidy.row.update handle p, tidy.spawns⟩

/-- A launch keeps the row in order. -/
theorem launch?_tidy {b b' : Battle} {owner : ActorId} {degrees power : Float} {weapon : WeaponId}
    {handle : Nat} (tidy : b.Tidy) (h : b.launch? owner degrees power weapon = some (handle, b')) :
    b'.Tidy := by
  simp only [launch?, Option.bind_eq_bind, Option.bind_eq_some_iff] at h
  obtain ⟨i, _, shooter, _, behavior, _, h⟩ := h
  obtain ⟨rfl, rfl⟩ := Prod.mk.inj (Option.some.inj h)
  exact ⟨tidy.row.add _, tidy.spawns⟩

/-- Placing the actors does not touch the row. -/
theorem placeActors_tidy {b b' : Battle} {count : Nat} (tidy : b.Tidy)
    (h : b.placeActors count = .ok b') : b'.Tidy := by
  obtain ⟨⟨actors, terrain⟩, _, h⟩ := Fault.bind_ok h
  obtain rfl := Except.ok.inj h
  exact tidy.congr rfl rfl

/-- A change of the wind does not touch the row. -/
theorem changeWind_tidy {b b' : Battle} (tidy : b.Tidy) (h : b.changeWind = .ok b') : b'.Tidy := by
  obtain ⟨wind, _, h⟩ := Fault.bind_ok h
  obtain rfl := Except.ok.inj h
  exact tidy.congr rfl rfl

/-- A frame of falling does not touch the row. -/
theorem stepFalling_tidy {b b' : Battle} {falling : Bool} (tidy : b.Tidy)
    (h : b.stepFalling = .ok (falling, b')) : b'.Tidy := by
  obtain ⟨_, rfl⟩ | ⟨_, actors, terrain, events, _, rfl⟩ := stepFalling_cases h
  · exact tidy
  · exact tidy.congr rfl rfl

/-- A tick keeps the row in order. -/
theorem tick_tidy {b b' : Battle} {es : List Event} (tidy : b.Tidy)
    (h : b.tick = .ok (es, b')) : b'.Tidy := by
  obtain ⟨c, hc, _, rfl⟩ := tick_keeps step_tidy (fun hc => hc.congr rfl rfl) stepFalling_tidy tidy h
  exact hc.congr rfl rfl

/-- Every call keeps the row in order. -/
theorem Call.perform_tidy {c : Call} {b b' : Battle} {es : List Event} (tidy : b.Tidy)
    (h : c.perform b = .ok (es, b')) : b'.Tidy := by
  cases c with
  -- These calls leave the projectiles alone.
  | setArsenal | setActors | addActor | strikeActors | stepExplosions | setWind | drain =>
    obtain ⟨rfl, rfl⟩ := Prod.mk.inj (Except.ok.inj h)
    exact tidy.congr rfl rfl
  | spawn s =>
    obtain ⟨rfl, rfl⟩ := Prod.mk.inj (Except.ok.inj h)
    exact ⟨tidy.row.add _, tidy.spawns⟩
  | launch owner degrees power weapon =>
    simp only [perform] at h
    split at h <;> obtain ⟨rfl, rfl⟩ := Prod.mk.inj (Except.ok.inj h)
    · rename_i hl
      exact launch?_tidy tidy hl
    · exact tidy
  | tick => exact tick_tidy tidy h
  | placeActors count =>
    obtain ⟨r, hr, h⟩ := Fault.bind_ok h
    obtain ⟨rfl, rfl⟩ := Prod.mk.inj (Except.ok.inj h)
    exact placeActors_tidy tidy hr
  | step =>
    obtain ⟨r, hr, h⟩ := Fault.bind_ok h
    obtain ⟨rfl, rfl⟩ := Prod.mk.inj (Except.ok.inj h)
    exact step_tidy tidy hr
  | advance handle =>
    obtain ⟨r, hr, h⟩ := Fault.bind_ok h
    obtain ⟨rfl, rfl⟩ := Prod.mk.inj (Except.ok.inj h)
    exact advance_tidy tidy hr
  | strike | applyImpact | fly | applyFlight =>
    obtain ⟨r, hr, h⟩ := Fault.bind_ok h
    obtain ⟨rfl, rfl⟩ := Prod.mk.inj (Except.ok.inj h)
    exact withProjectile_tidy tidy hr
  | onTerrain op =>
    obtain ⟨terrain, _, h⟩ := Fault.bind_ok h
    obtain ⟨rfl, rfl⟩ := Prod.mk.inj (Except.ok.inj h)
    exact tidy.congr rfl rfl
  | stepFalling =>
    obtain ⟨r, hr, h⟩ := Fault.bind_ok h
    obtain ⟨rfl, rfl⟩ := Prod.mk.inj (Except.ok.inj h)
    exact stepFalling_tidy tidy hr
  | changeWind =>
    obtain ⟨r, hr, h⟩ := Fault.bind_ok h
    obtain ⟨rfl, rfl⟩ := Prod.mk.inj (Except.ok.inj h)
    exact changeWind_tidy tidy hr

/-- A battle begins in order, and no sequence of calls changes that. -/
theorem Call.performAll_tidy {cs : List Call} {b b' : Battle} {es : List Event} (tidy : b.Tidy)
    (h : performAll cs b = .ok (es, b')) : b'.Tidy := by
  induction cs generalizing b es with
  | nil =>
    obtain ⟨rfl, rfl⟩ := Prod.mk.inj (Except.ok.inj h)
    exact tidy
  | cons c cs ih =>
    obtain ⟨⟨handed, b₁⟩, hc, h⟩ := Fault.bind_ok h
    obtain ⟨⟨later, b₂⟩, hcs, h⟩ := Fault.bind_ok h
    obtain ⟨rfl, rfl⟩ := Prod.mk.inj (Except.ok.inj h)
    exact ih (perform_tidy tidy hc) hcs

/-- A battle begins with no projectiles at all. -/
theorem assemble_tidy (config : Config) (terrain : Raster) (keystream : Keystream) :
    (assemble config terrain keystream).Tidy :=
  ⟨⟨List.nodup_nil, List.forall_mem_nil _⟩, rfl⟩

end Artillery.Battle
