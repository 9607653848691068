import Artillery.Arena

/-!
# Moves of the arena

Whatever a projectile does in a step, it changes the arena by a few kinds of moves, and each move
comes with the events that tell of it.  A property of the arena that every move keeps is therefore
kept by effects, impacts and steps alike.

## Key results

- `stepProjectile_moves`: a step of a projectile is a run of moves
- `Moves.events`: a run of moves tells exactly the events of its moves
-/

namespace Artillery

namespace Arena

/-! ## What a projectile can strike -/

/-- What a projectile strikes is what the raster shows under it; the walls are not drawn. -/
def Touches (a : Arena) (p : Projectile) : Hit → Prop
  | .terrain => a.terrain.contactAt p.pixel.x p.pixel.y = .terrain
  | .tank id => a.terrain.contactAt p.pixel.x p.pixel.y = .tank id
  | .wall => True

end Arena

namespace Projectile

/-- The status of a projectile between the walls says what the raster shows under it. -/
theorem statusInside_contact {p : Projectile} {terrain : Raster} {hit : Hit}
    (h : (p.statusInside terrain).hit? = some hit) :
    hit = .terrain ∧ terrain.contactAt p.pixel.x p.pixel.y = .terrain ∨
      ∃ id, hit = .tank id ∧ terrain.contactAt p.pixel.x p.pixel.y = .tank id := by
  simp only [statusInside] at h
  split at h
  · exact nomatch h
  · -- The contact names what is there, and the hit is the contact of that kind.
    simp only [contact] at h
    split at h <;> rename_i hc <;> split at hc
    · exact .inl ⟨(Option.some.inj h).symm, hc⟩
    · exact nomatch hc
    · exact .inr ⟨_, (Option.some.inj h).symm, hc⟩
    · exact nomatch hc
    · exact nomatch h
    · exact nomatch h

/-- A flight that ends on something ends where the raster shows it. -/
theorem advance_touches {a : Arena} {p p' : Projectile} {status : FlightStatus} {hit : Hit}
    (h : p.advance a.terrain a.config a.wind = .ok (status, p')) (hs : status.hit? = some hit) :
    a.Touches p' hit := by
  simp only [advance] at h
  split at h
  · obtain ⟨rfl, rfl⟩ := Prod.mk.inj (Except.ok.inj h)
    exact nomatch hs
  split at h
  · obtain ⟨rfl, rfl⟩ := Prod.mk.inj (Except.ok.inj h)
    exact nomatch hs
  simp only [bind, Except.bind] at h
  split at h
  · exact nomatch h
  · rename_i outcome _
    -- The two outcomes between the walls are answered by what is under the projectile.
    have inside {q : Projectile} (hq : (q.statusInside a.terrain).hit? = some hit) :
        a.Touches q hit := by
      obtain ⟨rfl, hc⟩ | ⟨id, rfl, hc⟩ := statusInside_contact hq <;> exact hc
    split at h
    · obtain ⟨rfl, rfl⟩ := Prod.mk.inj (Except.ok.inj h)
      obtain rfl := Option.some.inj hs
      exact trivial
    · obtain ⟨rfl, rfl⟩ := Prod.mk.inj (Except.ok.inj h)
      exact nomatch hs
    · obtain ⟨rfl, rfl⟩ := Prod.mk.inj (Except.ok.inj h)
      exact inside hs
    · obtain ⟨rfl, rfl⟩ := Prod.mk.inj (Except.ok.inj h)
      exact inside hs

end Projectile

/-- A report tells of hits, of lost shields and of deaths. -/
theorem DamageReport.mem_events {r : DamageReport} {attacker : ActorId} {e : Event}
    (h : e ∈ r.events attacker) :
    (∃ id damage absorbed, e = .actorDamaged id damage absorbed) ∨
      (∃ id, e = .shieldDepleted id) ∨ ∃ id, e = .actorKilled id attacker := by
  -- The hits come first, each with the shield that it has used up, and then the deaths.
  obtain h | h := List.mem_append.1 h
  · obtain ⟨hit, _, h⟩ := List.mem_flatMap.1 h
    obtain rfl | h := List.mem_cons.1 h
    · exact .inl ⟨_, _, _, rfl⟩
    · split at h
      · exact .inr (.inl ⟨_, List.mem_singleton.1 h⟩)
      · exact nomatch h
  · obtain ⟨id, _, rfl⟩ := List.mem_map.1 h
    exact .inr (.inr ⟨id, rfl⟩)

namespace Arena

/-! ## The moves -/

/-- Blows the crater of a blast and queues its animation, without hurting anyone. -/
def blow (a : Arena) (b : Blast) : Arena :=
  let crater := a.terrain.crater b.center.x b.center.y b.radius
  { a with
    terrain := if b.earthMoving then crater.compact b.center.x b.radius else crater
    explosions := a.explosions.push b.center b.radius }.tell
    [.explosion b.center.x b.center.y b.radius b.attacker]

/-- An explosion blows its crater, and then hurts the actors unless it is harmless. -/
theorem explode_eq (a : Arena) (b : Blast) :
    (a.explode b).2 =
      if b.skipDamage then a.blow b
      else ((a.blow b).strikeActors (a.shock b.center.position b.radius b.attacker) b.carried).2 := by
  unfold explode blow
  cases b.earthMoving <;> cases b.skipDamage <;> rfl

/-- An earthwork moves nobody. -/
@[simp] theorem dig_actors (a : Arena) (center : Pixel) (work : Earthwork) :
    (a.dig center work).actors = a.actors := by
  unfold dig
  split <;> rfl

/-- New projectiles change no actor. -/
@[simp] theorem queue_actors (a : Arena) (weapon : WeaponId) (spawn : List ProjectileSpec) :
    (a.queue weapon spawn).actors = a.actors := by
  unfold queue
  split <;> rfl

/-- Nor do they change the terrain. -/
@[simp] theorem queue_terrain (a : Arena) (weapon : WeaponId) (spawn : List ProjectileSpec) :
    (a.queue weapon spawn).terrain = a.terrain := by
  unfold queue
  split <;> rfl

/-- One change of an arena, with the events that tell of it. -/
inductive Move : Arena → List Event → Arena → Prop
  /-- Words are taken from the keystream. -/
  | draw (a : Arena) (k : Keystream) : Move a [] { a with keystream := k }
  /-- A projectile strikes. -/
  | impact (a : Arena) (p : Projectile) (hit : Hit) (h : a.Touches p hit) :
      Move a [.impact p.pixel.x p.pixel.y hit] (a.tell [.impact p.pixel.x p.pixel.y hit])
  /-- Guidance locks. -/
  | lock (a : Arena) (owner : ActorId) (kind : GuidanceKind) :
      Move a [.guidanceLocked owner kind] (a.tell [.guidanceLocked owner kind])
  /-- A crater is blown. -/
  | blow (a : Arena) (b : Blast) (h : 0 < b.radius) :
      Move a [.explosion b.center.x b.center.y b.radius b.attacker] (a.blow b)
  /-- The actors in reach are hurt. -/
  | shock (a : Arena) (s : Shock) (carried : Option Vec2) :
      Move a ((a.strikeActors s carried).1.events s.attacker) (a.strikeActors s carried).2
  /-- Earth is moved. -/
  | dig (a : Arena) (center : Pixel) (work : Earthwork) (h : work ≠ .none) :
      Move a [.terrainChanged center.x center.y work] (a.dig center work)
  /-- New projectiles are asked for. -/
  | queue (a : Arena) (weapon : WeaponId) (spawn : List ProjectileSpec) (h : spawn ≠ []) :
      Move a [.spawned weapon spawn.length] (a.queue weapon spawn)
  /-- A shield throws a projectile back. -/
  | deflect {a : Arena} {p p' : Projectile} {id : ActorId} {i : Nat} {target target' : Actor}
      {depleted : Bool} {k : Keystream} (hi : a.actors.findIdx? (·.id = id) = some i)
      (ht : a.actors[i]? = some target)
      (hd : (target.deflect p).run a.keystream = (some (target', p', depleted), k)) :
      Move a (.shieldDeflected id :: if depleted then [.shieldDepleted id] else [])
        ({ a with keystream := k, actors := a.actors.set i target' }.tell
          (.shieldDeflected id :: if depleted then [.shieldDepleted id] else []))

/-- A run of moves, with the events of all of them in order. -/
inductive Moves : Arena → List Event → Arena → Prop
  | nil (a : Arena) : Moves a [] a
  | cons {a b c : Arena} {es fs : List Event} (h : Move a es b) (hs : Moves b fs c) :
      Moves a (es ++ fs) c

/-- A move is a run of one. -/
theorem Move.moves {a b : Arena} {es : List Event} (h : Move a es b) : Moves a es b := by
  simpa using Moves.cons h (.nil b)

/-- Runs of moves follow one another. -/
theorem Moves.trans {a b c : Arena} {es fs : List Event} (h₁ : Moves a es b)
    (h₂ : Moves b fs c) : Moves a (es ++ fs) c := by
  induction h₁ with
  | nil => simpa using h₂
  | cons h _ ih =>
    rw [List.append_assoc]
    exact .cons h (ih h₂)

/-! ## What moves keep -/

section Frames

variable {a a' : Arena} {es : List Event}

/-- A move tells its events and no others. -/
theorem Move.events (h : Move a es a') : a'.events.toList = a.events.toList ++ es := by
  cases h with
  | draw k => simp
  | impact p hit ht => simp [tell]
  | lock owner kind => simp [tell]
  | blow b hr => simp [Arena.blow, tell]
  | shock s carried =>
    simp only [strikeActors, tell, Array.toList_appendList]
    rfl
  | dig center work hw => simp [Arena.dig, hw, tell]
  | queue weapon spawn hs => simp [Arena.queue, hs, tell]
  | deflect hi ht hd => simp [tell]

/-- A run of moves tells its events and no others. -/
theorem Moves.events (h : Moves a es a') : a'.events.toList = a.events.toList ++ es := by
  induction h with
  | nil => simp
  | cons h _ ih => rw [ih, h.events, List.append_assoc]

/-- The rules of the match, the arsenal and the wind stay as they are. -/
theorem Move.rules (h : Move a es a') :
    a'.config = a.config ∧ a'.arsenal = a.arsenal ∧ a'.wind = a.wind := by
  cases h with
  | dig center work hw =>
    rw [Arena.dig, if_neg hw]
    exact ⟨rfl, rfl, rfl⟩
  | queue weapon spawn hs =>
    rw [Arena.queue, if_neg (by simpa using hs)]
    exact ⟨rfl, rfl, rfl⟩
  | _ => exact ⟨rfl, rfl, rfl⟩

/-- No move changes the rules. -/
theorem Moves.rules (h : Moves a es a') :
    a'.config = a.config ∧ a'.arsenal = a.arsenal ∧ a'.wind = a.wind := by
  induction h with
  | nil => exact ⟨rfl, rfl, rfl⟩
  | cons h _ ih =>
    obtain ⟨hc, ha, hw⟩ := h.rules
    exact ⟨ih.1.trans hc, ih.2.1.trans ha, ih.2.2.trans hw⟩

end Frames

/-! ## Effects, impacts and steps are runs of moves -/

/-- An explosion blows and strikes. -/
theorem explode_moves (a : Arena) (b : Blast) (h : 0 < b.radius) :
    ∃ es, Moves a es (a.explode b).2 := by
  rw [explode_eq]
  split
  · exact ⟨_, (Move.blow a b h).moves⟩
  · exact ⟨_, (Move.blow a b h).moves.trans (Move.shock (a.blow b) _ _).moves⟩

/-- An earthwork is a move, or nothing is to be dug. -/
theorem dig_moves (a : Arena) (center : Pixel) (work : Earthwork) :
    ∃ es, Moves a es (a.dig center work) := by
  by_cases hw : work = .none
  · rw [dig, if_pos hw]
    exact ⟨_, .nil a⟩
  · exact ⟨_, (Move.dig a center work hw).moves⟩

/-- New projectiles are a move, or there are none. -/
theorem queue_moves (a : Arena) (weapon : WeaponId) (spawn : List ProjectileSpec) :
    ∃ es, Moves a es (a.queue weapon spawn) := by
  by_cases hs : spawn = []
  · rw [queue, if_pos (by simpa using hs)]
    exact ⟨_, .nil a⟩
  · exact ⟨_, (Move.queue a weapon spawn hs).moves⟩

/-- Runs of moves one after another are a run of moves. -/
private theorem exists_trans {a b c : Arena} (h₁ : ∃ es, Moves a es b) (h₂ : ∃ es, Moves b es c) :
    ∃ es, Moves a es c := by
  obtain ⟨es, h₁⟩ := h₁
  obtain ⟨fs, h₂⟩ := h₂
  exact ⟨es ++ fs, h₁.trans h₂⟩

/-- What a projectile does where it strikes is a run of moves. -/
theorem applyImpact_moves (a : Arena) (p : Projectile) (effect : ImpactEffect) :
    ∃ es, Moves a es (a.applyImpact p effect).2 := by
  simp only [applyImpact]
  apply exists_trans _ (queue_moves _ _ _)
  apply exists_trans _ (dig_moves _ _ _)
  split
  · rename_i hr
    exact explode_moves a _ hr.2
  · exact ⟨_, .nil a⟩

/-- So is what it does in flight. -/
theorem applyFlight_moves (a : Arena) (p : Projectile) (effect : FlightEffect) :
    ∃ es, Moves a es (a.applyFlight p effect).2 := by
  simp only [applyFlight]
  apply exists_trans _ (queue_moves _ _ _)
  apply exists_trans _ (dig_moves _ _ _)
  -- It explodes where it is asked to, and with a positive radius.
  split
  · split
    · rename_i hr
      exact explode_moves a _ hr
    · exact ⟨_, .nil a⟩
  · exact ⟨_, .nil a⟩

/-- So is a whole impact. -/
theorem impact_moves (a : Arena) (p : Projectile) (hit : Hit) (h : a.Touches p hit) :
    ∃ es, Moves a es (a.impact p hit).2 :=
  exists_trans ⟨_, (Move.impact a p hit h).moves⟩
    (exists_trans ⟨_, (Move.draw _ _).moves⟩ (applyImpact_moves _ _ _))

/-- A shield that throws a projectile back makes one move. -/
theorem deflect?_moves {a a' : Arena} {p p' : Projectile} {id : ActorId}
    (h : a.deflect? p id = some (p', a')) : ∃ es, Moves a es a' := by
  simp only [deflect?, Option.bind_eq_bind, Option.bind_eq_some_iff] at h
  obtain ⟨i, hi, target, ht, h⟩ := h
  obtain ⟨⟨target', q, depleted⟩, hd, h⟩ := h
  obtain ⟨rfl, rfl⟩ := Prod.mk.inj (Option.some.inj h)
  exact ⟨_, (Move.deflect hi ht (Prod.ext hd rfl)).moves⟩

/-- So whatever comes of a step of flight is a run of moves. -/
theorem resolve_moves {a : Arena} {p : Projectile} {status : FlightStatus}
    (h : ∀ hit, status.hit? = some hit → a.Touches p hit) :
    ∃ es, Moves a es (a.resolve p status).2 := by
  -- Each status that ends on something is one that the raster shows.
  cases status with
  | flying => exact ⟨_, .nil a⟩
  | offscreen => exact ⟨_, .nil a⟩
  | hitTerrain => exact impact_moves a p .terrain (h _ rfl)
  | hitWall => exact impact_moves a p .wall trivial
  | hitTank id =>
    simp only [resolve]
    split
    · rename_i hd
      exact deflect?_moves hd
    · exact impact_moves a p (.tank id) (h _ rfl)

/-- A step of a projectile is a run of moves. -/
theorem stepProjectile_moves {a a' : Arena} {p p' : Projectile}
    (h : a.stepProjectile p = .ok (p', a')) : ∃ es, Moves a es a' := by
  simp only [stepProjectile] at h
  split at h
  · obtain ⟨rfl, rfl⟩ := Prod.mk.inj (Except.ok.inj h)
    exact ⟨_, .nil a⟩
  simp only [bind, Except.bind] at h
  split at h
  · exact nomatch h
  · rename_i flown _
    have hf := applyFlight_moves a flown.2 flown.1
    split at h
    · obtain ⟨rfl, rfl⟩ := Prod.mk.inj (Except.ok.inj h)
      exact hf
    · split at h
      · exact nomatch h
      · rename_i moved hm
        obtain ⟨rfl, rfl⟩ := Prod.mk.inj (Except.ok.inj h)
        apply exists_trans hf
        refine exists_trans ?_ (resolve_moves fun hit => ?_)
        · split
          · exact ⟨_, (Move.lock _ _ _).moves⟩
          · exact ⟨_, .nil _⟩
        · -- The flight went on over the terrain that the flight effect has left.
          exact Projectile.advance_touches hm

/-! ## The second half of a step -/

/-- An impact is told, and then what the projectile asks for is carried out. -/
theorem impact_eq (a : Arena) (p : Projectile) (hit : Hit) :
    a.impact p hit =
      { a.tell [.impact p.pixel.x p.pixel.y hit] with
        keystream := ((p.strike hit a.surroundings).run a.keystream).2 }.applyImpact
          ((p.strike hit a.surroundings).run a.keystream).1.2
          ((p.strike hit a.surroundings).run a.keystream).1.1 := rfl

/-- Tells that guidance has locked, if it has. -/
def tellLock (a : Arena) (owner : ActorId) : Option GuidanceKind → Arena
  | some kind => a.tell [.guidanceLocked owner kind]
  | none => a

/-- Flight on from where the behavior of a projectile has left it and the arena: guidance, the
flight itself, and what comes of it. -/
def flyOn (a : Arena) (p : Projectile) : Except Fault (Projectile × Arena) :=
  if ¬p.active then .ok (p, a)
  else
    let guided := p.guide a.actors
    let told := a.tellLock guided.2.owner guided.1
    (guided.2.advance told.terrain told.config told.wind).map fun r => told.resolve r.2 r.1

/-- A step is the behavior of the projectile, its effect, and flight on from there. -/
theorem stepProjectile_eq (a : Arena) (p : Projectile) :
    a.stepProjectile p =
      if ¬p.active then .ok (p, a)
      else p.fly a.surroundings >>= fun r =>
        (a.applyFlight r.2 r.1).2.flyOn (a.applyFlight r.2 r.1).1 := by
  unfold stepProjectile flyOn
  split
  · rfl
  · cases p.fly a.surroundings with
    | error f => rfl
    | ok r =>
      simp only [bind, Except.bind]
      generalize a.applyFlight r.2 r.1 = flown
      split
      · rfl
      · generalize flown.1.guide flown.2.actors = guided
        obtain ⟨locked, q⟩ := guided
        have htold : flown.2.tellLock q.owner locked = match locked with
            | some kind => flown.2.tell [.guidanceLocked q.owner kind]
            | none => flown.2 := by cases locked <;> rfl
        dsimp only
        rw [htold]
        -- The second half takes up where the first one has left.
        cases q.advance _ _ _ <;> rfl

end Arena

end Artillery
