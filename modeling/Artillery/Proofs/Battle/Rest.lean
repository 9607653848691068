import Artillery.Proofs.Battle.Faultless

/-!
# Battles at rest

Between shots nothing should happen by itself.  A battle in which nothing flies, nothing plays and
nobody falls stays as it is from frame to frame, unless an actor has been undermined: the falls of a
frame are begun before its landings, and a landing can level the ground away under a neighbour, whose
own fall begins with the next frame.

## Key results

- `tick_of_calm`: a frame of a calm battle only counts itself
- `undermined_of_tick`: who is undermined after a frame has a neighbour that has landed in it
- `tick_of_undermined`: its own fall begins with the next frame
- `settled_calm`: a settled battle stays as it is exactly when nobody is undermined
- `settled_not_calm`: there are settled battles in which somebody is
-/

namespace Artillery.Battle

/-! ## Calm battles -/

/-- A living actor stands more than a row above the ground and has not begun to fall. -/
def Undermined (b : Battle) (a : Actor) : Prop :=
  a.alive = true ∧ a.falling = none ∧ a.y + 1 < b.arena.terrain.heightAt a.x

instance (b : Battle) (a : Actor) : Decidable (b.Undermined a) :=
  inferInstanceAs (Decidable (_ ∧ _ ∧ _))

/-- Nobody is about to fall. -/
def Grounded (b : Battle) : Prop :=
  b.arena.config.fallingActors = true → ∀ a ∈ b.arena.actors, ¬b.Undermined a

/-- The battle some frames later, if nothing happens. -/
def later (b : Battle) (n : Nat) : Battle :=
  { b with clock := { b.clock with frame := b.clock.frame + n } }

/-- What it means to be settled. -/
theorem isSettled_iff (b : Battle) :
    b.isSettled = true ↔ b.roster.anyActive = false ∧ b.arena.explosions.isIdle = true ∧
      Falling.anyFalling b.arena.actors = false := by
  unfold isSettled
  rw [decide_eq_true_eq, Bool.not_eq_true, Bool.not_eq_true]

/-- Without anything in flight no steps are made. -/
theorem stepWhileFlying_idle {b : Battle} (h : b.roster.anyActive = false) (n : Nat) :
    stepWhileFlying n b = .ok b := by
  cases n with
  | zero => rfl
  | succ n =>
    unfold stepWhileFlying
    rw [h]
    rfl

/-- Without an animation there is nothing to go on with. -/
theorem stepExplosions_idle {b : Battle} (h : b.arena.explosions.isIdle = true) :
    b.stepExplosions = b := by
  have hstep : b.arena.explosions.step = b.arena.explosions := by
    unfold ExplosionQueue.step
    rw [Option.isNone_iff_eq_none.1 h]
  unfold stepExplosions
  rw [hstep]

/-- Who is not undermined does not begin to fall. -/
theorem loseGround_of_not_undermined {b : Battle} {a : Actor} (h : ¬b.Undermined a) :
    a.loseGround b.arena.terrain = a := by
  unfold Actor.loseGround
  rw [if_neg]
  intro hc
  exact h ⟨hc.1, Option.isNone_iff_eq_none.1 hc.2.1, hc.2.2⟩

/-- Who is undermined begins to fall from where it stands. -/
theorem loseGround_of_undermined {b : Battle} {a : Actor} (h : b.Undermined a) :
    a.loseGround b.arena.terrain = { a with falling := some ⟨a.y⟩ } := by
  obtain ⟨halive, hfalling, hhigh⟩ := h
  unfold Actor.loseGround
  rw [if_pos ⟨halive, Option.isNone_iff_eq_none.2 hfalling, hhigh⟩]

/-- Where somebody is undermined, somebody begins to fall. -/
theorem anyFalling_of_undermined {b : Battle} {a : Actor} (ha : a ∈ b.arena.actors)
    (h : b.Undermined a) :
    Falling.anyFalling (Falling.check b.arena.actors b.arena.terrain) = true :=
  List.any_eq_true.2 ⟨_, List.mem_map_of_mem ha, by rw [loseGround_of_undermined h]; rfl⟩

/-- Where nobody falls and nobody is undermined, nobody begins to fall. -/
theorem stepFalling_grounded {b : Battle} (hstill : Falling.anyFalling b.arena.actors = false)
    (h : ∀ a ∈ b.arena.actors, ¬b.Undermined a) : b.stepFalling = .ok (false, b) := by
  have hcheck : Falling.check b.arena.actors b.arena.terrain = b.arena.actors := by
    have hkept : ∀ a ∈ b.arena.actors, a.loseGround b.arena.terrain = id a :=
      fun a ha => loseGround_of_not_undermined (h a ha)
    unfold Falling.check
    rw [List.map_congr_left hkept, List.map_id]
  unfold stepFalling
  simp only [hcheck, hstill]
  rfl

/-- A frame of a calm battle only counts itself. -/
theorem tick_of_calm {b : Battle} (hs : b.isSettled = true) (hg : b.Grounded)
    (he : b.arena.events = #[]) : b.tick = .ok ([], b.later 1) := by
  obtain ⟨hflight, hidle, hstill⟩ := b.isSettled_iff.1 hs
  have hdrain : ({ b with clock := b.clock.tickFrame } : Battle).drain = ([], b.later 1) := by
    have harena : { b.arena with events := #[] } = b.arena := by rw [← he]
    show (b.arena.events.toList,
      ({ b with arena := { b.arena with events := #[] }, clock := b.clock.tickFrame } : Battle)) = _
    rw [harena, he]
    rfl
  -- Nothing flies, nothing is shown and nobody falls, so that only the clock and the drain are
  -- left.
  unfold tick
  rw [stepWhileFlying_idle hflight]
  show (if b.stepExplosions.arena.config.fallingActors ∧ ¬b.stepExplosions.roster.anyActive then _
    else _) = _
  rw [stepExplosions_idle hidle]
  by_cases hfall : b.arena.config.fallingActors = true
  · rw [if_pos ⟨hfall, by rw [hflight]; exact Bool.false_ne_true⟩,
      stepFalling_grounded hstill (hg hfall)]
    exact congrArg Except.ok hdrain
  · rw [if_neg fun hc => hfall hc.1]
    exact congrArg Except.ok hdrain

/-- So do any number of frames. -/
theorem ticks_of_calm {b : Battle} (hs : b.isSettled = true) (hg : b.Grounded)
    (he : b.arena.events = #[]) (n : Nat) :
    Call.performAll (List.replicate n .tick) b = .ok ([], b.later n) := by
  induction n generalizing b with
  | zero => rfl
  | succ n ih =>
    have hlater : (b.later 1).later n = b.later (n + 1) := by
      unfold later
      simp only [Nat.add_assoc, Nat.add_comm 1 n]
    -- After the tick the battle is as calm as before it; only the clock has moved.
    have hrest := ih (b := b.later 1) hs hg he
    rw [hlater] at hrest
    rw [List.replicate_succ]
    show (b.tick >>= fun r => Call.performAll (List.replicate n .tick) r.2 >>= fun q =>
      .ok (r.1 ++ q.1, q.2)) = _
    rw [tick_of_calm hs hg he]
    show (Call.performAll (List.replicate n .tick) (b.later 1) >>= fun q =>
      .ok ([] ++ q.1, q.2)) = _
    rw [hrest]
    rfl

/-- A frame in which an undermined actor begins to fall does not leave the battle as it is. -/
theorem grounded_of_tick {b : Battle} (hs : b.isSettled = true)
    (h : b.tick = .ok ([], b.later 1)) : b.Grounded := by
  intro hfall a ha hunder
  obtain ⟨hflight, hidle, hstill⟩ := b.isSettled_iff.1 hs
  obtain ⟨flown, fallen, hf, hd, htold, hlater⟩ := tick_cases h
  rw [stepWhileFlying_idle hflight] at hf
  obtain rfl := Except.ok.inj hf
  rw [stepExplosions_idle hidle] at hd
  obtain ⟨_, falling, hd⟩ | ⟨hno, _⟩ := hd
  · -- The frame begins the fall and tells nothing, so that the fall goes on.
    have hbegins := anyFalling_of_undermined ha hunder
    obtain ⟨hnobody, _⟩ | ⟨_, actors, terrain, events, hstep, rfl⟩ := stepFalling_cases hd
    · rw [hbegins] at hnobody
      exact nomatch hnobody
    have hnothing : events = [] := by
      have hall : b.arena.events.toList ++ events = [] :=
        (Array.toList_appendList ..).symm.trans htold.symm
      exact (List.append_eq_nil_iff.1 hall).2
    subst hnothing
    have hsame : b.arena.actors = actors := congrArg (fun c => c.arena.actors) hlater
    have hair := Falling.step_quiet hstep hbegins
    rw [← hsame, hstill] at hair
    exact nomatch hair
  · exact hno ⟨hfall, by rw [hflight]; exact Bool.false_ne_true⟩

/-! ## Who is undermined -/

/-- Where a frame of falling has been gone through, only a landing next to it, in the playfield,
leaves an actor undermined. -/
theorem undermined_of_stepFalling {b b' : Battle} {falling : Bool}
    (h : b.stepFalling = .ok (falling, b')) {i : Nat} {a : Actor}
    (ha : b'.arena.actors[i]? = some a) (hunder : b'.Undermined a) :
    Falling.NeighbourLanded b'.arena.actors b'.arena.events.toList i a.x ∧
      (playfieldTop : Int) ≤ b'.arena.terrain.height := by
  obtain ⟨hnobody, rfl⟩ | ⟨_, actors, terrain, events, hstep, rfl⟩ := stepFalling_cases h
  · -- Where nobody begins to fall, nobody is undermined.
    rw [anyFalling_of_undermined (List.mem_of_getElem? ha) hunder] at hnobody
    exact nomatch hnobody
  · obtain ⟨halive, hrests, hhigh⟩ := hunder
    have hground : (terrain.stampActors actors).heightAt a.x = terrain.heightAt a.x :=
      Raster.stampActors_heightAt terrain actors a.x
    have ha : actors[i]? = some a := ha
    have hhigh : a.y + 1 < terrain.heightAt a.x := hground ▸ hhigh
    obtain ⟨a₀, ha₀, _, hx⟩ := Falling.exists_of_places (Falling.step_places hstep).symm ha
    have hbefore : a₀.alive = true → a₀.falling = none →
        b.arena.terrain.heightAt a₀.x ≤ a₀.y + 1 := by
      intro halive₀ hrests₀
      obtain ⟨orig, _, rfl⟩ := List.mem_map.1 (List.mem_of_getElem? ha₀)
      by_cases hunder₀ : b.Undermined orig
      · rw [loseGround_of_undermined hunder₀] at hrests₀
        exact nomatch hrests₀
      · rw [loseGround_of_not_undermined hunder₀] at halive₀ hrests₀ ⊢
        have hlow : ¬orig.y + 1 < b.arena.terrain.heightAt orig.x :=
          fun hlt => hunder₀ ⟨halive₀, hrests₀, hlt⟩
        omega
    obtain ⟨hneighbour, hrows⟩ := Falling.step_undermined hstep ha₀ ha halive hrests hhigh hbefore
    refine ⟨hneighbour.congr (Falling.step_places hstep) ?_, ?_⟩
    · show events ⊆ (b.arena.events ++ events).toList
      rw [Array.toList_appendList]
      exact List.subset_append_right _ _
    · show (playfieldTop : Int) ≤ (terrain.stampActors actors).height
      rwa [(terrain.stampActors_size actors).2, (Falling.step_size hstep).2]

/-- After a frame that ends at rest, an undermined actor has a neighbour that has landed in that
frame, in the playfield. -/
theorem undermined_of_tick {b b' : Battle} {told : List Event} (h : b.tick = .ok (told, b'))
    (hs : b'.isSettled = true) (hfall : b'.arena.config.fallingActors = true) {i : Nat} {a : Actor}
    (ha : b'.arena.actors[i]? = some a) (hunder : b'.Undermined a) :
    Falling.NeighbourLanded b'.arena.actors told i a.x ∧
      (playfieldTop : Int) ≤ b'.arena.terrain.height := by
  obtain ⟨hflight, _, _⟩ := b'.isSettled_iff.1 hs
  obtain ⟨flown, fallen, _, hd, rfl, rfl⟩ := tick_cases h
  obtain ⟨_, falling, hd⟩ | ⟨hno, rfl⟩ := hd
  · exact undermined_of_stepFalling hd ha hunder
  · -- Falls were allowed and the air was clear.
    have hclear : ¬flown.roster.anyActive := by
      rw [show flown.roster.anyActive = false from hflight]
      exact Bool.false_ne_true
    exact absurd ⟨hfall, hclear⟩ hno

/-! ## The fall of an undermined actor -/

/-- In a frame of falling an undermined actor falls from where it stands. -/
theorem stepFalling_of_undermined {b b' : Battle} {falling : Bool}
    (h : b.stepFalling = .ok (falling, b')) {i : Nat} {a : Actor}
    (ha : b.arena.actors[i]? = some a) (hunder : b.Undermined a) :
    ∃ a', b'.arena.actors[i]? = some a' ∧ a'.id = a.id ∧
      Falling.FellFrom a a' b'.arena.events.toList := by
  have hbegins := anyFalling_of_undermined (List.mem_of_getElem? ha) hunder
  obtain ⟨hnobody, _⟩ | ⟨_, actors, terrain, events, hstep, rfl⟩ := stepFalling_cases h
  · exact nomatch hbegins.symm.trans hnobody
  · -- The check gives it a fall from where it stands, and the frame then takes it down or lands it.
    have hcheck : (Falling.check b.arena.actors b.arena.terrain)[i]? =
        some { a with falling := some ⟨a.y⟩ } := by
      rw [Falling.check, List.getElem?_map, ha, Option.map_some, loseGround_of_undermined hunder]
    obtain ⟨a', _, _, before, own, after, ha', _, hturn, _, rfl⟩ := Falling.step_turn hstep hcheck
    obtain ⟨hid, hfell⟩ := Falling.fallOn_fellFrom hturn rfl rfl rfl
    refine ⟨a', ha', hid, hfell.mono fun e he => ?_⟩
    show e ∈ (b.arena.events ++ (before ++ own ++ after)).toList
    rw [Array.toList_appendList]
    exact List.mem_append_right _ (List.mem_append_left _ (List.mem_append_right _ he))

/-- A frame that follows on a settled battle can be gone through, and begins the falls of all actors
that have been undermined. -/
theorem tick_of_undermined {b : Battle} (hs : b.isSettled = true)
    (hfall : b.arena.config.fallingActors = true)
    (rows : (playfieldTop : Int) ≤ b.arena.terrain.height) :
    ∃ told b', b.tick = .ok (told, b') ∧ ∀ (i : Nat) (a : Actor), b.arena.actors[i]? = some a →
      b.Undermined a → ∃ a', b'.arena.actors[i]? = some a' ∧ a'.id = a.id ∧
        Falling.FellFrom a a' told := by
  obtain ⟨hflight, hidle, _⟩ := b.isSettled_iff.1 hs
  obtain ⟨⟨falling, fallen⟩, hstep⟩ := stepFalling_returns rows
  -- Of a tick of a settled battle only the frame of falling is left.
  have htick : b.tick = .ok ({ fallen with clock := fallen.clock.tickFrame } : Battle).drain := by
    unfold tick
    rw [stepWhileFlying_idle hflight]
    show (if b.stepExplosions.arena.config.fallingActors ∧ ¬b.stepExplosions.roster.anyActive then _
      else _) = _
    rw [stepExplosions_idle hidle,
      if_pos ⟨hfall, by rw [hflight]; exact Bool.false_ne_true⟩, hstep]
    rfl
  exact ⟨_, _, htick, fun i a ha hunder => stepFalling_of_undermined hstep ha hunder⟩

/-- A frame that ends with nothing in flight, nothing playing and nobody falling leaves a battle that
stays as it is for any number of further frames, which tell nothing and count only themselves,
exactly when nobody is undermined where actors can fall.  Whoever is undermined has another actor
within its footprint's reach that has landed in the same frame, and its own fall begins with the
next one. -/
theorem settled_calm {b b' : Battle} {told : List Event} (h : b.tick = .ok (told, b'))
    (hs : b'.isSettled = true) :
    ((∀ n, Call.performAll (List.replicate n .tick) b' = .ok ([], b'.later n)) ↔
      (b'.arena.config.fallingActors = true → ∀ a ∈ b'.arena.actors, ¬b'.Undermined a)) ∧
    (b'.arena.config.fallingActors = true → ∀ (i : Nat) (a : Actor),
      b'.arena.actors[i]? = some a → b'.Undermined a →
        (∃ (j : Nat) (c : Actor), j ≠ i ∧ b'.arena.actors[j]? = some c ∧
          c.x - Actor.halfWidth ≤ a.x ∧ a.x ≤ c.x + Actor.halfWidth ∧
          ∃ distance damage parachute,
            Event.actorLanded c.id distance damage parachute ∈ told) ∧
        ∃ (later : List Event) (b'' : Battle) (a' : Actor), b'.tick = .ok (later, b'') ∧
          b''.arena.actors[i]? = some a' ∧ a'.id = a.id ∧ Falling.FellFrom a a' later) := by
  have hevents : b'.arena.events = #[] := by
    obtain ⟨_, _, _, _, _, rfl⟩ := tick_cases h
    rfl
  constructor
  · constructor
    · -- One frame that leaves the battle as it is shows that nobody has begun to fall in it.
      intro hcalm
      obtain ⟨⟨es, b₁⟩, htick, hrest⟩ := Fault.bind_ok (hcalm 1)
      have hresult : (es ++ [], b₁) = ([], b'.later 1) := Except.ok.inj hrest
      rw [List.append_nil] at hresult
      rw [hresult] at htick
      exact grounded_of_tick hs htick
    · intro hg
      exact ticks_of_calm hs hg hevents
  · intro hfall i a ha hunder
    obtain ⟨⟨j, c, hj, hc, ⟨hleft, hright⟩, htold⟩, hrows⟩ :=
      undermined_of_tick h hs hfall ha hunder
    obtain ⟨later, b'', hnext, hfalls⟩ := tick_of_undermined hs hfall hrows
    obtain ⟨a', ha', hid, hfell⟩ := hfalls i a ha hunder
    exact ⟨⟨j, c, hj, hc, hleft, hright, htold⟩, later, b'', a', hnext, ha', hid, hfell⟩

/-- A battle over a small terrain, with some tanks. -/
def field (profile : List Int) (tanks : List Actor) : Except SetupError Battle := do
  let terrain ← (Raster.ofProfile 41 55 profile).mapError .fault
  let b ← beginOver {} terrain
  return tanks.foldl addActor b

/-- Two tanks on a step in level ground: the lower one hangs in the air. -/
def ledge : Except SetupError Battle :=
  field (List.replicate 23 18 ++ 15 :: List.replicate 17 18) [.fresh 0 20 16, .fresh 1 23 15]

/-- Two frames on the ledge.  After the first one the battle has settled and the second tank is
undermined; after the second one it has settled again and nobody is. -/
theorem ledge_frames :
    ∃ b told b₁ later b₂, ledge = .ok b ∧ b.tick = .ok (told, b₁) ∧ b₁.tick = .ok (later, b₂) ∧
      (b₁.isSettled = true ∧ b₁.arena.config.fallingActors = true ∧ b₁.arena.actors.length = 2 ∧
        ∀ a ∈ b₁.arena.actors[1]?, b₁.Undermined a) ∧
      (b₂.isSettled = true ∧ ∀ a ∈ b₂.arena.actors, ¬b₂.Undermined a) ∧
      later.isEmpty = false ∧ b₂.arena.actors ≠ b₁.arena.actors := by
  have run : (ledge.toOption.any fun b => b.tick.toOption.any fun first =>
      first.2.tick.toOption.any fun second => decide (
        (first.2.isSettled = true ∧ first.2.arena.config.fallingActors = true ∧
          first.2.arena.actors.length = 2 ∧
          ∀ a ∈ first.2.arena.actors[1]?, first.2.Undermined a) ∧
        (second.2.isSettled = true ∧ ∀ a ∈ second.2.arena.actors, ¬second.2.Undermined a) ∧
        second.1.isEmpty = false ∧ second.2.arena.actors ≠ first.2.arena.actors)) = true := by
    decide +kernel
  obtain ⟨b, hb, run⟩ := Fault.exists_of_any run
  obtain ⟨⟨told, b₁⟩, htick, run⟩ := Fault.exists_of_any run
  obtain ⟨⟨later, b₂⟩, hnext, run⟩ := Fault.exists_of_any run
  exact ⟨b, told, b₁, later, b₂, hb, htick, hnext, of_decide_eq_true run⟩

/-- The first tank lands in the first frame, which undermines the second one, and that one falls in
the next frame.  Then the battle is calm. -/
theorem settled_calm_ledge :
    ∃ b told b₁ later b₂, ledge = .ok b ∧ b.tick = .ok (told, b₁) ∧ b₁.isSettled = true ∧
      (∃ a, b₁.arena.actors[1]? = some a ∧ b₁.Undermined a ∧
        (∃ c, b₁.arena.actors[0]? = some c ∧ ∃ distance damage parachute,
          Event.actorLanded c.id distance damage parachute ∈ told) ∧
        ∃ a', b₂.arena.actors[1]? = some a' ∧ Falling.FellFrom a a' later) ∧
      b₁.tick = .ok (later, b₂) ∧ b₂.isSettled = true ∧
      ∀ n, Call.performAll (List.replicate n .tick) b₂ = .ok ([], b₂.later n) := by
  obtain ⟨b, told, b₁, later, b₂, hb, htick, hnext, ⟨hs, hfall, hlength, hunder⟩,
    ⟨hs₂, hgrounded⟩, _⟩ := ledge_frames
  obtain ⟨a, ha⟩ : ∃ a, b₁.arena.actors[1]? = some a := ⟨_, List.getElem?_eq_getElem (by omega)⟩
  obtain ⟨⟨j, c, hj, hc, _, _, htold⟩, later', b', a', hnext', ha', _, hfell⟩ :=
    (settled_calm htick hs).2 hfall 1 a ha (hunder a ha)
  obtain ⟨rfl, rfl⟩ := Prod.mk.inj (Except.ok.inj (hnext.symm.trans hnext'))
  -- There are two actors, and the neighbour is not the second one.
  have hfirst : j = 0 := by
    have := (List.getElem?_eq_some_iff.1 hc).1
    omega
  subst hfirst
  exact ⟨b, told, b₁, later, b₂, hb, htick, hs,
    ⟨a, ha, hunder a ha, ⟨c, hc, htold⟩, a', ha', hfell⟩, hnext, hs₂,
    (settled_calm hnext hs₂).1.2 fun _ => hgrounded⟩

/-- Not every settled battle is calm.  The first tank drops by two rows in the first frame, and its
landing levels the step away on which the second one stands; the battle has settled, and in the next
frame the second tank falls. -/
theorem settled_not_calm :
    ∃ b told b₁ later b₂,
      ledge = .ok b ∧ b.tick = .ok (told, b₁) ∧ b₁.isSettled = true ∧
      b₁.tick = .ok (later, b₂) ∧ later ≠ [] ∧ b₂.arena.actors ≠ b₁.arena.actors := by
  obtain ⟨b, told, b₁, later, b₂, hb, htick, hnext, ⟨hs, _⟩, _, hlater, hmoved⟩ := ledge_frames
  exact ⟨b, told, b₁, later, b₂, hb, htick, hs, hnext, List.isEmpty_eq_false_iff.1 hlater, hmoved⟩

end Artillery.Battle
