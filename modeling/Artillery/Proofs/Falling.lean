import Artillery.Falling
import Artillery.Proofs.Raster.Frames

/-!
# Falls and the ground

A frame of falling goes through the actors one after another.  Only a landing changes the ground, in
the columns of the footprint, so that whoever stands too high afterwards has a neighbour that has
landed in the same frame.

## Key results

- `land_eq` / `fallOn_cases`: what a landing and a frame of falling do to one actor
- `step_earth`: the ground has changed only where somebody has landed
- `step_undermined`: an actor at rest that has lost its ground has a neighbour that has landed
- `fallOn_fellFrom`: in the frame in which its fall begins an actor falls on or lands
- `step_quiet`: a frame that tells nothing leaves those who fall in the air
- `step_isFall`: a frame tells of falls only
-/

namespace Artillery

/-- A landing takes the actor to the ground, lets it pay for the fall, and levels the ground. -/
theorem land_eq {a a' : Actor} {fall : Fall} {terrain terrain' : Raster} {es : List Event}
    (h : a.land fall terrain = .ok (a', terrain', es)) :
    ∃ (distance : Int) (rested : Actor),
      distance = terrain.heightAt a.x - fall.startY ∧
      rested = (if (a.fallCost distance).2 then
          { a with y := terrain.heightAt a.x, falling := none }.useParachute
        else { a with y := terrain.heightAt a.x, falling := none }) ∧
      terrain.level (rested.payFall (a.fallCost distance).1).1.x Actor.halfWidth = .ok terrain' ∧
      a' = { (rested.payFall (a.fallCost distance).1).1 with
        y := terrain'.heightAt (rested.payFall (a.fallCost distance).1).1.x } ∧
      es = (rested.payFall (a.fallCost distance).1).2 ++
        [.actorLanded (rested.payFall (a.fallCost distance).1).1.id distance
          (a.fallCost distance).1 (a.fallCost distance).2] := by
  obtain ⟨levelled, hl, h⟩ := Fault.bind_ok h
  obtain ⟨rfl, hrest⟩ := Prod.mk.inj (Except.ok.inj h)
  obtain ⟨rfl, rfl⟩ := Prod.mk.inj hrest
  exact ⟨_, _, rfl, rfl, hl, rfl, rfl⟩

/-- In a frame an actor rests, falls on, or lands. -/
theorem fallOn_cases {a a' : Actor} {terrain terrain' : Raster} {es : List Event}
    (h : a.fallOn terrain = .ok (a', terrain', es)) :
    (a.falling = none ∧ a' = a ∧ terrain' = terrain ∧ es = []) ∨
      (a.falling.isSome = true ∧ a.y + Fall.speed < terrain.heightAt a.x ∧
        a' = { a with y := a.y + Fall.speed } ∧ terrain' = terrain ∧ es = []) ∨
      ∃ fall, a.falling = some fall ∧ terrain.heightAt a.x ≤ a.y + Fall.speed ∧
        a.land fall terrain = .ok (a', terrain', es) := by
  unfold Actor.fallOn at h
  split at h
  · -- Nobody who rests is moved.
    rename_i hrest
    left
    have hresult := Except.ok.inj h
    simp only [Prod.mk.injEq] at hresult
    obtain ⟨rfl, rfl, rfl⟩ := hresult
    exact ⟨hrest, rfl, rfl, rfl⟩
  · rename_i fall hfall
    right
    split at h
    · rename_i hair
      left
      have hresult := Except.ok.inj h
      simp only [Prod.mk.injEq] at hresult
      obtain ⟨rfl, rfl, rfl⟩ := hresult
      exact ⟨by rw [hfall]; rfl, hair, rfl, rfl, rfl⟩
    · -- It would be at the ground or below it in this frame.
      rename_i hlow
      exact .inr ⟨fall, hfall, Int.not_lt.1 hlow, h⟩

/-! ## A single actor -/

/-- To begin a fall changes nothing else about an actor. -/
theorem loseGround_eq (a : Actor) (terrain : Raster) :
    ∃ falling, a.loseGround terrain = { a with falling := falling } := by
  unfold Actor.loseGround
  split
  · exact ⟨_, rfl⟩
  · exact ⟨a.falling, rfl⟩

/-- Some events tell that an actor has landed. -/
def ToldLanding (id : ActorId) (es : List Event) : Prop :=
  ∃ distance damage parachute, Event.actorLanded id distance damage parachute ∈ es

theorem ToldLanding.mono {id : ActorId} {es fs : List Event} (h : ToldLanding id es)
    (hsub : es ⊆ fs) : ToldLanding id fs := by
  obtain ⟨distance, damage, parachute, hm⟩ := h
  exact ⟨distance, damage, parachute, hsub hm⟩

/-- A footprint reaches over a column. -/
def Actor.Covers (a : Actor) (x : Int) : Prop :=
  a.x - Actor.halfWidth ≤ x ∧ x ≤ a.x + Actor.halfWidth

/-- Who pays for a fall stays where it is. -/
theorem payFall_place (a : Actor) (damage : Int) :
    (a.payFall damage).1.id = a.id ∧ (a.payFall damage).1.x = a.x ∧
      (a.payFall damage).1.falling = a.falling := by
  unfold Actor.payFall
  split
  · dsimp only
    split <;> exact ⟨rfl, rfl, rfl⟩
  · exact ⟨rfl, rfl, rfl⟩

/-- A fall does no harm to the shield. -/
theorem payFall_shield (a : Actor) (damage : Int) : (a.payFall damage).1.shield = a.shield := by
  unfold Actor.payFall
  split
  · dsimp only
    split <;> rfl
  · rfl

/-- A parachute or none, who has come to the ground rests in its column. -/
theorem land_rested {a rested : Actor} {distance ground : Int}
    (h : rested = if (a.fallCost distance).2 then { a with y := ground, falling := none }.useParachute
      else { a with y := ground, falling := none }) :
    rested.id = a.id ∧ rested.x = a.x ∧ rested.falling = none := by
  rw [h]
  split <;> exact ⟨rfl, rfl, rfl⟩

/-- A landing is told of, with the rows from where the fall began. -/
theorem land_told {a a' : Actor} {fall : Fall} {terrain terrain' : Raster} {es : List Event}
    (h : a.land fall terrain = .ok (a', terrain', es)) :
    ∃ damage parachute,
      Event.actorLanded a.id (terrain.heightAt a.x - fall.startY) damage parachute ∈ es := by
  obtain ⟨distance, rested, rfl, hrested, _, _, rfl⟩ := land_eq h
  have hid : (rested.payFall (a.fallCost (terrain.heightAt a.x - fall.startY)).1).1.id = a.id :=
    (payFall_place ..).1.trans (land_rested hrested).1
  rw [hid]
  exact ⟨_, _, List.mem_append_right _ (List.mem_singleton_self _)⟩

/-- Who has landed stands on the ground of its column, which has been levelled. -/
theorem land_ground {a a' : Actor} {fall : Fall} {terrain terrain' : Raster} {es : List Event}
    (h : a.land fall terrain = .ok (a', terrain', es)) :
    a'.id = a.id ∧ a'.x = a.x ∧ a'.falling = none ∧ a'.y = terrain'.heightAt a'.x ∧
      terrain.level a.x Actor.halfWidth = .ok terrain' ∧ ToldLanding a.id es := by
  have htold := land_told h
  obtain ⟨distance, rested, _, hrested, hlevel, rfl, rfl⟩ := land_eq h
  obtain ⟨hid, hx, hfalling⟩ := payFall_place rested (a.fallCost distance).1
  obtain ⟨hid', hx', hfalling'⟩ := land_rested hrested
  exact ⟨hid.trans hid', hx.trans hx', hfalling.trans hfalling', rfl, hx.trans hx' ▸ hlevel,
    _, htold⟩

/-- A frame of falling moves nobody to another column. -/
theorem fallOn_place {a a' : Actor} {terrain terrain' : Raster} {es : List Event}
    (h : a.fallOn terrain = .ok (a', terrain', es)) : a'.id = a.id ∧ a'.x = a.x := by
  obtain ⟨_, rfl, _⟩ | ⟨_, _, rfl, _⟩ | ⟨fall, _, _, hland⟩ := fallOn_cases h
  · exact ⟨rfl, rfl⟩
  · exact ⟨rfl, rfl⟩
  · obtain ⟨hid, hx, _⟩ := land_ground hland
    exact ⟨hid, hx⟩

/-- Neither a fall nor a landing changes a shield. -/
theorem fallOn_shield {a a' : Actor} {terrain terrain' : Raster} {es : List Event}
    (h : a.fallOn terrain = .ok (a', terrain', es)) : a'.shield = a.shield := by
  obtain ⟨_, rfl, _⟩ | ⟨_, _, rfl, _⟩ | ⟨fall, _, _, hland⟩ := fallOn_cases h
  · rfl
  · rfl
  · obtain ⟨distance, rested, _, hrested, _, rfl, _⟩ := land_eq hland
    show (rested.payFall _).1.shield = a.shield
    rw [payFall_shield, hrested]
    split <;> rfl

theorem fallOn_size {a a' : Actor} {terrain terrain' : Raster} {es : List Event}
    (h : a.fallOn terrain = .ok (a', terrain', es)) :
    terrain'.width = terrain.width ∧ terrain'.height = terrain.height := by
  obtain ⟨_, _, rfl, _⟩ | ⟨_, _, _, rfl, _⟩ | ⟨fall, _, _, hland⟩ := fallOn_cases h
  · exact ⟨rfl, rfl⟩
  · exact ⟨rfl, rfl⟩
  · obtain ⟨_, _, _, _, hlevel, _⟩ := land_eq hland
    exact Raster.level_size hlevel

/-- One actor changes the ground only under its own footprint, by landing, and only where there is a
playfield. -/
theorem fallOn_earth {a a' : Actor} {terrain terrain' : Raster} {es : List Event}
    (h : a.fallOn terrain = .ok (a', terrain', es)) (x : Int) :
    terrain.SameEarth terrain' x ∨
      a.Covers x ∧ ToldLanding a.id es ∧ (playfieldTop : Int) ≤ terrain.height := by
  obtain ⟨_, _, rfl, _⟩ | ⟨_, _, _, rfl, _⟩ | ⟨fall, _, _, hland⟩ := fallOn_cases h
  · exact .inl (.refl _ x)
  · exact .inl (.refl _ x)
  · obtain ⟨_, _, _, _, hlevel, htold⟩ := land_ground hland
    by_cases hx : a.Covers x
    · obtain rfl | ⟨ground, hclamp, _⟩ := Raster.level_cases hlevel
      · exact .inl (.refl _ x)
      · exact .inr ⟨hx, htold, (le_of_clampInt hclamp).1⟩
    · exact .inl (Raster.level_sameEarth hlevel hx)

/-! ## All of them -/

namespace Falling

/-- Somebody else than the actor in a place has landed, with a footprint over a column. -/
def NeighbourLanded (as : List Actor) (es : List Event) (i : Nat) (x : Int) : Prop :=
  ∃ (j : Nat) (c : Actor), j ≠ i ∧ as[j]? = some c ∧ c.Covers x ∧ ToldLanding c.id es

/-- A frame of falling is the one of the first actor and then that of the others. -/
theorem step_cons {a : Actor} {as as' : List Actor} {terrain terrain' : Raster} {es : List Event}
    (h : Falling.step (a :: as) terrain = .ok (as', terrain', es)) :
    ∃ a' rest terrain₁ es₁ es₂, a.fallOn terrain = .ok (a', terrain₁, es₁) ∧
      Falling.step as terrain₁ = .ok (rest, terrain', es₂) ∧ as' = a' :: rest ∧ es = es₁ ++ es₂ := by
  obtain ⟨⟨a', terrain₁, es₁⟩, ha, h⟩ := Fault.bind_ok h
  obtain ⟨⟨rest, terrain₂, es₂⟩, hrest, h⟩ := Fault.bind_ok h
  have hresult := Except.ok.inj h
  simp only [Prod.mk.injEq] at hresult
  obtain ⟨rfl, rfl, rfl⟩ := hresult
  exact ⟨a', rest, terrain₁, es₁, es₂, ha, hrest, rfl, rfl⟩

/-- The other way round. -/
theorem step_cons_eq {a a' : Actor} {as rest : List Actor} {terrain terrain₁ terrain' : Raster}
    {es₁ es₂ : List Event} (ha : a.fallOn terrain = .ok (a', terrain₁, es₁))
    (hrest : Falling.step as terrain₁ = .ok (rest, terrain', es₂)) :
    Falling.step (a :: as) terrain = .ok (a' :: rest, terrain', es₁ ++ es₂) := by
  unfold Falling.step
  simp only [ha, hrest, bind, Except.bind]
  rfl

/-- In a frame of falling the actor in a place takes its turn between those before and those after
it. -/
theorem step_turn {as as' : List Actor} {terrain terrain' : Raster} {es : List Event}
    (h : Falling.step as terrain = .ok (as', terrain', es)) {i : Nat} {a : Actor}
    (ha : as[i]? = some a) :
    ∃ a' terrain₁ terrain₂ es₁ own es₂, as'[i]? = some a' ∧
      Falling.step (as.take i) terrain = .ok (as'.take i, terrain₁, es₁) ∧
      a.fallOn terrain₁ = .ok (a', terrain₂, own) ∧
      Falling.step (as.drop (i + 1)) terrain₂ = .ok (as'.drop (i + 1), terrain', es₂) ∧
      es = es₁ ++ own ++ es₂ := by
  induction as generalizing terrain as' es i with
  | nil => exact nomatch ha
  | cons b as ih =>
    obtain ⟨b', rest, terrain₁, es₁, es₂, hb, hrest, rfl, rfl⟩ := step_cons h
    -- The one at the head takes its turn on the land as it is.
    cases i with
    | zero =>
      obtain rfl := Option.some.inj ha
      exact ⟨b', terrain, terrain₁, [], es₁, es₂, rfl, rfl, hb, hrest, rfl⟩
    | succ i =>
      obtain ⟨a', terrain₂, terrain₃, es₃, own, es₄, ha', hfirst, hturn, hlast, rfl⟩ := ih hrest ha
      exact ⟨a', terrain₂, terrain₃, es₁ ++ es₃, own, es₄, ha', step_cons_eq hb hfirst, hturn,
        hlast, by simp⟩

/-- The numbers and columns of some actors. -/
def places (as : List Actor) : List (ActorId × Int) := as.map fun a => (a.id, a.x)

/-- Where the places are the same, each actor has a counterpart. -/
theorem exists_of_places {as as' : List Actor} (h : places as' = places as) {i : Nat} {a : Actor}
    (ha : as[i]? = some a) : ∃ a', as'[i]? = some a' ∧ a'.id = a.id ∧ a'.x = a.x := by
  have hi := congrArg (·[i]?) h
  unfold places at hi
  simp only [List.getElem?_map, ha, Option.map_some, Option.map_eq_some_iff, Prod.mk.injEq] at hi
  exact hi

/-- Nobody changes number or column. -/
theorem step_places {as as' : List Actor} {terrain terrain' : Raster} {es : List Event}
    (h : Falling.step as terrain = .ok (as', terrain', es)) : places as' = places as := by
  induction as generalizing terrain as' es with
  | nil =>
    obtain ⟨rfl, _⟩ := Prod.mk.inj (Except.ok.inj h)
    rfl
  | cons a as ih =>
    obtain ⟨a', rest, terrain₁, es₁, es₂, ha, hrest, rfl, _⟩ := step_cons h
    obtain ⟨hid, hx⟩ := fallOn_place ha
    show (a'.id, a'.x) :: places rest = (a.id, a.x) :: places as
    rw [hid, hx, ih hrest]

/-- A frame of falling for everybody keeps the size of the raster. -/
theorem step_size {as as' : List Actor} {terrain terrain' : Raster} {es : List Event}
    (h : Falling.step as terrain = .ok (as', terrain', es)) :
    terrain'.width = terrain.width ∧ terrain'.height = terrain.height := by
  induction as generalizing terrain as' es with
  | nil =>
    obtain ⟨_, hrest⟩ := Prod.mk.inj (Except.ok.inj h)
    obtain ⟨rfl, _⟩ := Prod.mk.inj hrest
    exact ⟨rfl, rfl⟩
  | cons a as ih =>
    obtain ⟨a', rest, terrain₁, es₁, es₂, ha, hrest, _, _⟩ := step_cons h
    obtain ⟨hwidth, hheight⟩ := ih hrest
    -- A landing levels the ground, which keeps the size.
    have hfirst := fallOn_size ha
    exact ⟨hwidth.trans hfirst.1, hheight.trans hfirst.2⟩

/-- The ground of a column has changed only if somebody has landed there. -/
theorem step_earth {as as' : List Actor} {terrain terrain' : Raster} {es : List Event}
    (h : Falling.step as terrain = .ok (as', terrain', es)) (x : Int) :
    terrain.SameEarth terrain' x ∨
      ∃ (j : Nat) (c : Actor), as[j]? = some c ∧ c.Covers x ∧ ToldLanding c.id es ∧
        (playfieldTop : Int) ≤ terrain.height := by
  induction as generalizing terrain as' es with
  | nil =>
    obtain ⟨_, hrest⟩ := Prod.mk.inj (Except.ok.inj h)
    obtain ⟨rfl, _⟩ := Prod.mk.inj hrest
    exact .inl (.refl _ x)
  | cons a as ih =>
    obtain ⟨a', rest, terrain₁, es₁, es₂, ha, hrest, _, rfl⟩ := step_cons h
    obtain hsame | ⟨j, c, hc, hcovers, htold, hrows⟩ := ih hrest
    · -- The others leave the column alone; the first one may have landed in it.
      obtain hfirst | ⟨hcovers, htold, hrows⟩ := fallOn_earth ha x
      · exact .inl (hfirst.trans hsame)
      · exact .inr ⟨0, a, rfl, hcovers, htold.mono (List.subset_append_left ..), hrows⟩
    · rw [(fallOn_size ha).2] at hrows
      exact .inr ⟨j + 1, c, hc, hcovers, htold.mono (List.subset_append_right ..), hrows⟩

/-- What is known of a neighbour is known of it after the frame, and among more events. -/
theorem NeighbourLanded.congr {as as' : List Actor} {es fs : List Event} {i : Nat} {x : Int}
    (h : NeighbourLanded as es i x) (hplaces : places as' = places as) (hsub : es ⊆ fs) :
    NeighbourLanded as' fs i x := by
  obtain ⟨j, c, hj, hc, hcovers, htold⟩ := h
  obtain ⟨c', hc', hid, hx⟩ := exists_of_places hplaces hc
  refine ⟨j, c', hj, hc', ?_, ?_⟩
  · unfold Actor.Covers at hcovers ⊢
    rw [hx]
    exact hcovers
  · rw [hid]
    exact htold.mono hsub

/-- An actor that rests after a frame, more than a row above the ground, although no living actor
rested so before, has been undermined by a neighbour that has landed in the playfield. -/
theorem step_undermined {as as' : List Actor} {terrain terrain' : Raster} {es : List Event}
    (h : Falling.step as terrain = .ok (as', terrain', es)) {i : Nat} {a a' : Actor}
    (ha : as[i]? = some a) (ha' : as'[i]? = some a') (alive : a'.alive = true)
    (rests : a'.falling = none) (high : a'.y + 1 < terrain'.heightAt a'.x)
    (before : a.alive = true → a.falling = none → terrain.heightAt a.x ≤ a.y + 1) :
    NeighbourLanded as es i a'.x ∧ (playfieldTop : Int) ≤ terrain.height := by
  induction as generalizing terrain as' es i with
  | nil => exact nomatch ha
  | cons b as ih =>
    obtain ⟨b', rest, terrain₁, es₁, es₂, hb, hrest, rfl, rfl⟩ := step_cons h
    have hheight := (fallOn_size hb).2
    cases i with
    | zero =>
      obtain rfl := Option.some.inj ha
      obtain rfl := Option.some.inj ha'
      -- The ground under the first actor is moved by the later ones or not at all.
      obtain hsame | ⟨j, c, hc, hcovers, htold, hrows⟩ := step_earth hrest b'.x
      · exfalso
        rw [hsame.ground] at high
        obtain ⟨hnone, rfl, rfl, _⟩ | ⟨hfalls, _, rfl, _⟩ | ⟨fall, _, _, hland⟩ := fallOn_cases hb
        · have := before alive hnone
          omega
        · rw [show b.falling = none from rests] at hfalls
          exact nomatch hfalls
        · obtain ⟨_, _, _, hy, _⟩ := land_ground hland
          omega
      · exact ⟨⟨j + 1, c, Nat.succ_ne_zero j, hc, hcovers,
          htold.mono (List.subset_append_right ..)⟩, hheight ▸ hrows⟩
    | succ i =>
      have hx : a'.x = a.x := by
        obtain ⟨c, hc, _, hx⟩ := exists_of_places (step_places hrest) (i := i) ha
        obtain rfl := Option.some.inj (hc.symm.trans ha')
        exact hx
      obtain hsame | ⟨hcovers, htold, hrows⟩ := fallOn_earth hb a.x
      · have hbefore : a.alive = true → a.falling = none → terrain₁.heightAt a.x ≤ a.y + 1 := by
          rw [hsame.ground]
          exact before
        obtain ⟨⟨j, c, hj, hc, hcovers, htold⟩, hrows⟩ := ih hrest ha ha' hbefore
        exact ⟨⟨j + 1, c, fun h => hj (Nat.succ.inj h), hc, hcovers,
          htold.mono (List.subset_append_right ..)⟩, hheight ▸ hrows⟩
      · rw [hx]
        exact ⟨⟨0, b, (Nat.succ_ne_zero i).symm, rfl, hcovers,
          htold.mono (List.subset_append_left ..)⟩, hrows⟩

/-- What becomes in a frame of an actor that has just lost its ground: it falls on from the row where
it stood, or it has landed already. -/
def FellFrom (a a' : Actor) (es : List Event) : Prop :=
  a'.falling = some ⟨a.y⟩ ∧ a'.y = a.y + Fall.speed ∨
    a'.falling = none ∧
      ∃ ground damage parachute, Event.actorLanded a.id (ground - a.y) damage parachute ∈ es

theorem FellFrom.mono {a a' : Actor} {es fs : List Event} (h : FellFrom a a' es) (hsub : es ⊆ fs) :
    FellFrom a a' fs := by
  obtain hair | ⟨hstill, ground, damage, parachute, hm⟩ := h
  · exact .inl hair
  · exact .inr ⟨hstill, ground, damage, parachute, hsub hm⟩

/-- An actor whose fall has just begun falls in the frame. -/
theorem fallOn_fellFrom {a b a' : Actor} {terrain terrain' : Raster} {es : List Event}
    (h : b.fallOn terrain = .ok (a', terrain', es)) (id : b.id = a.id) (row : b.y = a.y)
    (begun : b.falling = some ⟨a.y⟩) : a'.id = a.id ∧ FellFrom a a' es := by
  obtain ⟨hrests, _⟩ | ⟨_, _, rfl, _⟩ | ⟨fall, hfall, _, hland⟩ := fallOn_cases h
  · exact nomatch begun.symm.trans hrests
  · exact ⟨id, .inl ⟨begun, congrArg (· + Fall.speed) row⟩⟩
  · obtain rfl := Option.some.inj (begun.symm.trans hfall)
    obtain ⟨hid, _, hstill, _⟩ := land_ground hland
    obtain ⟨damage, parachute, hm⟩ := land_told hland
    exact ⟨hid.trans id, .inr ⟨hstill, _, damage, parachute, id ▸ hm⟩⟩

/-- A frame that tells nothing leaves those who fall in the air. -/
theorem step_quiet {as as' : List Actor} {terrain terrain' : Raster}
    (h : Falling.step as terrain = .ok (as', terrain', [])) (hfalls : anyFalling as = true) :
    anyFalling as' = true := by
  induction as generalizing terrain as' with
  | nil => exact nomatch hfalls
  | cons a as ih =>
    obtain ⟨a', rest, terrain₁, es₁, es₂, ha, hrest, rfl, hes⟩ := step_cons h
    obtain ⟨rfl, rfl⟩ := List.append_eq_nil_iff.1 hes.symm
    unfold anyFalling at hfalls ⊢
    rw [List.any_cons, Bool.or_eq_true] at hfalls ⊢
    -- A landing would have been told, so that whoever falls is still in the air.
    cases hfalls with
    | inl hfirst =>
      left
      obtain ⟨hnone, _⟩ | ⟨_, _, rfl, _⟩ | ⟨fall, _, _, hland⟩ := fallOn_cases ha
      · rw [hnone] at hfirst
        exact nomatch hfirst
      · exact hfirst
      · obtain ⟨_, _, _, hm⟩ := (land_ground hland).2.2.2.2.2
        exact nomatch hm
    | inr hothers => exact .inr (ih hrest hothers)

end Falling

/-! ## What is told -/

/-- Whether an event tells of a fall. -/
def Event.isFall : Event → Bool
  | actorDamaged .. | actorKilled .. | actorLanded .. => true
  | _ => false

/-- Paying for a fall tells of nothing else. -/
theorem Actor.payFall_isFall (a : Actor) (damage : Int) :
    ∀ e ∈ (a.payFall damage).2, e.isFall = true := by
  unfold payFall
  split
  · dsimp only
    split <;> simp [Event.isFall]
  · exact List.forall_mem_nil _

/-- A frame of falling tells of landings and their harm only. -/
theorem Actor.fallOn_isFall {a a' : Actor} {terrain terrain' : Raster} {es : List Event}
    (h : a.fallOn terrain = .ok (a', terrain', es)) : ∀ e ∈ es, e.isFall = true := by
  -- Only a landing tells of anything.
  obtain ⟨_, _, _, rfl⟩ | ⟨_, _, _, _, rfl⟩ | ⟨fall, _, _, hland⟩ := fallOn_cases h
  · exact List.forall_mem_nil _
  · exact List.forall_mem_nil _
  · obtain ⟨distance, rested, _, _, _, _, rfl⟩ := land_eq hland
    intro e he
    obtain he | he := List.mem_append.1 he
    · exact rested.payFall_isFall _ e he
    · rw [List.mem_singleton.1 he]
      rfl

/-- A frame of falling tells of falls only. -/
theorem Falling.step_isFall {as as' : List Actor} {terrain terrain' : Raster} {es : List Event}
    (h : Falling.step as terrain = .ok (as', terrain', es)) : ∀ e ∈ es, e.isFall = true := by
  induction as generalizing terrain as' es with
  | nil =>
    obtain ⟨_, hr⟩ := Prod.mk.inj (Except.ok.inj h)
    obtain ⟨_, rfl⟩ := Prod.mk.inj hr
    exact List.forall_mem_nil _
  | cons a as ih =>
    obtain ⟨a', rest, terrain₁, es₁, es₂, ha, hrest, _, rfl⟩ := step_cons h
    intro e he
    exact (List.mem_append.1 he).elim (Actor.fallOn_isFall ha e) (ih hrest e)

end Artillery
