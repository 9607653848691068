import Artillery.Proofs.Falling
import Artillery.Proofs.Ledger.Shield

/-!
# Keeping track of an actor

Events account for what has happened to an actor when they give its account at the end, and tell of
its death and of its shield.

## Key results

- `Tracks.trans` / `Tracks.congr`: how histories of an actor are put together
- `hit_tracks`, `deflect_tracks`, `takeGuidance_tracks`, `fallOn_tracks`: what happens to an actor is
  accounted for
-/

namespace Artillery

open Event

/-- Being alive means having energy. -/
def Actor.Sound (a : Actor) : Prop := a.alive = true ↔ 0 < a.energy

/-- The events account for the change of an actor: they give its account, it is still alive exactly
while it has energy, they tell of its death as often as it dies, and of what becomes of its shield. -/
structure Tracks (a : Actor) (es : List Event) (a' : Actor) : Prop where
  account : a'.account = a.account.postAll es
  sound : a.Sound → a'.Sound
  toll : a.alive.toNat = a'.alive.toNat + killings a.id es
  shield : a.account.ShieldTold es

namespace Tracks

variable {a a' a'' : Actor} {es fs : List Event}

theorem id_eq (h : Tracks a es a') : a'.id = a.id :=
  (congrArg Account.id h.account).trans (Account.postAll_id a.account es)

/-- Where nothing is told of an actor, nothing has happened to it. -/
theorem refl (a : Actor) : Tracks a [] a := ⟨rfl, id, rfl, .nil a.account⟩

theorem trans (h₁ : Tracks a es a') (h₂ : Tracks a' fs a'') : Tracks a (es ++ fs) a'' := by
  constructor
  · rw [h₂.account, h₁.account, Account.postAll_append]
  · intro hs
    exact h₂.sound (h₁.sound hs)
  · rw [killings_append, h₁.toll, h₂.toll, h₁.id_eq]
    omega
  · exact h₁.shield.append (h₁.account ▸ h₂.shield)

/-- What is told of others does not matter. -/
theorem congr (h : Tracks a es a') (he : about a.id fs = about a.id es) : Tracks a fs a' := by
  constructor
  · calc a'.account = a.account.postAll es := h.account
      _ = a.account.postAll (about a.id es) := (Account.postAll_about a.account es).symm
      _ = a.account.postAll (about a.id fs) := by rw [he]
      _ = a.account.postAll fs := Account.postAll_about a.account fs
  · exact h.sound
  · rw [h.toll, ← killings_about a.id es, ← he, killings_about]
  · exact h.shield.congr he

/-- Nothing has happened to an actor that the events do not mention. -/
theorem idle (he : ∀ e ∈ es, e.subject? ≠ some a.id) : Tracks a es a :=
  (refl a).congr (about_eq_nil he)

/-- Events about one actor are booked without looking for their subject. -/
theorem of_book (hs : ∀ e ∈ es, e.subject? = some a.id)
    (account : a'.account = es.foldl Account.book a.account) (sound : a.Sound → a'.Sound)
    (toll : a.alive.toNat = a'.alive.toNat + killings a.id es) (shield : a.account.ShieldTold es) :
    Tracks a es a' :=
  ⟨account.trans (Account.postAll_of_forall hs).symm, sound, toll, shield⟩

end Tracks

/-! ## Blasts -/

/-- The events that tell of a hit. -/
def ActorHit.events (h : ActorHit) : List Event :=
  .actorDamaged h.actor h.damage h.absorbed ::
    if h.shieldDepleted then [.shieldDepleted h.actor] else []

/-- The event that tells of a death, if an actor is dead. -/
def Actor.obituary (a : Actor) (attacker : ActorId) : List Event :=
  if a.alive then [] else [.actorKilled a.id attacker]

/-- The events of a hit are about who was hit. -/
theorem ActorHit.subject_events {h : ActorHit} {e : Event} (he : e ∈ h.events) :
    e.subject? = some h.actor := by
  unfold events at he
  split at he
  · obtain rfl | rfl : e = _ ∨ e = _ := by simpa using he
    · rfl
    · rfl
  · obtain rfl := List.mem_singleton.1 he
    rfl

/-- An obituary is about who died. -/
theorem Actor.subject_obituary {a : Actor} {attacker : ActorId} {e : Event}
    (he : e ∈ a.obituary attacker) : e.subject? = some a.id := by
  unfold obituary at he
  split at he
  · exact nomatch he
  · obtain rfl := List.mem_singleton.1 he
    rfl

/-- An obituary says nothing of the shield. -/
theorem Actor.spares_obituary {a : Actor} {attacker : ActorId} {e : Event}
    (he : e ∈ a.obituary attacker) : e.SparesShield := by
  unfold obituary at he
  split at he
  · exact nomatch he
  · obtain rfl := List.mem_singleton.1 he
    trivial

theorem Actor.hurt_id (a : Actor) (damage : Int) : (a.hurt damage).id = a.id := by
  unfold hurt
  split <;> rfl

/-- What the shield takes and what goes through are told together, and a death after them. -/
theorem hurt_tracks {a : Actor} (alive : a.alive = true) (damage absorbed : Int) (depleted : Bool)
    (attacker : ActorId) {b : Actor}
    (hb : b = { a with
      shieldEnergy := a.shieldEnergy - absorbed
      shield := if depleted then .none else a.shield })
    (told : a.account.ShieldTold (ActorHit.mk a.id damage absorbed depleted).events) :
    Tracks a ((ActorHit.mk a.id damage absorbed depleted).events ++
      (b.hurt damage).obituary attacker) (b.hurt damage) := by
  have hid : (b.hurt damage).id = a.id := (b.hurt_id damage).trans (by rw [hb])
  have hs : ∀ e ∈ (ActorHit.mk a.id damage absorbed depleted).events ++
      (b.hurt damage).obituary attacker, e.subject? = some a.id := by
    intro e he
    obtain he | he := List.mem_append.1 he
    · exact ActorHit.subject_events he
    · exact (Actor.subject_obituary he).trans (congrArg some hid)
  have shield : a.account.ShieldTold ((ActorHit.mk a.id damage absorbed depleted).events ++
      (b.hurt damage).obituary attacker) := told.append (.of_spares fun _ => Actor.spares_obituary)
  by_cases hdead : a.energy - damage ≤ 0
  · -- The energy is spent: the death is told after the hit, and the energy does not go below zero.
    have hhurt : b.hurt damage = { b with energy := 0, alive := false } := by
      rw [hb]
      exact if_pos hdead
    have hmax : max 0 (a.energy - damage) = 0 := by omega
    rw [hhurt] at hs shield ⊢
    subst hb
    refine Tracks.of_book hs ?_ ?_ ?_ shield
    · cases depleted <;>
        simp [ActorHit.events, Actor.obituary, Actor.account, Account.book, hmax]
    · intro _
      simp [Actor.Sound]
    · cases depleted <;>
        simp [ActorHit.events, Actor.obituary, killings, kills, alive]
  · have hhurt : b.hurt damage = { b with energy := a.energy - damage } := by
      rw [hb]
      exact if_neg hdead
    have hmax : max 0 (a.energy - damage) = a.energy - damage := by omega
    rw [hhurt] at hs shield ⊢
    subst hb
    refine Tracks.of_book hs ?_ ?_ ?_ shield
    · cases depleted <;>
        simp [ActorHit.events, Actor.obituary, Actor.account, Account.book, hmax, alive]
    · intro _
      show a.alive = true ↔ 0 < a.energy - damage
      exact iff_of_true alive (by omega)
    · cases depleted <;>
        simp [ActorHit.events, Actor.obituary, killings, kills, alive]

/-- A shield takes nothing; or it is live, and takes all of it or its last energy. -/
theorem absorb_cases (a : Actor) (damage : Int) (k : Keystream) :
    ((a.absorb damage).run k).1 = (a, damage, 0, false) ∨
      a.shield ≠ .none ∧ 0 < a.shieldEnergy ∧
        ((a.absorb damage).run k).1 = a.drainShield damage := by
  unfold Actor.absorb
  by_cases hdown : ¬a.hasLiveShield
  · exact .inl (by rw [if_pos hdown]; rfl)
  have hlive : a.shield ≠ .none ∧ 0 < a.shieldEnergy := of_decide_eq_true (Decidable.not_not.1 hdown)
  rw [if_neg hdown]
  by_cases hflicker : a.shield = .flicker
  · rw [if_pos hflicker]
    -- The coin of a flicker shield decides.
    show ((if (Draw.coin k).1 = true then pure (a, damage, 0, false)
      else pure (a.drainShield damage) : Draw _) (Draw.coin k).2).1 = _ ∨ _ ∧ _ ∧
        ((if (Draw.coin k).1 = true then pure (a, damage, 0, false)
      else pure (a.drainShield damage) : Draw _) (Draw.coin k).2).1 = _
    split
    · exact .inl rfl
    · exact .inr ⟨hlive.1, hlive.2, rfl⟩
  · exact .inr ⟨hlive.1, hlive.2, by rw [if_neg hflicker]; rfl⟩

/-- A hit on a living actor is told, and its death if it dies of it. -/
theorem hit_tracks {a a' : Actor} {raw : Int} {h : ActorHit} {k k' : Keystream}
    (alive : a.alive = true) (hh : (Shock.hit a raw).run k = ((a', h), k')) (attacker : ActorId) :
    h.actor = a.id ∧ Tracks a (h.events ++ a'.obituary attacker) a' := by
  have hpair : (a', h) = ((((a.absorb raw).run k).1.1).hurt ((a.absorb raw).run k).1.2.1,
      ⟨((a.absorb raw).run k).1.1.id, ((a.absorb raw).run k).1.2.1,
        ((a.absorb raw).run k).1.2.2.1, ((a.absorb raw).run k).1.2.2.2⟩) :=
    (congrArg Prod.fst hh).symm
  obtain ⟨rfl, rfl⟩ := Prod.mk.inj hpair
  obtain hc | ⟨hworn, hlive, hc⟩ := absorb_cases a raw k
  · -- Nothing is absorbed, so that the shield is spared.
    rw [hc]
    have htold : a.account.ShieldTold (ActorHit.mk a.id raw 0 false).events :=
      .of_spares fun e he => List.mem_singleton.1 he ▸ rfl
    exact ⟨rfl, hurt_tracks alive raw 0 false attacker (by simp) htold⟩
  · rw [hc]
    unfold Actor.drainShield
    split
    · rename_i hle
      exact ⟨rfl, hurt_tracks alive 0 raw false attacker rfl (.drained hlive hle)⟩
    · rename_i hgt
      have htold : a.account.ShieldTold
          (ActorHit.mk a.id (raw - a.shieldEnergy) a.shieldEnergy true).events :=
        .broken hworn hlive (Int.sub_pos_of_lt (Int.not_le.1 hgt))
      refine ⟨rfl, hurt_tracks alive (raw - a.shieldEnergy) a.shieldEnergy true attacker ?_ htold⟩
      rw [Int.sub_self]
      rfl

/-! ## Shields, shots and falls -/

/-- A change that leaves the account alone needs no event. -/
theorem tracks_of_account {a a' : Actor} (h : a'.account = a.account) : Tracks a [] a' := by
  have halive : a'.alive = a.alive := congrArg Account.alive h
  have henergy : a'.energy = a.energy := congrArg Account.energy h
  constructor
  · exact h
  · intro hs
    rw [Actor.Sound, halive, henergy]
    exact hs
  · rw [halive]
    rfl
  · exact .nil a.account

/-- A projectile that is thrown back costs shield energy, and the last of it the shield. -/
theorem deflect_eq {a a' : Actor} {p p' : Projectile} {depleted : Bool} {k k' : Keystream}
    (h : (a.deflect p).run k = (some (a', p', depleted), k')) :
    a.shield ≠ .none ∧ 0 < a.shieldEnergy ∧
      (depleted = true ↔ a.shieldEnergy - min 10 a.shieldEnergy ≤ 0) ∧
      a' = { a with
        shieldEnergy := a.shieldEnergy - min 10 a.shieldEnergy
        shield := if depleted then .none else a.shield } := by
  unfold Actor.deflect at h
  split at h
  · exact nomatch congrArg Prod.fst h
  · rename_i hcan
    have hres : (_, _, _) = (a', p', depleted) := Option.some.inj (congrArg Prod.fst h)
    obtain ⟨ha, hrest⟩ := Prod.mk.inj hres
    obtain ⟨_, hd⟩ := Prod.mk.inj hrest
    obtain ⟨_, hcan⟩ := not_or.1 hcan
    -- To throw a shot back takes a shield that does so, and energy.
    obtain ⟨hthrows, hlive⟩ := not_or.1 hcan
    refine ⟨?_, Int.not_le.1 hlive, ?_, ?_⟩
    · intro hnone
      rw [hnone] at hthrows
      exact hthrows Bool.false_ne_true
    · rw [← hd]
      exact decide_eq_true_iff
    · rw [← ha, ← hd]
      rfl

/-- A deflection is a track of the actor that it is for. -/
theorem deflect_tracks {a a' : Actor} {p p' : Projectile} {depleted : Bool} {k k' : Keystream}
    (h : (a.deflect p).run k = (some (a', p', depleted), k')) :
    Tracks a (.shieldDeflected a.id :: if depleted then [.shieldDepleted a.id] else []) a' := by
  obtain ⟨hworn, hlive, hlast, rfl⟩ := deflect_eq h
  have htold := Account.ShieldTold.deflected (t := a.account) hworn hlive hlast
  cases depleted with
  | false => exact .of_book (by simp [subject?]) rfl id (by simp [killings, kills]) htold
  | true => exact .of_book (by simp [subject?]) rfl id (by simp [killings, kills]) htold

/-- A shot uses up the item that it is guided by. -/
theorem takeGuidance_tracks (a : Actor) (weapon : WeaponId) :
    Tracks a [.launched a.id weapon a.inventory.takeGuidance.1]
      { a with inventory := a.inventory.takeGuidance.2 } := by
  have htold : a.account.ShieldTold [.launched a.id weapon a.inventory.takeGuidance.1] :=
    .of_spares fun e he => List.mem_singleton.1 he ▸ trivial
  refine .of_book (by simp [subject?]) ?_ id (by simp [killings, kills]) htold
  unfold Inventory.takeGuidance
  cases a.inventory.nextGuidance <;> rfl

/-- Beginning to fall is told by nothing. -/
theorem loseGround_tracks (a : Actor) (terrain : Raster) : Tracks a [] (a.loseGround terrain) := by
  apply tracks_of_account
  unfold Actor.loseGround
  split <;> rfl

/-- The energy that a fall costs is told, and the death if it was the last of it. -/
theorem payFall_tracks (a : Actor) (damage : Int) :
    (∀ e ∈ (a.payFall damage).2, e.subject? = some a.id) ∧
      Tracks a (a.payFall damage).2 (a.payFall damage).1 := by
  unfold Actor.payFall
  split
  · rename_i hc
    dsimp only
    split
    · rename_i hdead
      have hs : ∀ e ∈ [Event.actorDamaged a.id damage 0, .actorKilled a.id a.id],
          e.subject? = some a.id := by simp [subject?]
      -- The damage takes all that is left, and a death of its own making is told.
      have hmax : max 0 (a.energy - damage) = 0 := by omega
      refine ⟨hs, ?_⟩
      refine Tracks.of_book hs ?_ ?_ ?_ (.of_spares (by simp [SparesShield]))
      · simp [Actor.account, Account.book, hmax]
      · intro _
        simp [Actor.Sound]
      · simp [killings, kills, hc.2]
    · -- It lives on with what is left.
      rename_i hleft
      have hs : ∀ e ∈ [Event.actorDamaged a.id damage 0], e.subject? = some a.id := by
        simp [subject?]
      have hmax : max 0 (a.energy - damage) = a.energy - damage := by omega
      refine ⟨hs, ?_⟩
      refine Tracks.of_book hs ?_ ?_ ?_ (.of_spares (by simp [SparesShield]))
      · simp [Actor.account, Account.book, hmax]
      · intro _
        show a.alive = true ↔ 0 < a.energy - damage
        exact iff_of_true hc.2 (by omega)
      · simp [killings, kills, hc.2]
  · exact ⟨List.forall_mem_nil _, .refl a⟩

/-- A parachute and a loss of energy exclude each other. -/
theorem fallCost_parachute {a : Actor} {distance : Int} (h : (a.fallCost distance).2 = true) :
    (a.fallCost distance).1 = 0 := by
  unfold Actor.fallCost at h ⊢
  split at h
  · split at h
    · rename_i hlong hp
      rw [if_pos hlong, if_pos hp]
    · exact nomatch h
  · exact nomatch h

/-- A landing is told, after the energy that it costs. -/
theorem land_tracks {a a' : Actor} {fall : Fall} {terrain terrain' : Raster} {es : List Event}
    (h : a.land fall terrain = .ok (a', terrain', es)) :
    (∀ e ∈ es, e.subject? = some a.id) ∧ Tracks a es a' := by
  obtain ⟨distance, rested, _, hrested, _, rfl, rfl⟩ := land_eq h
  by_cases hp : (a.fallCost distance).2 = true
  · -- The landing tells of the parachute that it uses up, and of no damage.
    rw [if_pos hp] at hrested
    have hfree := fallCost_parachute hp
    subst hrested
    rw [hp, hfree]
    exact ⟨by simp [Actor.payFall, Actor.useParachute, subject?],
      .of_book (by simp [Actor.payFall, Actor.useParachute, subject?]) rfl id rfl
        (.of_spares (by simp [Actor.payFall, SparesShield]))⟩
  · -- The energy is paid before the landing is told, so a death comes first.
    rw [if_neg hp] at hrested
    obtain ⟨hs, hpaid⟩ := payFall_tracks rested (a.fallCost distance).1
    have hrest : Tracks a [] rested := tracks_of_account (by rw [hrested]; rfl)
    rw [Bool.eq_false_iff.2 hp]
    generalize hq : rested.payFall (a.fallCost distance).1 = paid at hs hpaid ⊢
    have hid : paid.1.id = a.id := hpaid.id_eq.trans hrest.id_eq
    have hlanded (y : Int) : Tracks paid.1
        [.actorLanded paid.1.id distance (a.fallCost distance).1 false] { paid.1 with y := y } :=
      .of_book (by simp [subject?]) rfl id rfl (.of_spares (by simp [SparesShield]))
    constructor
    · intro e he
      obtain he | he := List.mem_append.1 he
      · exact (hs e he).trans (congrArg some hrest.id_eq)
      · obtain rfl := List.mem_singleton.1 he
        exact congrArg some hid
    · exact (hrest.trans hpaid).trans (hlanded _)

/-- A frame of falling is a track of the actor that falls. -/
theorem fallOn_tracks {a a' : Actor} {terrain terrain' : Raster} {es : List Event}
    (h : a.fallOn terrain = .ok (a', terrain', es)) :
    (∀ e ∈ es, e.subject? = some a.id) ∧ Tracks a es a' := by
  obtain ⟨_, rfl, _, rfl⟩ | ⟨_, _, rfl, _, rfl⟩ | ⟨fall, _, _, hland⟩ := fallOn_cases h
  · exact ⟨List.forall_mem_nil _, .refl _⟩
  · exact ⟨List.forall_mem_nil _, tracks_of_account rfl⟩
  · exact land_tracks hland

/-- A frame of falling tells of actors only. -/
theorem Falling.step_subject {as as' : List Actor} {terrain terrain' : Raster} {es : List Event}
    (h : Falling.step as terrain = .ok (as', terrain', es)) :
    ∀ e ∈ es, ∃ id, e.subject? = some id := by
  induction as generalizing terrain as' es with
  | nil =>
    obtain ⟨_, hr⟩ := Prod.mk.inj (Except.ok.inj h)
    obtain ⟨_, rfl⟩ := Prod.mk.inj hr
    exact List.forall_mem_nil _
  | cons a as ih =>
    obtain ⟨a', rest, terrain₁, es₁, es₂, ha, hrest, _, rfl⟩ := step_cons h
    intro e he
    obtain he | he := List.mem_append.1 he
    · exact ⟨a.id, (fallOn_tracks ha).1 e he⟩
    · exact ih hrest e he

end Artillery
