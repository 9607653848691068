import Artillery.Proofs.Arena.Moves
import Artillery.Proofs.Ledger.Tracks
import Mathlib.Data.List.Forall2
import Mathlib.Data.List.Nodup

/-!
# The table of actors

Events account for a change of the whole table when they account for the change of each actor in it
and tell of nobody else.  With distinct numbers the events about one actor are not mixed up with
those about another, so that a blast, a landing or a shield can be looked at actor by actor.

## Key results

- `Booked.trans` / `Booked.cons` / `Booked.set`: how accounts of tables are put together
- `strike_booked`: a blast is accounted for
- `Falling.step_booked`: so is a frame of falling
- `Arena.Moves.booked`: so is whatever projectiles do to the arena
-/

namespace Artillery

open Event

/-- The numbers of some actors. -/
def ids (as : List Actor) : List ActorId := as.map (·.id)

/-- The events account for the change of a table. -/
structure Booked (as : List Actor) (es : List Event) (as' : List Actor) : Prop where
  tracks : List.Forall₂ (Tracks · es ·) as as'
  subjects : ∀ e ∈ es, ∀ id, e.subject? = some id → id ∈ ids as

namespace Booked

variable {as as' as'' : List Actor} {es fs : List Event}

/-- Nobody gets another number. -/
theorem ids_eq (h : Booked as es as') : ids as' = ids as := by
  have htracks := h.tracks
  clear h
  induction htracks with
  | nil => rfl
  | cons ha _ ih => exact congrArg₂ List.cons ha.id_eq ih

/-- The events give the accounts. -/
theorem accounts (h : Booked as es as') :
    as'.map Actor.account = as.map fun a => a.account.postAll es := by
  have htracks := h.tracks
  clear h
  induction htracks with
  | nil => rfl
  | cons ha _ ih => exact congrArg₂ List.cons ha.account ih

/-- Being alive still means having energy. -/
theorem sound (h : Booked as es as') (hs : ∀ a ∈ as, a.Sound) : ∀ a ∈ as', a.Sound := by
  have htracks := h.tracks
  clear h
  induction htracks with
  | nil => exact hs
  | cons ha _ ih =>
    obtain ⟨ha', has⟩ := List.forall_mem_cons.1 hs
    exact List.forall_mem_cons.2 ⟨ha.sound ha', ih has⟩

/-- Nothing is told of others. -/
theorem about_others {id : ActorId} (h : Booked as es as') (hid : id ∉ ids as) :
    about id es = [] :=
  Event.about_eq_nil fun e he heq => hid (h.subjects e he id heq)

/-- The events account for the actor in each place. -/
theorem tracks_getElem? {i : Nat} {a a' : Actor} (h : Booked as es as') (ha : as[i]? = some a)
    (ha' : as'[i]? = some a') : Tracks a es a' := by
  have htracks := h.tracks
  clear h
  induction htracks generalizing i with
  | nil => exact nomatch ha
  | cons hb _ ih =>
    cases i with
    | zero => exact Option.some.inj ha ▸ Option.some.inj ha' ▸ hb
    | succ i => exact ih ha ha'

theorem trans (h₁ : Booked as es as') (h₂ : Booked as' fs as'') : Booked as (es ++ fs) as'' := by
  constructor
  · obtain ⟨t₁, _⟩ := h₁
    obtain ⟨t₂, _⟩ := h₂
    -- The accounts of the two parts follow upon each other, actor by actor.
    clear * - t₁ t₂
    induction t₁ generalizing as'' with
    | nil =>
      cases t₂
      exact .nil
    | cons ha _ ih =>
      cases t₂ with
      | cons hb hbs => exact .cons (ha.trans hb) (ih hbs)
  · intro e he id hid
    obtain he | he := List.mem_append.1 he
    · exact h₁.subjects e he id hid
    · exact h₁.ids_eq ▸ h₂.subjects e he id hid

/-- A change that leaves all accounts alone needs no event. -/
theorem of_accounts {f : Actor → Actor} (h : ∀ a ∈ as, Tracks a [] (f a)) :
    Booked as [] (as.map f) := by
  refine ⟨?_, List.forall_mem_nil _⟩
  induction as with
  | nil => exact .nil
  | cons a as ih =>
    obtain ⟨ha, has⟩ := List.forall_mem_cons.1 h
    exact .cons ha (ih has)

/-- What is told of nobody changes nobody. -/
theorem idle (h : ∀ e ∈ es, e.subject? = none) : Booked as es as := by
  have hnobody : ∀ e ∈ es, ∀ id, e.subject? ≠ some id := by
    intro e he id hid
    rw [h e he] at hid
    cases hid
  constructor
  · rw [List.forall₂_same]
    intro a _
    exact .idle fun e he => hnobody e he a.id
  · intro e he id hid
    exact absurd hid (hnobody e he id)

theorem refl (as : List Actor) : Booked as [] as := .idle (List.forall_mem_nil _)

/-- What is told of others does not matter to anyone in the table. -/
private theorem tracks_congr (h : List.Forall₂ (Tracks · fs ·) as as')
    (he : ∀ id ∈ ids as, about id es = about id fs) : List.Forall₂ (Tracks · es ·) as as' := by
  induction h with
  | nil => exact .nil
  | cons ha _ ih =>
    obtain ⟨hid, hids⟩ := List.forall_mem_cons.1 he
    exact .cons (ha.congr hid) (ih hids)

/-- The account of a table is made of those of its first actor and of the rest.  The events may come
mixed, as long as those about each single actor keep their order. -/
theorem cons {a a' : Actor} {gs : List Event} (fresh : a.id ∉ ids as) (ha : Tracks a es a')
    (hown : ∀ e ∈ es, e.subject? = some a.id) (has : Booked as fs as')
    (hgs : ∀ id, about id gs = about id (es ++ fs)) : Booked (a :: as) gs (a' :: as') := by
  -- The first actor sees nothing of the others in the events, and they see nothing of it.
  have hfirst : about a.id gs = about a.id es := by
    have hothers : about a.id fs = [] :=
      about_eq_nil fun e he hid => fresh (has.subjects e he a.id hid)
    rw [hgs, about_append, hothers, List.append_nil]
  have hrest : ∀ id ∈ ids as, about id gs = about id fs := by
    intro id hid
    have hown' : about id es = [] := by
      apply about_eq_nil
      intro e he heq
      rw [Option.some.inj (heq.symm.trans (hown e he))] at hid
      exact fresh hid
    rw [hgs, about_append, hown', List.nil_append]
  constructor
  · exact .cons (ha.congr hfirst) (tracks_congr has.tracks hrest)
  · intro e he id hid
    have hm : e ∈ about id gs := List.mem_filter.2 ⟨he, decide_eq_true hid⟩
    rw [hgs] at hm
    obtain he | he := List.mem_append.1 (List.mem_filter.1 hm).1
    · have := hid.symm.trans (hown e he)
      exact Option.some.inj this ▸ List.mem_cons_self
    · exact List.mem_cons_of_mem _ (has.subjects e he id hid)

/-- Changing one actor of a table is accounted for by the events about it. -/
theorem set {a a' : Actor} {i : Nat} (nodup : (ids as).Nodup) (hi : as[i]? = some a)
    (ha : Tracks a es a') (hown : ∀ e ∈ es, e.subject? = some a.id) :
    Booked as es (as.set i a') := by
  induction as generalizing i with
  | nil => exact nomatch hi
  | cons b as ih =>
    obtain ⟨fresh, nodup⟩ := List.nodup_cons.1 nodup
    -- The entry is at the head, or among those whose numbers are different from that of the head.
    cases i with
    | zero =>
      obtain rfl := Option.some.inj hi
      have hrest : Booked as [] as := .refl as
      exact cons fresh ha hown hrest fun id => by rw [List.append_nil]
    | succ i =>
      have hrest := ih nodup hi
      exact cons fresh (.refl b) (List.forall_mem_nil _) hrest fun _ => rfl

end Booked

/-! ## Blasts -/

section Strike

variable {s : Shock} {a : Actor} {as as' : List Actor} {carried : Option Vec2} {k k' : Keystream}
  {report : DamageReport}

/-- A blast either hits the first living actor of a table or passes it by, and goes on. -/
theorem strike_cons (h : (s.strike (a :: as) carried).run k = ((as', report), k')) :
    (∃ carried' rest, (s.strike as carried').run k = ((rest, report), k') ∧ as' = a :: rest) ∨
      ∃ raw carried' a' hit k₁ rest later, a.alive = true ∧
        (Shock.hit a raw).run k = ((a', hit), k₁) ∧
        (s.strike as carried').run k₁ = ((rest, later), k') ∧
        as' = a' :: rest ∧ report = Shock.noted hit a' later := by
  rw [Shock.strike] at h
  -- The first actor is out of reach, or within reach and unharmed, or hit.
  split at h
  · rename_i hin
    dsimp only at h
    split at h
    · right
      have halive : a.alive = true := by
        have := of_decide_eq_true hin
        exact this.1
      obtain ⟨hr, rfl⟩ := Prod.mk.inj h
      obtain ⟨rfl, rfl⟩ := Prod.mk.inj hr
      exact ⟨_, _, _, _, _, _, _, halive, rfl, rfl, rfl, rfl⟩
    · left
      obtain ⟨hr, rfl⟩ := Prod.mk.inj h
      obtain ⟨rfl, rfl⟩ := Prod.mk.inj hr
      exact ⟨_, _, rfl, rfl⟩
  · left
    obtain ⟨hr, rfl⟩ := Prod.mk.inj h
    obtain ⟨rfl, rfl⟩ := Prod.mk.inj hr
    exact ⟨_, _, rfl, rfl⟩

/-- A noted hit comes before later hits, and a death after all hits. -/
theorem events_noted (hit : ActorHit) (a : Actor) (later : DamageReport) (attacker : ActorId) :
    (Shock.noted hit a later).events attacker =
      hit.events ++ later.hits.flatMap ActorHit.events ++
        (a.obituary attacker ++ later.deaths.map (.actorKilled · attacker)) := by
  have parts (r : DamageReport) : r.events attacker =
      r.hits.flatMap ActorHit.events ++ r.deaths.map (.actorKilled · attacker) := rfl
  rw [parts]
  unfold Shock.noted Actor.obituary
  by_cases ha : a.alive = true
  · rw [if_pos ha, if_pos ha]
    rfl
  · rw [if_neg ha, if_neg ha]
    rfl

/-- A blast is accounted for, although it tells of all hits before the deaths. -/
theorem strike_booked (nodup : (ids as).Nodup)
    (h : (s.strike as carried).run k = ((as', report), k')) (attacker : ActorId) :
    Booked as (report.events attacker) as' := by
  induction as generalizing carried k as' report with
  | nil =>
    obtain ⟨hr, _⟩ := Prod.mk.inj h
    obtain ⟨rfl, rfl⟩ := Prod.mk.inj hr
    exact .refl []
  | cons a as ih =>
    obtain ⟨fresh, nodup⟩ := List.nodup_cons.1 nodup
    obtain ⟨carried', rest, hs, rfl⟩ | ⟨raw, carried', a', hit, k₁, rest, later, alive, hh, hs, rfl,
      rfl⟩ := strike_cons h
    · -- The blast passes the first actor by.
      exact .cons fresh (.refl a) (List.forall_mem_nil _) (ih nodup hs) fun _ => rfl
    · obtain ⟨hactor, htracks⟩ := hit_tracks alive hh attacker
      have hrest := ih nodup hs
      have hhit : ∀ e ∈ hit.events, e.subject? = some a.id := by
        intro e he
        exact hactor ▸ ActorHit.subject_events he
      have hdeath : ∀ e ∈ a'.obituary attacker, e.subject? = some a.id := by
        intro e he
        exact htracks.id_eq ▸ Actor.subject_obituary he
      have hown : ∀ e ∈ hit.events ++ a'.obituary attacker, e.subject? = some a.id := by
        intro e he
        exact (List.mem_append.1 he).elim (hhit e) (hdeath e)
      -- The death is told after the hits of others, where nobody but the others is told of.
      have hmixed (id : ActorId) : about id ((Shock.noted hit a' later).events attacker) =
          about id (hit.events ++ a'.obituary attacker ++ later.events attacker) := by
        have hlater : later.events attacker = later.hits.flatMap ActorHit.events ++
            later.deaths.map (.actorKilled · attacker) := rfl
        rw [events_noted, hlater]
        simp only [about_append]
        by_cases hid : id = a.id
        · have hskip : about id (later.hits.flatMap ActorHit.events) = [] := by
            apply about_eq_nil
            intro e he heq
            have hin := hrest.subjects e (hlater ▸ List.mem_append_left _ he) id heq
            rw [hid] at hin
            exact fresh hin
          rw [hskip, List.append_nil, List.nil_append, List.append_assoc]
        · have hskip : about id (a'.obituary attacker) = [] := by
            apply about_eq_nil
            intro e he heq
            exact hid (Option.some.inj (heq.symm.trans (hdeath e he)))
          rw [hskip, List.append_nil, List.nil_append, List.append_assoc]
      exact .cons fresh htracks hown hrest hmixed

end Strike

/-! ## Falls -/

/-- A frame of falling is accounted for. -/
theorem Falling.step_booked {as as' : List Actor} {terrain terrain' : Raster} {es : List Event}
    (nodup : (ids as).Nodup) (h : Falling.step as terrain = .ok (as', terrain', es)) :
    Booked as es as' := by
  induction as generalizing terrain as' es with
  | nil =>
    obtain ⟨rfl, hr⟩ := Prod.mk.inj (Except.ok.inj h)
    obtain ⟨_, rfl⟩ := Prod.mk.inj hr
    exact .refl []
  | cons a as ih =>
    obtain ⟨fresh, nodup⟩ := List.nodup_cons.1 nodup
    obtain ⟨⟨a', terrain₁, events⟩, ha, h⟩ := Fault.bind_ok h
    obtain ⟨⟨rest, terrain₂, later⟩, hrest, h⟩ := Fault.bind_ok h
    obtain ⟨rfl, hr⟩ := Prod.mk.inj (Except.ok.inj h)
    obtain ⟨rfl, rfl⟩ := Prod.mk.inj hr
    obtain ⟨hown, htracks⟩ := fallOn_tracks ha
    exact .cons fresh htracks hown (ih nodup hrest) fun _ => rfl

/-- The check for falls is told by nothing. -/
theorem Falling.check_booked (as : List Actor) (terrain : Raster) :
    Booked as [] (Falling.check as terrain) :=
  .of_accounts fun a _ => loseGround_tracks a terrain

/-! ## What projectiles do -/

namespace Arena

variable {a a' : Arena} {es : List Event}

/-- Each move tells what it does to the actors. -/
theorem Move.booked (h : a.Move es a') (nodup : (ids a.actors).Nodup) :
    Booked a.actors es a'.actors := by
  -- An event about nobody changes no account.
  have idle {e : Event} (he : e.subject? = none) : Booked a.actors [e] a.actors :=
    .idle fun e' he' => List.mem_singleton.1 he' ▸ he
  cases h with
  | draw k => exact .refl a.actors
  | impact p hit ht => exact idle rfl
  | lock owner kind => exact idle rfl
  | blow b hr => exact idle rfl
  | shock s carried => exact strike_booked nodup (k := a.keystream) rfl s.attacker
  | dig center work hw =>
    rw [dig_actors]
    exact idle rfl
  | queue weapon spawn hs =>
    rw [queue_actors]
    exact idle rfl
  | @deflect p p' id i target target' depleted k hi ht hd =>
    -- The entry that is set is that of the actor who deflects.
    have hid : target.id = id := by
      obtain ⟨hlt, hn, _⟩ := List.findIdx?_eq_some_iff_getElem.1 hi
      rw [List.getElem?_eq_getElem hlt] at ht
      rw [← Option.some.inj ht]
      exact of_decide_eq_true hn
    subst hid
    exact .set nodup ht (deflect_tracks hd) (by cases depleted <;> simp [subject?])

/-- The moves of an arena are booked as long as the numbers of its actors are distinct. -/
theorem Moves.booked (h : a.Moves es a') (nodup : (ids a.actors).Nodup) :
    Booked a.actors es a'.actors := by
  induction h with
  | nil => exact .refl _
  | cons h _ ih =>
    have hb := h.booked nodup
    exact hb.trans (ih (hb.ids_eq ▸ nodup))

end Arena

end Artillery
