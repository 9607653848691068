import Artillery.Blast

/-!
# Accounts

What an observer of the events knows about one actor: its account, on which the events about it are
booked one after another.

## Key results

- `Account.postAll_append`: histories are booked one after another
- `Account.postAll_about`: an account depends on the events about its actor only
-/

namespace Artillery

namespace Event

/-- The actor whose account an event changes. -/
def subject? : Event → Option ActorId
  | launched owner _ _ => some owner
  | shieldDeflected id => some id
  | shieldDepleted id => some id
  | actorDamaged id _ _ => some id
  | actorKilled id _ => some id
  | actorLanded id _ _ _ => some id
  | impact .. | explosion .. | terrainChanged .. | spawned .. | guidanceLocked .. |
    windChanged .. => none

/-- The events about one actor. -/
def about (id : ActorId) (es : List Event) : List Event := es.filter (·.subject? = some id)

/-- What is told of an actor in two lists is told one after the other. -/
theorem about_append (id : ActorId) (es fs : List Event) :
    about id (es ++ fs) = about id es ++ about id fs := List.filter_append ..

theorem about_eq_nil {id : ActorId} {es : List Event} (h : ∀ e ∈ es, e.subject? ≠ some id) :
    about id es = [] :=
  List.filter_eq_nil_iff.2 fun e he => by simpa using h e he

/-- Whether an event tells of the death of an actor. -/
def kills (id : ActorId) : Event → Bool
  | actorKilled victim _ => victim = id
  | _ => false

/-- How often some events tell of the death of an actor. -/
def killings (id : ActorId) (es : List Event) : Nat := es.countP (kills id)

theorem killings_append (id : ActorId) (es fs : List Event) :
    killings id (es ++ fs) = killings id es + killings id fs := List.countP_append

/-- Whether an event tells that an actor has lost its shield. -/
def depletes (id : ActorId) : Event → Bool
  | shieldDepleted victim => victim = id
  | _ => false

/-- How often some events tell that an actor has lost its shield. -/
def depletions (id : ActorId) (es : List Event) : Nat := es.countP (depletes id)

theorem depletions_append (id : ActorId) (es fs : List Event) :
    depletions id (es ++ fs) = depletions id es + depletions id fs := List.countP_append

/-- What is counted of the events about an actor is counted of all events. -/
private theorem countP_about {id : ActorId} {p : Event → Bool} (es : List Event)
    (hp : ∀ e, p e = true → e.subject? = some id) : (about id es).countP p = es.countP p := by
  rw [about, List.countP_filter]
  apply List.countP_congr
  intro e _
  simpa using hp e

/-- Deaths are told of the dead. -/
theorem killings_about (id : ActorId) (es : List Event) :
    killings id (about id es) = killings id es :=
  countP_about es fun e he => by cases e <;> simp_all [kills, subject?]

/-- The depletions of an actor are among what is told of it. -/
theorem depletions_about (id : ActorId) (es : List Event) :
    depletions id (about id es) = depletions id es :=
  countP_about es fun e he => by cases e <;> simp_all [depletes, subject?]

end Event

open Event

/-- What the events tell of an actor. -/
structure Account where
  id : ActorId
  alive : Bool
  energy : Int
  shield : ShieldKind
  shieldEnergy : Int
  inventory : Inventory
  deriving DecidableEq, Repr

/-- The account of an actor as it stands. -/
def Actor.account (a : Actor) : Account :=
  ⟨a.id, a.alive, a.energy, a.shield, a.shieldEnergy, a.inventory⟩

namespace Account

/-- What an event about the actor of an account does to it. -/
def book (t : Account) : Event → Account
  | .actorDamaged _ damage absorbed =>
    { t with energy := max 0 (t.energy - damage), shieldEnergy := t.shieldEnergy - absorbed }
  | .shieldDeflected _ => { t with shieldEnergy := t.shieldEnergy - min 10 t.shieldEnergy }
  | .shieldDepleted _ => { t with shield := .none }
  | .actorKilled _ _ => { t with alive := false }
  | .actorLanded _ _ _ true =>
    { t with inventory := { t.inventory with parachutes := t.inventory.parachutes - 1 } }
  | .launched _ _ (some kind) => { t with inventory := t.inventory.spend kind }
  | _ => t

/-- Books an event on an account, if it is about its actor. -/
def post (t : Account) (e : Event) : Account := if e.subject? = some t.id then t.book e else t

/-- Books events in order. -/
def postAll (t : Account) (es : List Event) : Account := es.foldl post t

theorem book_id (t : Account) (e : Event) : (t.book e).id = t.id := by
  cases e with
  | actorLanded id distance damage parachute => cases parachute <;> rfl
  | launched owner weapon guidance => cases guidance <;> rfl
  | _ => rfl

theorem post_id (t : Account) (e : Event) : (t.post e).id = t.id := by
  unfold post
  split
  · exact book_id t e
  · rfl

/-- Posting any number of events does not change the number of an account. -/
theorem postAll_id (t : Account) (es : List Event) : (t.postAll es).id = t.id := by
  induction es generalizing t with
  | nil => rfl
  | cons e es ih => exact (ih (t.post e)).trans (post_id t e)

theorem postAll_append (t : Account) (es fs : List Event) :
    t.postAll (es ++ fs) = (t.postAll es).postAll fs := List.foldl_append ..

/-- An account depends on the events about its actor only. -/
theorem postAll_about (t : Account) (es : List Event) : t.postAll (about t.id es) = t.postAll es := by
  induction es generalizing t with
  | nil => rfl
  | cons e es ih =>
    have hrest : (t.post e).postAll (about t.id es) = (t.post e).postAll es := by
      have := ih (t.post e)
      rwa [post_id] at this
    by_cases he : e.subject? = some t.id
    · rw [about, List.filter_cons_of_pos (by simpa using he)]
      exact hrest
    · rw [about, List.filter_cons_of_neg (by simpa using he)]
      have hskip : t.post e = t := if_neg he
      rw [hskip] at hrest
      exact hrest.trans (by rw [postAll, postAll, List.foldl_cons, hskip])

/-- Events about the actor of an account are booked one after another. -/
theorem postAll_of_forall {t : Account} {es : List Event} (h : ∀ e ∈ es, e.subject? = some t.id) :
    t.postAll es = es.foldl book t := by
  induction es generalizing t with
  | nil => rfl
  | cons e es ih =>
    obtain ⟨he, hes⟩ := List.forall_mem_cons.1 h
    have hpost : t.post e = t.book e := if_pos he
    show (t.post e).postAll es = es.foldl book (t.book e)
    rw [hpost]
    exact ih ((book_id t e).symm ▸ hes)

end Account

end Artillery
