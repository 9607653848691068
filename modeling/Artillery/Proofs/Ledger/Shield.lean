import Artillery.Proofs.Ledger.Account

/-!
# Shields in accounts

A shield is worn, and it is charged while it has energy left.  A hit, a deflection or a fall changes
both together, and tells of it, except for one case: a hit that takes exactly what is left of the
energy goes unnoticed, and an empty shield stays on.

## Key results

- `ShieldTold.append`: what is told of a shield adds up
- `ShieldTold.of_spares`, `ShieldTold.drained`, `ShieldTold.broken`, `ShieldTold.deflected`: what the
  events of the battle tell of a shield
-/

namespace Artillery

open Event

namespace Account

/-- Whether there is a shield. -/
def isWorn (t : Account) : Bool := t.shield ≠ .none

/-- Whether a shield has energy left. -/
def isCharged (t : Account) : Bool := 0 < t.shieldEnergy

/-- An event tells of a hit that takes exactly what is left of a shield, and nothing else. -/
def emptiedBy (t : Account) : Event → Bool
  | .actorDamaged id damage absorbed =>
    id = t.id ∧ damage = 0 ∧ absorbed = t.shieldEnergy ∧ 0 < t.shieldEnergy
  | _ => false

/-- How many of some events tell of such a hit. -/
def exactHits : Account → List Event → Nat
  | _, [] => 0
  | t, e :: es => (t.emptiedBy e).toNat + (t.post e).exactHits es

/-- The exact hits of the later events are counted with what the earlier ones leave. -/
theorem exactHits_append (t : Account) (es fs : List Event) :
    t.exactHits (es ++ fs) = t.exactHits es + (t.postAll es).exactHits fs := by
  induction es generalizing t with
  | nil => exact (Nat.zero_add _).symm
  | cons e es ih =>
    calc t.exactHits (e :: es ++ fs)
        = (t.emptiedBy e).toNat + (t.post e).exactHits (es ++ fs) := rfl
      _ = (t.emptiedBy e).toNat +
          ((t.post e).exactHits es + ((t.post e).postAll es).exactHits fs) := by rw [ih]
      _ = _ := (Nat.add_assoc ..).symm

/-- Exact hits are told of the actor whose shield they take. -/
theorem exactHits_about (t : Account) (es : List Event) :
    t.exactHits (about t.id es) = t.exactHits es := by
  induction es generalizing t with
  | nil => rfl
  | cons e es ih =>
    -- An event about somebody else is neither booked nor counted.
    have hrest := ih (t.post e)
    rw [post_id] at hrest
    by_cases he : e.subject? = some t.id
    · rw [about, List.filter_cons_of_pos (by simpa using he)]
      exact congrArg ((t.emptiedBy e).toNat + ·) hrest
    · rw [about, List.filter_cons_of_neg (by simpa using he)]
      have hskip : t.post e = t := if_neg he
      have hother : t.emptiedBy e = false := by
        cases e <;> simp_all [emptiedBy, subject?]
      rw [hskip] at hrest
      rw [exactHits, hother, hskip]
      exact hrest.trans (Nat.zero_add _).symm

/-- What some events tell of a shield: it never owes energy, its end is told when it is taken off,
and energy runs out with its end or in an exact hit. -/
structure ShieldTold (t : Account) (es : List Event) : Prop where
  nonneg : 0 ≤ t.shieldEnergy → 0 ≤ (t.postAll es).shieldEnergy
  worn : t.isWorn.toNat = (t.postAll es).isWorn.toNat + depletions t.id es
  charged : t.isCharged.toNat =
    (t.postAll es).isCharged.toNat + depletions t.id es + t.exactHits es

end Account

/-- An event that leaves the shield of its actor alone. -/
def Event.SparesShield : Event → Prop
  | actorDamaged _ _ absorbed => absorbed = 0
  | shieldDeflected _ | shieldDepleted _ => False
  | _ => True

namespace Account.ShieldTold

variable {t : Account} {es fs : List Event}

theorem nil (t : Account) : t.ShieldTold [] := ⟨fun h => h, rfl, rfl⟩

/-- What is told in two lists changes the shield one after the other. -/
theorem append (h₁ : t.ShieldTold es) (h₂ : (t.postAll es).ShieldTold fs) :
    t.ShieldTold (es ++ fs) := by
  -- The account keeps its number, so that both lists tell of the same actor.
  have hworn := h₂.worn
  have hcharged := h₂.charged
  rw [postAll_id] at hworn hcharged
  constructor
  · intro h
    rw [postAll_append]
    exact h₂.nonneg (h₁.nonneg h)
  · rw [postAll_append, depletions_append, h₁.worn, hworn]
    omega
  · rw [postAll_append, depletions_append, exactHits_append, h₁.charged, hcharged]
    omega

/-- What is told of others does not matter. -/
theorem congr (h : t.ShieldTold es) (he : about t.id fs = about t.id es) : t.ShieldTold fs := by
  have hpost : t.postAll fs = t.postAll es := by
    rw [← postAll_about t fs, he, postAll_about]
  have hdep : depletions t.id fs = depletions t.id es := by
    rw [← depletions_about t.id fs, he, depletions_about]
  have hexact : t.exactHits fs = t.exactHits es := by
    rw [← exactHits_about t fs, he, exactHits_about]
  exact ⟨hpost ▸ h.nonneg, hpost ▸ hdep ▸ h.worn, hpost ▸ hdep ▸ hexact ▸ h.charged⟩

private theorem spared {e : Event} (h : e.SparesShield) : t.ShieldTold [e] := by
  have hpost : (t.post e).shield = t.shield ∧ (t.post e).shieldEnergy = t.shieldEnergy := by
    unfold post
    split
    · cases e with
      | actorDamaged id damage absorbed =>
        obtain rfl : absorbed = 0 := h
        exact ⟨rfl, Int.sub_zero _⟩
      | actorLanded id distance damage parachute => cases parachute <;> exact ⟨rfl, rfl⟩
      | launched owner weapon guidance => cases guidance <;> exact ⟨rfl, rfl⟩
      | shieldDeflected | shieldDepleted => exact h.elim
      | _ => exact ⟨rfl, rfl⟩
    · exact ⟨rfl, rfl⟩
  -- No such event is a depletion, and none takes what the shield has left.
  have hdep : depletions t.id [e] = 0 := by
    cases e with
    | shieldDepleted => exact h.elim
    | _ => rfl
  have hexact : t.emptiedBy e = false := by
    cases e with
    | actorDamaged id damage absorbed =>
      obtain rfl : absorbed = 0 := h
      simp only [emptiedBy, decide_eq_false_iff_not]
      omega
    | _ => rfl
  constructor
  · exact fun hn => hpost.2.symm ▸ hn
  · show _ = (t.post e).isWorn.toNat + _
    rw [hdep, isWorn, isWorn, hpost.1]
    rfl
  · show _ = (t.post e).isCharged.toNat + _ + ((t.emptiedBy e).toNat + 0)
    rw [hdep, hexact, isCharged, isCharged, hpost.2]
    rfl

/-- Events that spare the shield leave it as it is. -/
theorem of_spares (h : ∀ e ∈ es, e.SparesShield) : t.ShieldTold es := by
  induction es generalizing t with
  | nil => exact .nil t
  | cons e es ih =>
    obtain ⟨he, hes⟩ := List.forall_mem_cons.1 h
    exact append (spared he) (ih hes)

/-- A shield that takes a whole hit loses its energy unnoticed if the hit is exact. -/
theorem drained {absorbed : Int} (live : 0 < t.shieldEnergy) (le : absorbed ≤ t.shieldEnergy) :
    t.ShieldTold [.actorDamaged t.id 0 absorbed] := by
  have hpost : t.postAll [.actorDamaged t.id 0 absorbed] =
      { t with energy := max 0 (t.energy - 0), shieldEnergy := t.shieldEnergy - absorbed } :=
    if_pos rfl
  have hexact : t.exactHits [.actorDamaged t.id 0 absorbed] =
      (decide (absorbed = t.shieldEnergy)).toNat := by
    simp [exactHits, emptiedBy, live]
  constructor <;> rw [hpost]
  · intro _
    show 0 ≤ t.shieldEnergy - absorbed
    omega
  · rfl
  · -- The charge is gone exactly if the hit was exact.
    rw [hexact]
    show (decide (0 < t.shieldEnergy)).toNat =
      (decide (0 < t.shieldEnergy - absorbed)).toNat + 0 + _
    rw [decide_eq_true live]
    by_cases he : absorbed = t.shieldEnergy
    · rw [decide_eq_true he, decide_eq_false (by omega)]
      rfl
    · rw [decide_eq_false he, decide_eq_true (by omega)]
      rfl

/-- A hit that goes through a shield takes it off. -/
theorem broken {damage : Int} (shield : t.shield ≠ .none) (live : 0 < t.shieldEnergy)
    (through : 0 < damage) :
    t.ShieldTold [.actorDamaged t.id damage t.shieldEnergy, .shieldDepleted t.id] := by
  have hpost : t.postAll [.actorDamaged t.id damage t.shieldEnergy, .shieldDepleted t.id] =
      { t with energy := max 0 (t.energy - damage), shieldEnergy := 0, shield := .none } := by
    simp [postAll, post, subject?, book]
  have hdep : depletions t.id [.actorDamaged t.id damage t.shieldEnergy, .shieldDepleted t.id] =
      1 := by
    simp [depletions, depletes]
  -- Some damage came through, so that the hit did not take exactly what was left.
  have hexact : t.exactHits [.actorDamaged t.id damage t.shieldEnergy, .shieldDepleted t.id] =
      0 := by
    have hne : damage ≠ 0 := by omega
    simp [exactHits, emptiedBy, hne]
  constructor
  · rw [hpost]
    exact fun _ => Int.le_refl 0
  · rw [hpost, hdep, isWorn, decide_eq_true shield]
    rfl
  · rw [hpost, hdep, hexact, isCharged, decide_eq_true live]
    rfl

/-- A shield that throws a projectile back is taken off with its last energy. -/
theorem deflected {depleted : Bool} (shield : t.shield ≠ .none) (live : 0 < t.shieldEnergy)
    (last : depleted = true ↔ t.shieldEnergy - min 10 t.shieldEnergy ≤ 0) :
    t.ShieldTold (.shieldDeflected t.id :: if depleted then [.shieldDepleted t.id] else []) := by
  have hpost : t.postAll (.shieldDeflected t.id ::
        if depleted then [.shieldDepleted t.id] else []) =
      { t with
        shieldEnergy := t.shieldEnergy - min 10 t.shieldEnergy
        shield := if depleted then .none else t.shield } := by
    cases depleted <;> simp [postAll, post, subject?, book]
  have hdep : depletions t.id (.shieldDeflected t.id ::
      if depleted then [.shieldDepleted t.id] else []) = depleted.toNat := by
    cases depleted <;> simp [depletions, depletes]
  have hexact : t.exactHits (.shieldDeflected t.id ::
      if depleted then [.shieldDepleted t.id] else []) = 0 := by
    cases depleted <;> rfl
  constructor <;> rw [hpost]
  · intro _
    show 0 ≤ t.shieldEnergy - min 10 t.shieldEnergy
    omega
  · rw [hdep]
    show (decide (t.shield ≠ .none)).toNat =
      (decide ((if depleted then ShieldKind.none else t.shield) ≠ .none)).toNat + _
    -- The shield is off exactly if the deflection has used up its energy.
    cases depleted with
    | true => rw [decide_eq_true shield]; rfl
    | false => exact (Nat.add_zero _).symm
  · rw [hdep, hexact]
    show (decide (0 < t.shieldEnergy)).toNat =
      (decide (0 < t.shieldEnergy - min 10 t.shieldEnergy)).toNat + _ + 0
    rw [decide_eq_true live]
    cases depleted with
    | true => rw [decide_eq_false (by have := last.1 rfl; omega)]; rfl
    | false =>
      have hleft : 0 < t.shieldEnergy - min 10 t.shieldEnergy :=
        Int.not_le.1 fun hc => Bool.false_ne_true (last.2 hc)
      rw [decide_eq_true hleft]
      rfl

end Account.ShieldTold

end Artillery
