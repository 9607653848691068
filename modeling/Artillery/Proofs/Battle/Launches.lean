import Artillery.Proofs.Battle.Guidance
import Artillery.Proofs.Ledger.Balance

/-!
# Launches

A launch is all or nothing.  Refused, it leaves the battle as it is; otherwise a shot joins the row,
one item is used up for it, and one event tells of it.  From launch to launch an inventory is used up
in a fixed order.

## Key results

- `launch?_eq_none`, `launch?_cases`: when a launch is refused, and what it does otherwise
- `takeGuidance_yields`, `takeGuidance_order`: what a shot takes out of an inventory
- `Call.perform_fires`, `performAll_fires`: the shots of an actor along a run
- `launch_all_or_nothing`: the whole of it
-/

namespace Artillery

open Event

/-! ## Inventories -/

namespace Inventory

/-- An inventory gives away the first of its guidance items, horizontal before vertical before heat,
or none if it has none; all others stay in it. -/
structure Yields (i : Inventory) (kind : Option GuidanceKind) (i' : Inventory) : Prop where
  horizontal : kind = some .horizontal ↔ 0 < i.horizontalGuidance
  vertical : kind = some .vertical ↔ i.horizontalGuidance = 0 ∧ 0 < i.verticalGuidance
  heat : kind = some .heat ↔
    i.horizontalGuidance = 0 ∧ i.verticalGuidance = 0 ∧ 0 < i.heatGuidance
  rest : ∀ k, i'.stock k + (if kind = some k then 1 else 0) = i.stock k
  parachutes : i'.parachutes = i.parachutes

/-- The guidance items of an inventory in the order in which they are used up. -/
def guidanceOrder (i : Inventory) : List GuidanceKind :=
  List.replicate i.horizontalGuidance .horizontal ++ List.replicate i.verticalGuidance .vertical ++
    List.replicate i.heatGuidance .heat

/-- The order names each kind of guidance as often as it is in stock. -/
theorem count_guidanceOrder (i : Inventory) (k : GuidanceKind) :
    i.guidanceOrder.count k = i.stock k := by
  cases k <;> simp [guidanceOrder, stock, List.count_replicate]

/-- What a launch takes is the first of the order, and the rest of it remains. -/
theorem takeGuidance_yields (i : Inventory) : i.Yields i.takeGuidance.1 i.takeGuidance.2 := by
  obtain ⟨heat, horizontal, vertical, parachutes⟩ := i
  -- Which items there are decides what is taken.
  cases horizontal <;> cases vertical <;> cases heat <;>
    constructor <;> simp [takeGuidance, nextGuidance, spend, stock] <;>
    rintro (_ | _ | _) <;> simp

/-- A shot takes the first of the items. -/
theorem takeGuidance_order (i : Inventory) :
    i.takeGuidance.1 = i.guidanceOrder.head? ∧
      i.takeGuidance.2.guidanceOrder = i.guidanceOrder.tail := by
  obtain ⟨heat, horizontal, vertical, parachutes⟩ := i
  cases horizontal <;> cases vertical <;> cases heat <;>
    simp [takeGuidance, nextGuidance, spend, stock, guidanceOrder, List.replicate_succ]

end Inventory

/-- The first items of a list are no more than there are in it. -/
theorem count_firstItems (order : List GuidanceKind) (n : Nat) (k : GuidanceKind) :
    ((List.range n).map fun i => order[i]?).count (some k) ≤ order.count k := by
  induction n generalizing order with
  | zero => exact Nat.zero_le _
  | succ n ih =>
    rw [List.range_succ_eq_map, List.map_cons, List.map_map]
    cases order with
    | nil => simp [List.count_eq_zero]
    | cons first rest =>
      have hrest := ih rest
      -- Beyond the first item the order is read like the rest of it.
      have hshift : ((fun i => (first :: rest)[i]?) ∘ Nat.succ) = fun i => rest[i]? := by
        funext i
        exact List.getElem?_cons_succ
      rw [hshift, List.count_cons, List.count_cons]
      simp only [List.getElem?_cons_zero, beq_iff_eq, Option.some.injEq]
      omega

/-! ## The shots of an actor -/

namespace Event

/-- The kind of guidance of a shot, if an event tells of one by an actor. -/
def shot? (owner : ActorId) : Event → Option (Option GuidanceKind)
  | launched id _ kind => if id = owner then some kind else none
  | _ => none

/-- The kinds of guidance of the shots of an actor, in order. -/
def shotsOf (owner : ActorId) (es : List Event) : List (Option GuidanceKind) :=
  es.filterMap (shot? owner)

theorem shotsOf_append (owner : ActorId) (es fs : List Event) :
    shotsOf owner (es ++ fs) = shotsOf owner es ++ shotsOf owner fs := List.filterMap_append

theorem shotsOf_eq_nil {owner : ActorId} {es : List Event} (h : es.countP isShot = 0) :
    shotsOf owner es = [] := by
  refine List.filterMap_eq_nil_iff.2 fun e he => ?_
  have hnone := List.countP_eq_zero.1 h e he
  cases e with
  | launched => exact absurd rfl hnone
  | _ => rfl

end Event

namespace Account

/-- Without shots no guidance item is used up, and nobody comes back to life. -/
theorem postAll_unfired {t : Account} {es : List Event} (h : es.countP isShot = 0) :
    (t.postAll es).inventory.guidanceOrder = t.inventory.guidanceOrder ∧
      ((t.postAll es).alive = true → t.alive = true) := by
  induction es generalizing t with
  | nil => exact ⟨rfl, fun h => h⟩
  | cons e es ih =>
    rw [List.countP_cons] at h
    obtain ⟨horder, halive⟩ := ih (t := t.post e) (by omega)
    -- Only a launch takes guidance, and no event brings anybody back to life.
    have hpost : (t.post e).inventory.guidanceOrder = t.inventory.guidanceOrder ∧
        ((t.post e).alive = true → t.alive = true) := by
      unfold post
      split
      · cases e with
        | launched => simp [isShot] at h
        | actorLanded _ _ _ parachute => cases parachute <;> exact ⟨rfl, fun h => h⟩
        | actorKilled => exact ⟨rfl, fun hdead => nomatch hdead⟩
        | _ => exact ⟨rfl, fun h => h⟩
      · exact ⟨rfl, fun h => h⟩
    exact ⟨horder.trans hpost.1, hpost.2 ∘ halive⟩

end Account

namespace Battle

/-- The actor that fires a shot for a number: the first living one that has it. -/
def shooter? (b : Battle) (owner : ActorId) : Option Actor :=
  b.arena.actors.find? fun a => a.id = owner ∧ a.alive = true

/-! ## A launch -/

section Launch

variable {b b' : Battle} {owner : ActorId} {degrees power : Float} {weapon : WeaponId} {handle : Nat}

/-- A launch is refused without a living actor or a weapon that can be fired, and in no other
case. -/
theorem launch?_eq_none :
    b.launch? owner degrees power weapon = none ↔
      (∀ a ∈ b.arena.actors, a.id = owner → a.alive = false) ∨
        ∃ w, b.arena.arsenal.get? weapon = some w ∧ w.category ≠ .weapon := by
  -- An unknown weapon is fired as well; it is the category of a known one that is refused.
  have hunfireable : fireable? b.arena.arsenal weapon = none ↔
      ∃ w, b.arena.arsenal.get? weapon = some w ∧ w.category ≠ .weapon := by
    unfold fireable?
    cases b.arena.arsenal.get? weapon <;> simp [Weapon.isFireable]
  rw [← hunfireable]
  simp only [launch?, Option.bind_eq_bind]
  cases hi : b.arena.actors.findIdx? fun a => a.id = owner ∧ a.alive with
  | none =>
    have hnobody : ∀ a ∈ b.arena.actors, a.id = owner → a.alive = false := by
      simpa using List.findIdx?_eq_none_iff.1 hi
    exact iff_of_true rfl (.inl hnobody)
  | some i =>
    obtain ⟨hlt, hfound, _⟩ := List.findIdx?_eq_some_iff_getElem.1 hi
    have hsomeone : ¬∀ a ∈ b.arena.actors, a.id = owner → a.alive = false := by
      intro hall
      obtain ⟨hid, halive⟩ := of_decide_eq_true hfound
      rw [hall _ (List.getElem_mem hlt) hid] at halive
      exact Bool.false_ne_true halive
    rw [Option.bind_some, List.getElem?_eq_getElem hlt, Option.bind_some]
    cases fireable? b.arena.arsenal weapon with
    | none => exact iff_of_true rfl (.inr rfl)
    | some behavior =>
      exact iff_of_false (Option.some_ne_none _)
        (not_or.2 ⟨hsomeone, Option.some_ne_none behavior⟩)

/-- What a launch does that is not refused. -/
theorem launch?_cases (h : b.launch? owner degrees power weapon = some (handle, b')) :
    ∃ before shooter after p,
      b.arena.actors = before ++ shooter :: after ∧
      (∀ a ∈ before, a.id = owner → a.alive = false) ∧
      shooter.id = owner ∧ shooter.alive = true ∧
      p.active = true ∧ p.age = 0 ∧ p.owner = owner ∧ p.weapon = weapon ∧
      p.guidance = Option.map Guidance.armed shooter.inventory.takeGuidance.1 ∧
      handle = b.roster.next ∧
      b' = { b with
        arena := { b.arena with
          actors := before ++ { shooter with inventory := shooter.inventory.takeGuidance.2 } :: after
          events := b.arena.events.push
            (.launched owner weapon shooter.inventory.takeGuidance.1) }
        roster := {
          entries := b.roster.entries.push (b.roster.next, p)
          next := b.roster.next + 1 } } := by
  simp only [launch?, Option.bind_eq_bind, Option.bind_eq_some_iff] at h
  obtain ⟨i, hi, shooter, hs, behavior, _, h⟩ := h
  obtain ⟨rfl, rfl⟩ := Prod.mk.inj (Option.some.inj h)
  obtain ⟨hlt, hfound, hfirst⟩ := List.findIdx?_eq_some_iff_getElem.1 hi
  rw [List.getElem?_eq_getElem hlt] at hs
  obtain rfl := Option.some.inj hs
  obtain ⟨hid, halive⟩ := of_decide_eq_true hfound
  refine ⟨b.arena.actors.take i, b.arena.actors[i], b.arena.actors.drop (i + 1),
    { Projectile.ofSpec (shot b.arena.actors[i] degrees power weapon behavior) with
      guidance := b.arena.actors[i].inventory.takeGuidance.1.map .armed },
    ?_, ?_, hid, halive, rfl, rfl, hid, rfl, rfl, rfl, ?_⟩
  · rw [← List.drop_eq_getElem_cons hlt, List.take_append_drop]
  · intro a ha hown
    obtain ⟨j, hj, rfl⟩ := List.mem_take_iff_getElem.1 ha
    have hnot := hfirst j (by omega)
    simpa [hown] using hnot
  · -- To set the entry of the shooter is to write it between those before and after it.
    have hset : b.arena.actors.set i { b.arena.actors[i] with
        inventory := b.arena.actors[i].inventory.takeGuidance.2 } =
        b.arena.actors.take i ++ { b.arena.actors[i] with
          inventory := b.arena.actors[i].inventory.takeGuidance.2 } ::
            b.arena.actors.drop (i + 1) := by
      rw [List.set_eq_take_append_cons_drop, if_pos hlt]
    rw [hset]
    simp [Arena.tell, Roster.add, Roster.put]

/-- The shooter is the first living actor with its number. -/
theorem shooter?_of_append {before after : List Actor} {shooter : Actor}
    (h : b.arena.actors = before ++ shooter :: after)
    (first : ∀ a ∈ before, a.id = owner → a.alive = false) (hid : shooter.id = owner)
    (halive : shooter.alive = true) : b.shooter? owner = some shooter := by
  refine List.find?_eq_some_iff_append.2 ⟨by simp [hid, halive], before, after, h, fun a ha => ?_⟩
  have hpassed : ¬(a.id = owner ∧ a.alive = true) := fun ⟨hown, hlives⟩ => by
    rw [first a ha hown] at hlives
    exact nomatch hlives
  rw [decide_eq_false hpassed]
  rfl

end Launch

/-! ## Runs -/

/-- Whatever actor fires the shots for a number, its guidance items are used up in an order. -/
def Fires (b : Battle) (owner : ActorId) (order : List GuidanceKind) : Prop :=
  ∀ a, b.shooter? owner = some a → a.inventory.guidanceOrder = order

/-- A living actor of a table with distinct numbers has been the living one with its number before, as
long as nobody fires a shot. -/
theorem find?_of_tracks {as as' : List Actor} {told : List Event} {owner : ActorId} {a' : Actor}
    (tracks : List.Forall₂ (Tracks · told ·) as as') (nodup : (ids as).Nodup)
    (unfired : told.countP isShot = 0)
    (h : as'.find? (fun a => a.id = owner ∧ a.alive = true) = some a') :
    ∃ a, as.find? (fun a => a.id = owner ∧ a.alive = true) = some a ∧
      a'.inventory.guidanceOrder = a.inventory.guidanceOrder := by
  -- Table by table: the first actors correspond, and if it is not them it is one of the others.
  induction tracks with
  | nil => exact nomatch h
  | @cons a c as cs ha _ ih =>
    obtain ⟨hfresh, hnodup⟩ := List.nodup_cons.1 nodup
    have hid : c.id = a.id := ha.id_eq
    obtain ⟨horder, halive⟩ := Account.postAll_unfired (t := a.account) unfired
    rw [← ha.account] at horder halive
    rw [List.find?_cons] at h
    split at h
    · rename_i hc
      obtain rfl := Option.some.inj h
      obtain ⟨hown, hlives⟩ := of_decide_eq_true hc
      refine ⟨a, ?_, horder⟩
      rw [List.find?_cons_of_pos]
      exact decide_eq_true ⟨hid.symm.trans hown, halive hlives⟩
    · obtain ⟨d, hd, hsame⟩ := ih hnodup h
      refine ⟨d, ?_, hsame⟩
      rw [List.find?_cons_of_neg, hd]
      -- The first actor is another one, even if it has just died.
      intro hfirst
      have hlater : d.id = owner ∧ d.alive = true := by simpa using List.find?_some hd
      have hown : a.id = d.id := (of_decide_eq_true hfirst).1.trans hlater.1.symm
      exact hfresh (List.mem_map.2 ⟨d, List.mem_of_find?_eq_some hd, hown.symm⟩)

namespace Call

variable {b b' : Battle} {owner : ActorId} {handed : List Event} {order : List GuidanceKind}

/-- A call that may lie between the shots of an actor: another launch, or in a table with distinct
numbers anything that leaves the table to the battle. -/
def Spares (b : Battle) (c : Call) : Prop :=
  c.isLaunch = true ∨ b.Tidy ∧ (ids b.arena.actors).Nodup ∧ c.LeavesTable

/-- A launch takes the first item of the actor that fires the shot, and nothing of the others. -/
theorem launch_fires {shooter : ActorId} {degrees power : Float} {weapon : WeaponId} {handle : Nat}
    (h : b.launch? shooter degrees power weapon = some (handle, b')) (hb : b.Fires owner order) :
    ∃ told, b'.arena.events.toList = b.arena.events.toList ++ told ∧
      (shotsOf owner told = [] ∧ b'.Fires owner order ∨
        shotsOf owner told = [order.head?] ∧ b'.Fires owner order.tail) := by
  obtain ⟨before, a, after, p, hactors, hfirst, hid, halive, _, _, _, _, _, _, hb'⟩ :=
    launch?_cases h
  have hactors' : b'.arena.actors =
      before ++ { a with inventory := a.inventory.takeGuidance.2 } :: after := by rw [hb']
  obtain ⟨hhead, htail⟩ := a.inventory.takeGuidance_order
  refine ⟨[.launched shooter weapon a.inventory.takeGuidance.1], by simp [hb'], ?_⟩
  by_cases hown : shooter = owner
  · right
    subst hown
    have horder := hb a (shooter?_of_append hactors hfirst hid halive)
    rw [← horder, ← hhead, ← htail]
    refine ⟨by simp [shotsOf, shot?], fun c hc => ?_⟩
    rw [shooter?_of_append hactors' hfirst hid halive] at hc
    rw [← Option.some.inj hc]
  · left
    refine ⟨by simp [shotsOf, shot?, hown], fun c hc => hb c ?_⟩
    -- The actor with the other number is passed over, before the launch and after it.
    have hother : a.id ≠ owner := fun ha => hown (hid.symm.trans ha)
    unfold shooter? at hc ⊢
    rw [hactors'] at hc
    rw [hactors]
    simpa [List.find?_append, List.find?_cons, hother] using hc

/-- The shots of an actor in one call. -/
theorem perform_fires {c : Call} (hc : c.Spares b) (h : c.perform b = .ok (handed, b'))
    (hb : b.Fires owner order) :
    ∃ told, handed ++ b'.arena.events.toList = b.arena.events.toList ++ told ∧
      (shotsOf owner told = [] ∧ b'.Fires owner order ∨
        shotsOf owner told = [order.head?] ∧ b'.Fires owner order.tail) := by
  by_cases hl : c.isLaunch = true
  · cases c with
    | launch shooter degrees power weapon =>
      simp only [perform] at h
      split at h <;> obtain ⟨rfl, rfl⟩ := Prod.mk.inj (Except.ok.inj h)
      · rename_i hlaunch
        exact launch_fires hlaunch hb
      · exact ⟨[], (List.append_nil _).symm, .inl ⟨rfl, hb⟩⟩
    | _ => exact absurd hl Bool.false_ne_true
  · -- The ledger and the unfolding of the call tell of the same events.
    obtain ⟨tidy, nodup, leaves⟩ := hc.resolve_left hl
    obtain ⟨told, hrecords⟩ := perform_records nodup leaves h
    obtain ⟨told', hunfolds⟩ := perform_unfolds h
    obtain ⟨hevents, _, hshots⟩ := hunfolds.books tidy
    obtain rfl : told' = told := List.append_cancel_left (hevents.symm.trans hrecords.events)
    have hnone : c.shots b = [] := by
      cases c with
      | launch => exact absurd rfl hl
      | _ => rfl
    rw [hnone] at hshots
    refine ⟨told', hevents, .inl ⟨shotsOf_eq_nil hshots, fun a' ha' => ?_⟩⟩
    obtain ⟨a, ha, hsame⟩ := find?_of_tracks hrecords.booked.tracks nodup hshots ha'
    exact hsame.trans (hb a ha)

/-- All calls of a run may lie between the shots of an actor. -/
def SparesAll (b : Battle) (cs : List Call) : Prop :=
  (∀ c ∈ cs, c.isLaunch = true) ∨
    b.Tidy ∧ (ids b.arena.actors).Nodup ∧ ∀ c ∈ cs, c.LeavesTable

/-- The first of the calls spares the inventories. -/
theorem SparesAll.head {c : Call} {cs : List Call} (h : SparesAll b (c :: cs)) : c.Spares b := by
  obtain h | ⟨tidy, nodup, h⟩ := h
  · exact .inl (h c List.mem_cons_self)
  · exact .inr ⟨tidy, nodup, h c List.mem_cons_self⟩

/-- The other calls spare the inventories that the first one leaves. -/
theorem SparesAll.tail {c : Call} {cs : List Call} (h : SparesAll b (c :: cs))
    (hp : c.perform b = .ok (handed, b')) : SparesAll b' cs := by
  obtain h | ⟨tidy, nodup, h⟩ := h
  · exact .inl fun d hd => h d (List.mem_cons_of_mem c hd)
  · obtain ⟨told, hrecords⟩ := perform_records nodup (h c List.mem_cons_self) hp
    exact .inr ⟨perform_tidy tidy hp, hrecords.nodup nodup,
      fun d hd => h d (List.mem_cons_of_mem c hd)⟩

/-- The shots of an actor along a run are guided by its items in their order, and when these are used
up by none. -/
theorem performAll_fires {cs : List Call} (hcs : SparesAll b cs)
    (h : performAll cs b = .ok (handed, b')) (hb : b.Fires owner order) :
    ∃ told, handed ++ b'.arena.events.toList = b.arena.events.toList ++ told ∧
      shotsOf owner told = (List.range (shotsOf owner told).length).map fun n => order[n]? := by
  induction cs generalizing b handed order with
  | nil =>
    obtain ⟨rfl, rfl⟩ := Prod.mk.inj (Except.ok.inj h)
    exact ⟨[], (List.append_nil _).symm, rfl⟩
  | cons c cs ih =>
    obtain ⟨⟨first, b₁⟩, h₁, h⟩ := Fault.bind_ok h
    obtain ⟨⟨later, b₂⟩, h₂, h⟩ := Fault.bind_ok h
    obtain ⟨rfl, rfl⟩ := Prod.mk.inj (Except.ok.inj h)
    obtain ⟨told, htold, hshot⟩ := perform_fires hcs.head h₁ hb
    -- The first call has fired the head of the order or nothing; the others go on from there.
    have rest {order' : List GuidanceKind} (hb' : b₁.Fires owner order') :
        ∃ after, first ++ later ++ b₂.arena.events.toList =
            b.arena.events.toList ++ (told ++ after) ∧
          shotsOf owner after =
            (List.range (shotsOf owner after).length).map fun n => order'[n]? := by
      obtain ⟨after, hafter, hkinds⟩ := ih (hcs.tail h₁) h₂ hb'
      refine ⟨after, ?_, hkinds⟩
      rw [List.append_assoc, hafter, ← List.append_assoc, htold, List.append_assoc]
    obtain ⟨hnone, hb'⟩ | ⟨hone, hb'⟩ := hshot
    · obtain ⟨after, hafter, hkinds⟩ := rest hb'
      refine ⟨told ++ after, hafter, ?_⟩
      rw [shotsOf_append, hnone, List.nil_append]
      exact hkinds
    · obtain ⟨after, hafter, hkinds⟩ := rest hb'
      refine ⟨told ++ after, hafter, ?_⟩
      rw [shotsOf_append, hone, List.singleton_append, List.length_cons, List.range_succ_eq_map,
        List.map_cons, List.map_map, ← List.head?_eq_getElem?]
      refine congrArg (order.head? :: ·) (hkinds.trans ?_)
      exact List.map_congr_left fun n _ => List.getElem?_tail

end Call

/-- A launch is all or nothing.  It is refused without a living actor with the number, and for a weapon
of the catalogue that cannot be fired; then nothing is changed.  Otherwise the shot joins the row, fresh
and active and armed with the first guidance item of the first living actor with the number, which
uses up the item; one event tells of it; and nothing else is changed.  The shots of an actor are
therefore guided by its items in the order of their kinds, and no kind more often than it has such
items, whatever happens between the shots in a table with distinct numbers, and in any table if
nothing but launches does. -/
theorem launch_all_or_nothing (b : Battle) (owner : ActorId) (degrees power : Float)
    (weapon : WeaponId) :
    (b.launch? owner degrees power weapon = none ↔
      (∀ a ∈ b.arena.actors, a.id = owner → a.alive = false) ∨
        ∃ w, b.arena.arsenal.get? weapon = some w ∧ w.category ≠ .weapon) ∧
    (b.launch? owner degrees power weapon = none →
      Call.perform b (.launch owner degrees power weapon) = .ok ([], b)) ∧
    (∀ handle b', b.launch? owner degrees power weapon = some (handle, b') →
      Call.perform b (.launch owner degrees power weapon) = .ok ([], b') ∧
      ∃ before shooter after kind inventory p,
        b.arena.actors = before ++ shooter :: after ∧
        (∀ a ∈ before, a.id = owner → a.alive = false) ∧
        shooter.id = owner ∧ shooter.alive = true ∧
        shooter.inventory.Yields kind inventory ∧
        p.active = true ∧ p.age = 0 ∧ p.owner = owner ∧ p.weapon = weapon ∧
        p.guidance = Option.map Guidance.armed kind ∧
        handle = b.roster.next ∧
        b' = { b with
          arena := { b.arena with
            actors := before ++ { shooter with inventory := inventory } :: after
            events := b.arena.events.push (.launched owner weapon kind) }
          roster := {
            entries := b.roster.entries.push (handle, p)
            next := b.roster.next + 1 } }) ∧
    ∀ cs handed b' shooter, Call.SparesAll b cs → Call.performAll cs b = .ok (handed, b') →
      b.shooter? owner = some shooter →
      ∃ told, handed ++ b'.arena.events.toList = b.arena.events.toList ++ told ∧
        shotsOf owner told = (List.range (shotsOf owner told).length).map
          (fun n => shooter.inventory.guidanceOrder[n]?) ∧
        ∀ k, (shotsOf owner told).count (some k) ≤ shooter.inventory.stock k := by
  refine ⟨launch?_eq_none, fun hnone => ?_, fun handle b' hlaunch => ⟨?_, ?_⟩, ?_⟩
  · simp only [Call.perform, hnone]
  · simp only [Call.perform, hlaunch]
  · obtain ⟨before, shooter, after, p, hactors, hfirst, hid, halive, hactive, hage, howner, hweapon,
      hguidance, rfl, hb'⟩ := launch?_cases hlaunch
    exact ⟨before, shooter, after, _, _, p, hactors, hfirst, hid, halive,
      shooter.inventory.takeGuidance_yields, hactive, hage, howner, hweapon, hguidance, rfl, hb'⟩
  · intro cs handed b' shooter hcs hrun hshooter
    -- The shooter is the one whose inventory is counted along the calls.
    have hfires : b.Fires owner shooter.inventory.guidanceOrder := fun a ha => by
      rw [hshooter] at ha
      rw [← Option.some.inj ha]
    obtain ⟨told, htold, hkinds⟩ := Call.performAll_fires hcs hrun hfires
    refine ⟨told, htold, hkinds, fun k => ?_⟩
    rw [hkinds, ← shooter.inventory.count_guidanceOrder]
    exact count_firstItems _ _ k

/-- A tank on a hill with two items of guidance for heat and a horizontal one. -/
def magazine : Battle :=
  pit.addActor { Actor.fresh 0 20 40 with
    inventory := { heatGuidance := 2, horizontalGuidance := 1 } }

/-- It fires four times, the wind changes in between, and somebody who is not there is asked to. -/
def salvo : List Call :=
  [.launch 0 45 300 2, .changeWind, .launch 0 60 300 0, .launch 5 60 300 0, .launch 0 90 200 4,
    .launch 0 20 100 99]

/-- The request to somebody who is not there is refused, and changes nothing.  The shots are guided
horizontally, twice for heat, and not at all, and a first one takes the horizontal item. -/
theorem launch_all_or_nothing_magazine :
    (magazine.launch? 5 60 300 0 = none ∧
      Call.perform magazine (.launch 5 60 300 0) = .ok ([], magazine)) ∧
    (∃ handle b' before shooter after kind inventory p,
      magazine.launch? 0 45 300 2 = some (handle, b') ∧
      magazine.arena.actors = before ++ shooter :: after ∧
      shooter.inventory.Yields kind inventory ∧ kind = some .horizontal ∧
      (handle, p) ∈ b'.roster.entries.toList ∧ p.guidance = some (.armed .horizontal)) ∧
    Call.SparesAll magazine salvo ∧
      ∃ handed b' shooter told, Call.performAll salvo magazine = .ok (handed, b') ∧
        magazine.shooter? 0 = some shooter ∧ handed ++ b'.arena.events.toList = told ∧
        shotsOf 0 told = [some .horizontal, some .heat, some .heat, none] ∧
        (shotsOf 0 told).count (some .heat) ≤ shooter.inventory.stock .heat := by
  refine ⟨?_, ?_, ?_⟩
  · obtain ⟨hrefused, hnothing, _⟩ := launch_all_or_nothing magazine 5 60 300 0
    have hnone := hrefused.2 (.inl (by decide +kernel))
    exact ⟨hnone, hnothing hnone⟩
  · obtain ⟨_, _, hfires, _⟩ := launch_all_or_nothing magazine 0 45 300 2
    obtain ⟨⟨handle, b'⟩, hlaunch⟩ : ∃ r, magazine.launch? 0 45 300 2 = some r :=
      Option.isSome_iff_exists.1 (by decide +kernel)
    obtain ⟨_, before, shooter, after, kind, inventory, p, hactors, _, _, _, hyields, _, _, _, _,
      hguidance, _, hb'⟩ := hfires handle b' hlaunch
    have htold : (magazine.launch? 0 45 300 2).map (fun r => r.2.arena.events.toList) =
        some [.launched 0 2 (some .horizontal)] := by decide +kernel
    rw [hlaunch, hb'] at htold
    obtain rfl : kind = some .horizontal := by
      have hevents : [Event.launched 0 2 kind] = [.launched 0 2 (some .horizontal)] :=
        Option.some.inj htold
      simpa using hevents
    refine ⟨handle, b', before, shooter, after, _, inventory, p, hlaunch, hactors, hyields, rfl, ?_,
      hguidance⟩
    rw [hb', Array.toList_push]
    exact List.mem_append_right _ (List.mem_singleton_self _)
  · have tidy : magazine.Tidy := ⟨⟨List.nodup_nil, List.forall_mem_nil _⟩, rfl⟩
    have spares : Call.SparesAll magazine salvo := by
      refine .inr ⟨tidy, by decide +kernel, ?_⟩
      simp [salvo, Call.LeavesTable]
    have hshots : (Call.performAll salvo magazine).toOption.map
        (fun r => shotsOf 0 (r.1 ++ r.2.arena.events.toList)) =
          some [some .horizontal, some .heat, some .heat, none] := by decide +kernel
    obtain ⟨⟨handed, b'⟩, hrun⟩ : ∃ r, Call.performAll salvo magazine = .ok r :=
      Fault.exists_of_isOk (by decide +kernel)
    obtain ⟨shooter, hshooter⟩ : ∃ a, magazine.shooter? 0 = some a :=
      Option.isSome_iff_exists.1 (by decide +kernel)
    obtain ⟨_, _, _, hfires⟩ := launch_all_or_nothing magazine 0 45 300 2
    obtain ⟨told, htold, _, hcount⟩ := hfires salvo handed b' shooter spares hrun hshooter
    rw [hrun] at hshots
    -- Nothing has been told before.
    obtain rfl : handed ++ b'.arena.events.toList = told := htold.trans (List.nil_append told)
    exact ⟨spares, handed, b', shooter, _, hrun, hshooter, rfl, Option.some.inj hshots,
      hcount .heat⟩

end Battle

end Artillery
