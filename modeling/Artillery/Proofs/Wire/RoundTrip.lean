import Artillery.Proofs.Wire.Faithful
import Artillery.Wire.Event
import Artillery.Wire.Report
import Artillery.Wire.Weapon

/-! # Round trips on the wire

Events, actors, damage reports, animations and arsenals are read from their text as they were
written, provided that their numbers have the width they are read with.  Only the change of wind is
left out, because it carries a float.

Every wire form is shown to be faithful once, from the forms of its parts.  An alternative without
data is written as its name and one with data as an object under its name; events and earthworks
carry their tag next to their fields, so that an earthwork inside an event lies behind two tags.

## Key results

- `Event.Fits.faithful`: events, with what was struck and what was dug inside them
- `Actor.Fits.faithful`: actors, falling or not
- `DamageReport.Fits.faithful`, `ExplosionQueue.Fits.faithful`, `Arsenal.Fits.faithful`
- `Wire.round_trips`: all of them are read back from their text
-/

namespace Artillery

open Wire

/-! ## Names -/

/-- Shields are written as their names. -/
theorem ShieldKind.faithful (k : ShieldKind) : Faithful toJson ofJson? k :=
  faithful_choice false (by cases k <;> rfl)

/-- Kinds of guidance are written as their names. -/
theorem GuidanceKind.faithful (k : GuidanceKind) (tagged : Bool) :
    Faithful toJson (decode? tagged) k :=
  faithful_choice tagged (by cases k <;> rfl)

/-- Behaviors are written as their names. -/
theorem Behavior.faithful (b : Behavior) : Faithful toJson ofJson? b :=
  faithful_choice false (by cases b <;> rfl)

/-- Categories are written as their names. -/
theorem Category.faithful (c : Category) : Faithful toJson ofJson? c :=
  faithful_choice false (by cases c <;> rfl)

/-! ## Events -/

namespace Hit

/-- Whether the number of the tank has its width. -/
def Fits : Hit → Prop
  | tank actor => IsNat64 actor
  | terrain => True
  | wall => True

/-- What was hit is written as a name, or as a name with a number. -/
theorem Fits.faithful {hit : Hit} (h : hit.Fits) (tagged : Bool) :
    Faithful toJson (decode? tagged) hit := by
  cases hit with
  | terrain => exact ⟨.string _, rfl⟩
  | wall => exact ⟨.string _, rfl⟩
  | tank actor =>
    unfold Fits at h
    exact ⟨.object (by simp [h]), by simp [toJson, decode?, variant?, h]⟩

/-- It is nested no deeper than that. -/
theorem depth_toJson (hit : Hit) : hit.toJson.depth ≤ 1 := by
  cases hit <;> simp [toJson, Json.depth, Json.depthOfMembers, Json.nat]

end Hit

namespace Earthwork

/-- Whether all sizes have their width. -/
def Fits : Earthwork → Prop
  | none => True
  | dirtAdd radius => IsInt32 radius
  | dirtTower height => IsInt32 height
  | tunnel depth _ => IsInt32 depth
  | disrupt radius => IsInt32 radius

/-- An earthwork is an object without any others in it. -/
theorem depth_toJson (work : Earthwork) : work.toJson.depth = 1 := by
  cases work <;> simp [toJson, Json.depth, Json.depthOfMembers]

/-- Reading an earthwork comes down to reading its data. -/
theorem faithful_of {work : Earthwork} {name : String} {members : List (String × Json)}
    (hform : work.toJson = .object (("op", .string name) :: members))
    (hplain : ∀ m ∈ members, m.2.Plain) (htag : ∀ m ∈ members, m.1 ≠ "op")
    (hback : ofData? name (.object members) = some work) :
    Faithful toJson decodeTagged? work :=
  .tagged (fun h => by rw [decodeTagged?, h]; rfl) hform hplain (by rw [depth_toJson]; decide) htag
    hback

/-- An earthwork is written as an object with its kind. -/
theorem Fits.faithful {work : Earthwork} (h : work.Fits) : Faithful toJson decodeTagged? work := by
  cases work with
  | none => exact faithful_of rfl (by simp) (by simp) rfl
  | _ =>
    -- One size each, and a tunnel has its direction besides.
    unfold Fits at h
    exact faithful_of rfl (by simp [h]) (by simp) (by simp [ofData?, h])

end Earthwork

namespace Event

/-- Whether all numbers have their width. -/
def Fits : Event → Prop
  | launched owner weapon _ => IsNat64 owner ∧ IsNat64 weapon
  | impact x y hit => IsInt32 x ∧ IsInt32 y ∧ hit.Fits
  | explosion x y radius attacker => IsInt32 x ∧ IsInt32 y ∧ IsInt32 radius ∧ IsNat64 attacker
  | terrainChanged x y work => IsInt32 x ∧ IsInt32 y ∧ work.Fits
  | spawned weapon count => IsNat64 weapon ∧ IsNat64 count
  | guidanceLocked owner _ => IsNat64 owner
  | shieldDeflected actor => IsNat64 actor
  | shieldDepleted actor => IsNat64 actor
  | actorDamaged actor damage absorbed => IsNat64 actor ∧ IsInt32 damage ∧ IsInt32 absorbed
  | actorKilled actor attacker => IsNat64 actor ∧ IsNat64 attacker
  | actorLanded actor distance damage _ => IsNat64 actor ∧ IsInt32 distance ∧ IsInt32 damage
  | windChanged _ => True

/-- No event comes near the depth at which tagged alternatives are refused. -/
theorem depth_toJson (e : Event) : e.toJson.depth ≤ 2 := by
  cases e with
  | launched owner weapon guidance =>
    cases guidance <;>
      simp [toJson, Json.depth, Json.depthOfMembers, Json.nat, Json.option, GuidanceKind.toJson]
  | impact x y hit => simp [toJson, Json.depth, Json.depthOfMembers, hit.depth_toJson]
  | terrainChanged x y work => simp [toJson, Json.depth, Json.depthOfMembers, work.depth_toJson]
  | _ => simp [toJson, Json.depth, Json.depthOfMembers, Json.nat, GuidanceKind.toJson]

/-- Reading an event comes down to reading its data. -/
theorem faithful_of {e : Event} {name : String} {members : List (String × Json)}
    (hform : e.toJson = .object (("type", .string name) :: members))
    (hplain : ∀ m ∈ members, m.2.Plain) (htag : ∀ m ∈ members, m.1 ≠ "type")
    (hback : ofData? name (.object members) = some e) : Faithful toJson ofJson? e :=
  .tagged (fun h => by rw [ofJson?, h]; rfl) hform hplain
    (Nat.le_trans e.depth_toJson (by decide)) htag hback

/-- An event is written as an object with its kind, and the wind is the only float in one. -/
theorem Fits.faithful {e : Event} (h : e.Fits) (hcalm : ∀ wind, e ≠ windChanged wind) :
    Faithful toJson ofJson? e := by
  unfold Fits at h
  cases e with
  | launched owner weapon guidance =>
    -- A shot without guidance has null there, and no kind is written so.
    have hguidance := Faithful.option (o := guidance) (by simp [GuidanceKind.toJson])
      fun k _ => k.faithful true
    exact faithful_of rfl (by simp [h, hguidance.plain]) (by simp)
      (by simp [ofData?, h, hguidance.back])
  | impact x y hit =>
    have hhit := h.2.2.faithful true
    exact faithful_of rfl (by simp [h, hhit.plain]) (by simp) (by simp [ofData?, h, hhit.back])
  | terrainChanged x y work =>
    have hwork := h.2.2.faithful
    exact faithful_of rfl (by simp [h, hwork.plain]) (by simp) (by simp [ofData?, h, hwork.back])
  | guidanceLocked owner kind =>
    have hkind := kind.faithful true
    exact faithful_of rfl (by simp [h, hkind.plain]) (by simp) (by simp [ofData?, h, hkind.back])
  | windChanged wind => exact absurd rfl (hcalm wind)
  -- All others have only numbers and truth values for their data.
  | _ => exact faithful_of rfl (by simp [h]) (by simp) (by simp [ofData?, h])

end Event

/-- The alternative that was struck lies inside the event it belongs to, each in its own form. -/
example : Json.render (Event.impact 3 (-40) (.tank 2)).toJson =
    "\x7b\"type\":\"Impact\",\"x\":3,\"y\":-40,\"hit\":\x7b\"Tank\":2\x7d\x7d" := by
  decide

/-! ## Actors -/

/-- Whether all counts have their width. -/
def Inventory.Fits (i : Inventory) : Prop :=
  IsNat32 i.heatGuidance ∧ IsNat32 i.horizontalGuidance ∧ IsNat32 i.verticalGuidance ∧
    IsNat32 i.parachutes

/-- An inventory is written as its counts. -/
theorem Inventory.Fits.faithful {i : Inventory} (h : i.Fits) : Faithful toJson ofJson? i := by
  unfold Fits at h
  exact ⟨.object (by simp [h]), by simp [ofJson?, toJson, fields, h]⟩

/-- Whether the row has its width. -/
def Fall.Fits (f : Fall) : Prop := IsInt32 f.startY

/-- A fall is written as the row where it began. -/
theorem Fall.Fits.faithful {f : Fall} (h : f.Fits) : Faithful toJson ofJson? f := by
  unfold Fits at h
  exact ⟨.object (by simp [h]), by simp [ofJson?, toJson, h]⟩

namespace Actor

/-- Whether all numbers have their width. -/
structure Fits (a : Actor) : Prop where
  id : IsNat64 a.id
  x : IsInt32 a.x
  y : IsInt32 a.y
  energy : IsInt32 a.energy
  shieldEnergy : IsInt32 a.shieldEnergy
  inventory : a.inventory.Fits
  falling : ∀ f ∈ a.falling, f.Fits

/-- An actor is written with all that it has. -/
theorem Fits.faithful {a : Actor} (h : a.Fits) : Faithful toJson ofJson? a := by
  have hshield := a.shield.faithful
  have hinventory := h.inventory.faithful
  have hfalling := Faithful.option (by simp [Fall.toJson]) fun f hf => (h.falling f hf).faithful
  constructor
  · exact .object (by simp [h.id, h.x, h.y, h.energy, hshield.plain, h.shieldEnergy,
      hinventory.plain, hfalling.plain])
  · simp [ofJson?, toJson, fields, h.id, h.x, h.y, h.energy, hshield.back, h.shieldEnergy,
      hinventory.back, hfalling.back]

end Actor

/-! ## Damage reports -/

/-- Whether all numbers have their width. -/
def ActorHit.Fits (h : ActorHit) : Prop :=
  IsNat64 h.actor ∧ IsInt32 h.damage ∧ IsInt32 h.absorbed

/-- A hit is written as its four numbers. -/
theorem ActorHit.Fits.faithful {hit : ActorHit} (h : hit.Fits) : Faithful toJson ofJson? hit := by
  unfold Fits at h
  exact ⟨.object (by simp [h]), by simp [ofJson?, toJson, h]⟩

/-- Whether all numbers have their width. -/
structure DamageReport.Fits (r : DamageReport) : Prop where
  hits : ∀ hit ∈ r.hits, hit.Fits
  deaths : ∀ actor ∈ r.deaths, IsNat64 actor

/-- A report is written as its hits and its deaths. -/
theorem DamageReport.Fits.faithful {r : DamageReport} (h : r.Fits) :
    Faithful toJson ofJson? r := by
  have hhits := Faithful.list fun hit hmem => (h.hits hit hmem).faithful
  have hdeaths := Faithful.list fun actor hmem => faithful_nat64 (h.deaths actor hmem)
  exact ⟨.object (by simp [hhits.plain, hdeaths.plain]),
    by simp [ofJson?, toJson, hhits.back, hdeaths.back]⟩

/-! ## Animations -/

/-- Whether all numbers have their width. -/
structure Animation.Fits (a : Animation) : Prop where
  column : IsInt32 a.center.x
  row : IsInt32 a.center.y
  radius : IsInt32 a.radius
  frame : IsNat32 a.frame
  totalFrames : IsNat32 a.totalFrames

/-- A pixel is written as a list of two numbers. -/
theorem Wire.faithful_pixel {p : Pixel} (hx : IsInt32 p.x) (hy : IsInt32 p.y) :
    Faithful ofPixel pixel? p :=
  ⟨.array (by simp [hx, hy]), by simp [ofPixel, pixel?, hx, hy]⟩

/-- An animation is written with the frames that it has shown. -/
theorem Animation.Fits.faithful {a : Animation} (h : a.Fits) : Faithful toJson ofJson? a := by
  have hcenter := faithful_pixel h.column h.row
  constructor
  · exact .object (by simp [members, hcenter.plain, h.radius, h.frame, h.totalFrames])
  · simp [ofJson?, toJson, members, hcenter.back, h.radius, h.frame, h.totalFrames]

/-- Whether all numbers have their width. -/
structure ExplosionQueue.Fits (q : ExplosionQueue) : Prop where
  active : ∀ a ∈ q.active, a.Fits
  pending : ∀ a ∈ q.pending, a.Fits

/-- A queue is written as what plays and what waits. -/
theorem ExplosionQueue.Fits.faithful {q : ExplosionQueue} (h : q.Fits) :
    Faithful toJson ofJson? q := by
  have hactive := Faithful.option (by simp [Animation.toJson]) fun a ha => (h.active a ha).faithful
  have hpending := Faithful.list fun a ha => (h.pending a ha).faithful
  exact ⟨.object (by simp [hactive.plain, hpending.plain]),
    by simp [ofJson?, toJson, hactive.back, hpending.back]⟩

/-! ## Arsenals -/

/-- Whether the parameter has its width; the name can be any text. -/
def Weapon.Fits (w : Weapon) : Prop := IsInt32 w.param

/-- A weapon is written by its name and what it is. -/
theorem Weapon.Fits.faithful {w : Weapon} (h : w.Fits) : Faithful toJson ofJson? w := by
  unfold Fits at h
  have hbehavior := w.behavior.faithful
  have hcategory := w.category.faithful
  constructor
  · exact .object (by simp [members, hbehavior.plain, hcategory.plain, h])
  · simp [ofJson?, toJson, fields, members, hbehavior.back, hcategory.back, h]

/-- Whether the parameters of all weapons have their width. -/
def Arsenal.Fits (a : Arsenal) : Prop := ∀ w ∈ a.weapons, w.Fits

/-- An arsenal is written as the list of its weapons. -/
theorem Arsenal.Fits.faithful {a : Arsenal} (h : a.Fits) : Faithful toJson ofJson? a := by
  have hweapons := Faithful.list fun w hw => (h w hw).faithful
  exact ⟨.object (by simp [hweapons.plain]), by simp [ofJson?, toJson, hweapons.back]⟩

/-! ## Round trips -/

/-- Events without a float, actors, damage reports, animations and arsenals are read from their
text as they were written. -/
theorem Wire.round_trips :
    (∀ e : Event, e.Fits → (∀ wind, e ≠ .windChanged wind) →
      (Json.parse? (Json.render e.toJson)).bind Event.ofJson? = some e) ∧
    (∀ a : Actor, a.Fits → (Json.parse? (Json.render a.toJson)).bind Actor.ofJson? = some a) ∧
    (∀ r : DamageReport, r.Fits →
      (Json.parse? (Json.render r.toJson)).bind DamageReport.ofJson? = some r) ∧
    (∀ q : ExplosionQueue, q.Fits →
      (Json.parse? (Json.render q.toJson)).bind ExplosionQueue.ofJson? = some q) ∧
    (∀ a : Arsenal, a.Fits → (Json.parse? (Json.render a.toJson)).bind Arsenal.ofJson? = some a) :=
  ⟨fun _ hfits hcalm => (hfits.faithful hcalm).parsed, fun _ h => h.faithful.parsed,
    fun _ h => h.faithful.parsed, fun _ h => h.faithful.parsed, fun _ h => h.faithful.parsed⟩

/-- A falling actor, a missing animation before a waiting one, earthworks inside an event and a
weapon whose name has quotes, a backslash, control characters and characters of all lengths. -/
theorem Wire.round_trips_nested :
    let dug : Event := .terrainChanged (-3) 40 (.tunnel 12 true)
    let actor : Actor :=
      { id := 0xffffffffffffffff, x := -0x80000000, y := 0x7fffffff, alive := true, energy := -1,
        shield := .flicker, shieldEnergy := 0, inventory := { parachutes := 0xffffffff },
        falling := some ⟨17⟩ }
    let report : DamageReport := { hits := [⟨3, 50, -2, true⟩], deaths := [3, 0] }
    let queue : ExplosionQueue := { pending := [⟨⟨5, -6⟩, 20, 1, 10⟩] }
    let arsenal : Arsenal := ⟨[⟨"\"Böse\\\n\x01\x1f\" ☄ 🚀", .dirtTower, -30, .accessory⟩]⟩
    (dug.Fits ∧ (∀ wind, dug ≠ .windChanged wind) ∧
      (Json.parse? (Json.render dug.toJson)).bind Event.ofJson? = some dug) ∧
    (actor.Fits ∧ (Json.parse? (Json.render actor.toJson)).bind Actor.ofJson? = some actor) ∧
    (report.Fits ∧
      (Json.parse? (Json.render report.toJson)).bind DamageReport.ofJson? = some report) ∧
    (queue.Fits ∧
      (Json.parse? (Json.render queue.toJson)).bind ExplosionQueue.ofJson? = some queue) ∧
    (arsenal.Fits ∧
      (Json.parse? (Json.render arsenal.toJson)).bind Arsenal.ofJson? = some arsenal) := by
  intro dug actor report queue arsenal
  obtain ⟨hevents, hactors, hreports, hqueues, harsenals⟩ := Wire.round_trips
  -- That the values fit is checked number by number.
  have hdug : dug.Fits := ⟨by decide, by decide, (by decide : IsInt32 12)⟩
  have hcalm : ∀ wind, dug ≠ .windChanged wind := by simp [dug]
  have hfall : (⟨17⟩ : Fall).Fits := (by decide : IsInt32 17)
  have hactor : actor.Fits :=
    { id := by decide, x := by decide, y := by decide, energy := by decide
      shieldEnergy := by decide, inventory := ⟨by decide, by decide, by decide, by decide⟩
      falling := by simpa [actor] using hfall }
  have hhit : (⟨3, 50, -2, true⟩ : ActorHit).Fits := ⟨by decide, by decide, by decide⟩
  have hreport : report.Fits := ⟨by simpa [report] using hhit, by decide⟩
  have hwaiting : (⟨⟨5, -6⟩, 20, 1, 10⟩ : Animation).Fits :=
    ⟨by decide, by decide, by decide, by decide, by decide⟩
  have hqueue : queue.Fits := ⟨by simp [queue], by simpa [queue] using hwaiting⟩
  have hweapon : IsInt32 (-30) := by decide
  have harsenal : arsenal.Fits := by simpa [arsenal, Arsenal.Fits, Weapon.Fits] using hweapon
  exact ⟨⟨hdug, hcalm, hevents _ hdug hcalm⟩, ⟨hactor, hactors _ hactor⟩,
    ⟨hreport, hreports _ hreport⟩, ⟨hqueue, hqueues _ hqueue⟩, ⟨harsenal, harsenals _ harsenal⟩⟩

end Artillery
