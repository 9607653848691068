import Artillery.Projectile

/-! # The projectiles in flight

Projectiles are kept in a row without gaps, each under a handle that is never given out twice.  A
new one is put at the end; where one is taken out, the last one moves into the gap.  The order of
the row decides the order in which projectiles act. -/

namespace Artillery

/-- The projectiles in flight, in the order of the row, and the next handle. -/
structure Roster where
  entries : Array (Nat × Projectile) := #[]
  next : Nat := 0

namespace Roster

/-- The handles in the order of the row. -/
def handles (r : Roster) : List Nat := r.entries.toList.map Prod.fst

/-- The projectiles in the order of the row. -/
def projectiles (r : Roster) : List Projectile := r.entries.toList.map Prod.snd

/-- How many projectiles there are. -/
def size (r : Roster) : Nat := r.entries.size

/-- The projectile with a handle. -/
def find? (r : Roster) (handle : Nat) : Option Projectile :=
  (r.entries.find? (·.1 = handle)).map Prod.snd

/-- Whether any projectile has not ended. -/
def anyActive (r : Roster) : Bool := r.entries.any (·.2.active)

/-- Puts a projectile at the end of the row under a handle. -/
def put (r : Roster) (handle : Nat) (p : Projectile) : Roster :=
  { r with entries := r.entries.push (handle, p) }

/-- Adds a projectile under a fresh handle. -/
def add (r : Roster) (p : Projectile) : Nat × Roster :=
  (r.next, { r.put r.next p with next := r.next + 1 })

/-- Closes the gap at a place in the row with the last entry. -/
def closeGap (entries : Array (Nat × Projectile)) (i : Nat) : Array (Nat × Projectile) :=
  match entries.back? with
  | some last => (entries.setIfInBounds i last).pop
  | none => entries

/-- Takes out the projectile with a handle. -/
def take? (r : Roster) (handle : Nat) : Option (Projectile × Roster) := do
  let i ← r.entries.findIdx? (·.1 = handle)
  let (_, p) ← r.entries[i]?
  return (p, { r with entries := closeGap r.entries i })

/-- Removes the projectile with a handle. -/
def remove (r : Roster) (handle : Nat) : Roster :=
  match r.take? handle with
  | some (_, r) => r
  | none => r

/-- Changes the projectile with a handle where it is. -/
def update (r : Roster) (handle : Nat) (p : Projectile) : Roster :=
  { r with entries := r.entries.map fun e => if e.1 = handle then (handle, p) else e }

/-- Adds the projectiles that have been asked for. -/
def addAll (r : Roster) (specs : List ProjectileSpec) : Roster :=
  specs.foldl (fun r s => (r.add (.ofSpec s)).2) r

/-- The handles of the projectiles that have ended. -/
def ended (r : Roster) : List Nat :=
  (r.entries.toList.filter fun e => ¬e.2.active).map Prod.fst

/-- Removes all projectiles that have ended. -/
def sweep (r : Roster) : Roster := r.ended.foldl remove r

end Roster

end Artillery
