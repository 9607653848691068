import Artillery.Config

/-! # Wind

Between shots the wind changes by up to five either way, and stays within four times the largest
wind of the start. -/

namespace Artillery.Wind

/-- The largest change. -/
def largestChange : Nat := 5

/-- The next wind; a constant wind draws nothing. -/
def next (wind : Float) (config : Config) : Draw (Except Fault Float) := do
  if config.changeWind then
    let n ← Draw.below (2 * largestChange + 1) (Nat.succ_pos _)
    let limit := config.maxWind * 4
    return Quantity.clamp (-limit) limit (wind + Quantity.ofInt ((n : Int) - largestChange))
  else return .ok wind

end Artillery.Wind
