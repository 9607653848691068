import Artillery.Actor
import Artillery.Arena
import Artillery.Battle
import Artillery.Behavior.Bounce
import Artillery.Behavior.Dispatch
import Artillery.Behavior.Mirv
import Artillery.Behavior.Particle
import Artillery.Behavior.Roller
import Artillery.Behavior.Scatter
import Artillery.Blast
import Artillery.Config
import Artillery.Decimal.Fixed
import Artillery.Decimal.Reader
import Artillery.Decimal.Shortest
import Artillery.Event
import Artillery.Explosion
import Artillery.Falling
import Artillery.Fault
import Artillery.Json.Basic
import Artillery.Json.Lexer
import Artillery.Json.Number
import Artillery.Json.Reader
import Artillery.Json.Writer
import Artillery.Land
import Artillery.Main
import Artillery.Motion
import Artillery.Number.Dyadic
import Artillery.Number.Quantity
import Artillery.Placement
import Artillery.Plane
import Artillery.Projectile
import Artillery.Proofs.Raster.Bands
import Artillery.Proofs.Raster.GroundRow
import Artillery.Random.Draw
import Artillery.Random.Keystream
import Artillery.Raster.Bands
import Artillery.Raster.Basic
import Artillery.Raster.Earthwork
import Artillery.Raster.Grid
import Artillery.Raster.Silhouette
import Artillery.Roster
import Artillery.Shot
import Artillery.Targeting
import Artillery.Wall
import Artillery.Weapon
import Artillery.Wind
import Artillery.Wire.Actor
import Artillery.Wire.Basic
import Artillery.Wire.Config
import Artillery.Wire.Event
import Artillery.Wire.Names
import Artillery.Wire.Projectile
import Artillery.Wire.Report
import Artillery.Wire.Weapon
import Artillery.Proofs.Raster.Index
import Artillery.Proofs.Raster.History
import Artillery.Proofs.Arena.Moves
import Artillery.Proofs.Battle.Conservation
import Artillery.Proofs.Battle.Calls
import Artillery.Proofs.Ledger.Account
import Artillery.Proofs.Ledger.Balance
import Artillery.Proofs.Battle.Rest
import Artillery.Proofs.Raster.Frames
import Artillery.Proofs.Raster.Tanks
import Artillery.Proofs.Arena.Terrain
import Artillery.Proofs.Arena.Progress
import Artillery.Proofs.Battle.Terrain
import Artillery.Proofs.Battle.Contacts
import Artillery.Proofs.Battle.Progress
import Artillery.Proofs.Ledger.Shield
import Artillery.Proofs.Ledger.Tracks
import Artillery.Proofs.Ledger.Depletion
import Artillery.Proofs.Explosion
import Artillery.Proofs.Battle.Explosions
import Artillery.Proofs.Draw
import Artillery.Proofs.Arena.Broods
import Artillery.Proofs.Battle.Lineage
import Artillery.Proofs.Arena.Steady
import Artillery.Proofs.Battle.Replay
import Artillery.Proofs.Number.Magnitude
import Artillery.Proofs.Room
import Artillery.Proofs.Arena.Faultless
import Artillery.Proofs.Battle.Faultless
import Artillery.Proofs.Battle.Descent
import Artillery.Proofs.Battle.Footing
import Artillery.Proofs.Ledger.Falls
import Artillery.Proofs.Battle.Range
import Artillery.Proofs.Number.Rounding
import Artillery.Proofs.Number.Value
import Artillery.Proofs.Land
import Artillery.Proofs.Raster.Footprint
import Artillery.Proofs.Raster.Compact
import Artillery.Proofs.Placement.Columns
import Artillery.Proofs.Placement.Ground
import Artillery.Proofs.Raster.Overlay
import Artillery.Proofs.Blast
import Artillery.Proofs.Arena.Budgets
import Artillery.Proofs.Battle.Careers
import Artillery.Proofs.Battle.Budgets
import Artillery.Proofs.Mirv
import Artillery.Proofs.Battle.Splits
import Artillery.Proofs.Arena.Guidance
import Artillery.Proofs.Battle.Unfolding
import Artillery.Proofs.Battle.Guidance
import Artillery.Proofs.Battle.Launches
import Artillery.Proofs.Number.Order
import Artillery.Proofs.Number.Remainder
import Artillery.Proofs.Wall
import Artillery.Proofs.Roller
import Artillery.Proofs.Raster.Plateau
import Artillery.Proofs.Raster.Profile
import Artillery.Proofs.Relief
import Artillery.Proofs.Json.Numeral
import Artillery.Proofs.Json.Tokens
import Artillery.Proofs.Json.RoundTrip
import Artillery.Proofs.Wire.Faithful
import Artillery.Proofs.Wire.RoundTrip
import Artillery.Proofs.Trail
import Artillery.Proofs.Battle.Trails
