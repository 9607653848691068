import Artillery.Battle
import Artillery.Decimal.Reader
import Artillery.Wire.Actor
import Artillery.Wire.Config
import Artillery.Wire.Event

/-! # One shot from the command line

Fires a single shot and follows it until the battle has settled.  The arguments are flags with one
value each; a later flag overrides an earlier one. -/

namespace Artillery.Shot

/-- What the arguments ask for. -/
structure Options where
  configPath : Option String := none
  weapon : String := "Missile"
  angle : Float := 60
  power : Float := 400
  actors : Nat := 2
  maxTicks : Nat := 5000
  seed : Option UInt64 := none

/-- Why arguments cannot be used. -/
inductive OptionError where
  | missingValue (flag : String)
  | notANumber (flag value : String)
  | unknown (flag : String)
  deriving DecidableEq, Repr

/-- What is wrong with the arguments, in words. -/
def OptionError.message : OptionError → String
  | missingValue flag => flag ++ " needs a value"
  | notANumber flag value => flag ++ ": '" ++ value ++ "' is not a valid number"
  | unknown flag => "unknown option " ++ flag

/-- The value of a flag that takes a number. -/
def number {α : Type} (read : String → Option α) (flag value : String) : Except OptionError α :=
  match read value with
  | some n => .ok n
  | none => .error (.notANumber flag value)

/-- A natural number of 64 bits. -/
def natural? : String → Option Nat := Decimal.natural? 0xffffffffffffffff

/-- The options after one more flag. -/
def Options.set (o : Options) (flag value : String) : Except OptionError Options :=
  match flag with
  | "--config" => .ok { o with configPath := some value }
  | "--weapon" => .ok { o with weapon := value }
  | "--angle" => do return { o with angle := ← number Decimal.float? flag value }
  | "--power" => do return { o with power := ← number Decimal.float? flag value }
  | "--actors" => do return { o with actors := ← number natural? flag value }
  | "--max-ticks" => do return { o with maxTicks := ← number natural? flag value }
  | "--seed" => do return { o with seed := some (UInt64.ofNat (← number natural? flag value)) }
  | _ => .error (.unknown flag)

/-- The options after some more arguments. -/
def Options.parse (o : Options) : List String → Except OptionError Options
  | [] => .ok o
  | [flag] => .error (.missingValue flag)
  | flag :: value :: rest => do (← o.set flag value).parse rest

/-- What the program is to do. -/
inductive Plan where
  | help
  | refuse (e : OptionError)
  | shoot (o : Options)

/-- What some arguments ask for; a request for help goes before everything else. -/
def plan (args : List String) : Plan :=
  -- It does not matter where the request stands, not even as the value of a flag.
  if args.contains "--help" ∨ args.contains "-h" then .help
  else match Options.parse {} args with
    | .ok o => .shoot o
    | .error e => .refuse e

/-- How to use the program, line by line. -/
def usage : List String := [
  "shot-lab: fire one shot through the SCORCH simulation",
  "",
  "Options:",
  "",
  "--config <path>    JSON config overrides (optional)",
  "--weapon <name>    Weapon name from the catalogue (default: Missile)",
  "--angle <deg>      Barrel angle, 0 = right, 90 = up (default: 60)",
  "--power <n>        Launch power 0..1000 (default: 400)",
  "--actors <n>       Tanks to place (default: 2)",
  "--max-ticks <n>    Frame limit (default: 5000)",
  "--seed <n>         Override the config seed",
  "",
  "The summary is printed to stdout as JSON; logs go to stderr.",
  ""]

/-- Why a shot could not be fired. -/
inductive Failure where
  | badConfig
  | invalidConfig
  | noSuchWeapon
  | launchRefused
  /-- The battle has broken down. -/
  | fault (f : Fault)

/-- The failure in words, for the log. -/
def Failure.message : Failure → String
  | badConfig => "bad config"
  | invalidConfig => "invalid config"
  | noSuchWeapon => "no such weapon"
  | launchRefused => "launch refused"
  | fault _ => "simulation fault"

/-- What has come of a shot. -/
structure Summary where
  weapon : String
  course : Battle.Course
  actors : List Actor

/-- The wire form. -/
def Summary.toJson (s : Summary) : Json := .object [
  ("weapon", .string s.weapon),
  ("ticks", .nat s.course.ticks),
  ("settled", .bool s.course.settled),
  ("events", .list Event.toJson s.course.allEvents),
  ("actors", .list Actor.toJson s.actors)]

/-- The configuration of a shot: what the file at the given path holds, or the usual settings. -/
def config (o : Options) (file : String → Option ByteArray) : Except Failure Config := do
  let c ← match o.configPath with
    | some path => (Config.load (file path)).mapError fun _ => .badConfig
    | none => .ok {}
  return { c with seed := o.seed.getD c.seed }

/-- A battle for a configuration. -/
def begin (c : Config) : Except Failure Battle :=
  (Battle.begin c).mapError fun
    | .config _ => .invalidConfig
    | .fault f => .fault f

/-- Fires the shot and follows it. -/
def fire (o : Options) (file : String → Option ByteArray) : Except Failure Summary := do
  let b ← begin (← config o file)
  let b ← (b.placeActors (max 1 o.actors)).mapError .fault
  let some weapon := b.arena.arsenal.find? o.weapon | throw .noSuchWeapon
  let some (_, b) := b.launch? 0 o.angle o.power weapon | throw .launchRefused
  let (course, b) ← (b.runToRest o.maxTicks {}).mapError .fault
  return ⟨o.weapon, course, b.arena.actors⟩

/-- What the program has to say in the end. -/
structure Report where
  exitCode : Nat
  /-- What is printed. -/
  output : Option Json
  /-- The lines for the user, on the error stream. -/
  lines : List String
  /-- The failures for the log. -/
  logged : List String

/-- The report of a plan, with the files that it may read. -/
def Plan.report (p : Plan) (file : String → Option ByteArray) : Report :=
  match p with
  | .help => ⟨0, none, usage, []⟩
  | .refuse e => ⟨1, none, ("Error: " ++ e.message) :: usage, []⟩
  | .shoot o => match fire o file with
    | .ok summary => ⟨0, some summary.toJson, [], []⟩
    | .error failure => ⟨1, none, [], [failure.message]⟩

end Artillery.Shot
