import Artillery.Json.Writer
import Artillery.Shot

/-! # The command line program -/

open Artillery

/-- The bytes of a file, if it can be read. -/
def readFile? (path : String) : IO (Option ByteArray) := do
  try
    return some (← IO.FS.readBinFile path)
  catch _ => return none

def main (args : List String) : IO UInt32 := do
  let plan := Shot.plan args
  let content ← match plan with
    | .shoot { configPath := some path, .. } => readFile? path
    | _ => pure none
  let report := plan.report fun _ => content
  for line in report.lines do IO.eprintln line
  for message in report.logged do IO.eprintln ("ERROR " ++ message)
  if let some summary := report.output then IO.println summary.pretty
  return UInt32.ofNat report.exitCode
