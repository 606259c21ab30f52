import BlockStorage.Cloud.Class
import BlockStorage.Command.Report
import BlockStorage.Sandbox

/-!
The program: a command line run against a cloud in memory, which lives as long as the run, under
the built-in settings and those of the environment.
-/
namespace BlockStorage.Main

/-- A wait is given up after so many queries. -/
def patience : Nat := 1000000

/-- How the program is called. -/
def usage : String :=
  "usage: volumes [-h] [-v] cloud \x7blist,list-all,create,attach,detach,delete,name,volume-ids\x7d"

/-- The variables of the environment that settings look at. -/
def environment : IO Settings.Environment := do
  let names := Settings.environmentTexts ++ Settings.environmentNumbers
    ++ Settings.environmentSwitches
  let found ← names.mapM fun name => do return (← IO.getEnv name).map (name, ·)
  return found.filterMap id

/-- Shows how the run ended and gives the exit code. -/
def conclude : Outcome Ending → IO UInt32
  | .done (.usage code) => do
    (if code = 0 then IO.println usage else IO.eprintln usage)
    return code.toUInt32
  | .done (.reported r) => do
    IO.print r.output
    IO.eprint r.errors
    return r.exitCode.toUInt32
  | .failed f => do
    IO.eprintln f.literal
    return 1
  | .stalled => do
    IO.eprintln "no progress"
    return 1

end BlockStorage.Main

open BlockStorage in
def main (args : List String) : IO UInt32 := do
  let milliseconds ← IO.monoMsNow
  match Settings.load [] (← Main.environment) with
  | .error f => Main.conclude (.failed f)
  | .ok layer =>
    let settings := Settings.ofLayer layer
    match Cloud.knownIn settings.providers with
    | .error f => Main.conclude (.failed f)
    | .ok known =>
    let cloud : Sandbox := { clock := Float.ofNat milliseconds / 1000.0 }
    let ctx : Context Sandbox := ⟨Sandbox.backend, settings, known, Main.patience⟩
    Main.conclude ((CommandLine.runAll ctx args).run ⟨⟨cloud, [], 0⟩, none⟩).1
