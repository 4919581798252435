import SplitTunnel.Routeplan

/-!
# The route planner as a program (`SPEC_FULL.md` §10.5)

Reads the files that the command line names and prints the plan. The exit status is 1 if there is
none and 2 if the command line asks for nothing.
-/

namespace SplitTunnel.Main

open Routeplan

/-- What reading the file `path` gives. -/
def read (path : String) : IO Reading := do
  match ← (IO.FS.Handle.mk path .read).toBaseIO with
  | .ok file =>
    match ← file.readBinToEnd.toBaseIO with
    | .ok bytes => return .content bytes.toList
    | .error _ => return .unreadable
  | .error (.noFileOrDirectory ..) => return .missing
  | .error _ => return .refused

/-- Reads the files that `o` names and prints the plan. -/
def run (o : Options) : IO UInt32 := do
  let configFile ←
    match o.config with
    | some path => read path
    | none => pure .missing
  let report := plan .agreeing o configFile (← read o.profile)
  for line in report.lines do
    IO.println line
  match report.failure with
  | none => return 0
  | some e =>
    IO.eprintln ("Error: " ++ e)
    return 1

end SplitTunnel.Main

/-- Prints the plan that `args` ask for. -/
def main (args : List String) : IO UInt32 := do
  match SplitTunnel.Routeplan.Options.ofArgs args with
  | .ok o => SplitTunnel.Main.run o
  | .error .help =>
    IO.print SplitTunnel.Routeplan.help
    return 0
  | .error e =>
    IO.eprintln ("error: " ++ e.message)
    return 2
