import VectorTable.CommandLine.Run
import VectorTable.Server.Script

/-!
# The executable

Runs a command line under the settings of the environment and of a file of assignments. What a command asks of its server is decided by the library; this executable has no connection to one, so every command finds its server unreachable.
-/

namespace VectorTable.CommandLine

def readEnvironment : IO (List (String × String)) := do
  let names := (Setting.General.fieldNames ++ Setting.Store.environmentNames).map Text.upper
  names.filterMapM fun name => do
    return (← IO.getEnv name).map fun value => (name, value)

/-- The lines of the file of assignments, none if there is no file. -/
def readAssignments : IO (List String) := do
  try return (← IO.FS.lines ".env").toList
  catch _ => return []

end VectorTable.CommandLine

open VectorTable CommandLine in
def main (line : List String) : IO UInt32 := do
  let environment ← readEnvironment
  let file := Setting.readEnvFile environment (← readAssignments)
  let plan := Plan.make ⟨[], environment, file⟩ line
  let outcome := plan.program.run Script.answer .unreachable .fresh
  for text in plan.printed outcome.history do
    IO.println text.write
  if let .error failure := outcome.result then
    IO.eprintln (failure.name ++ ": " ++ failure.message)
  return UInt32.ofNat (exitCode outcome.result)
