import FlashSale.Config.Arguments
import FlashSale.Config.CommandLine

/-!
# Checking a configuration

The program reads the settings of the service from its command line and its
environment and prints the arguments that say the same in full. A command line that
is refused is answered with the reason; being asked for help is no failure.
-/

namespace FlashSale

/-- The values of the variables that stand for settings. -/
def readEnvironment : IO (List (String × String)) :=
  Setting.all.filterMapM fun s => do
    return (← IO.getEnv s.variableName).map fun value => (s.variableName, value)

end FlashSale

open FlashSale in
def main (args : List String) : IO UInt32 := do
  let environment ← readEnvironment
  match Config.parse args fun name => environment.lookup name with
  | .ok c =>
    c.arguments.forM fun line => IO.println line
    return 0
  | .error .help =>
    Setting.all.forM fun s => IO.println s.usage
    return 0
  | .error refusal =>
    refusal.lines.forM fun line => IO.eprintln line
    return 2
