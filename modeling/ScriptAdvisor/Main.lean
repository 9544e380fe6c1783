import ScriptAdvisor.CommandLine.Snapshot
import ScriptAdvisor.Json.Writer

/-! # The program

Reads the files a command may need, runs the command and shows its outcome. -/

namespace ScriptAdvisor

/-- How the program is used. -/
def usage : List String :=
  ["Usage: refactoriq COMMAND [OPTIONS] [FILE]",
    "  analyze FILE  Detect anti-patterns in a source file.",
    "  suggest FILE  Show scored refactoring suggestions for a source file.",
    "  compare FILE  Render a before/after comparison for one suggestion.",
    "  rules         List the built-in rules."]

/-- The contents of the files that can be read, by path. -/
def readContents : List Path → IO (List (Path × List UInt8))
  | [] => return []
  | path :: rest => do
    let here ← try (fun bytes => [(path, bytes.toList)]) <$> IO.FS.readBinFile path.text
      catch _ => pure []
    return here ++ (← readContents rest)

/-- The snapshot for a line of words. -/
def readSnapshot (words : List String) : IO FileTree := do
  let current := (Path.ofString (toString (← IO.currentDir))).parts
  let paths :=
    match Command.parse words with
    | .ok command => ((command.target?).map fun target => target.reads current).getD []
    | .error _ => []
  return .ofContents current (← readContents paths)

/-- Tails that differ from place to place. -/
def freshTails : IO Tails := do
  let seed ← IO.rand 0 ((1 <<< 48) - 1)
  let spread (place : Nat) : Nat := seed + 0x9E3779B97F4B * place
  return { issue := fun place => Text.hex 12 (spread place % (1 <<< 48))
           suggestion := fun place => Text.hex 8 (spread place % (1 <<< 32)) }

/-- Show an outcome that took some microseconds. -/
def Outcome.present (tails : Tails) (elapsed : Nat) : Outcome → IO Unit
  | misused error => IO.eprintln error.message
  | help => usage.forM IO.println
  | shown lines _ => lines.forM IO.println
  | written report =>
    match report.toJson tails with
    | .ok entries =>
      let time : Json := .float (.ofDecimal false elapsed (-3))
      IO.println (Json.obj (entries ++ [("executionTime", time)])).pretty
    | .error fault => IO.eprintln fault.message
  | failed failure => IO.eprintln failure.message

end ScriptAdvisor

/-- Run the command that the arguments ask for. -/
def main (words : List String) : IO UInt32 := do
  let files ← ScriptAdvisor.readSnapshot words
  let tails ← ScriptAdvisor.freshTails
  let start ← IO.monoNanosNow
  let outcome := ScriptAdvisor.CommandLine.run files tails words
  let code := outcome.exitCode
  let stop ← IO.monoNanosNow
  outcome.present tails ((stop - start) / 1000)
  return UInt32.ofNat code
