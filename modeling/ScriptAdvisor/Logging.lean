/-! # Logging

Loggers form a tree below one root, and all of them have the level of the root.

* `LogLevel` ranks messages, `LogLevel.choose` picks the least level that is shown.
* `Logging` is the state of the root; `Logging.loggerName` names the loggers below it. -/

namespace ScriptAdvisor

/-- How urgent a message is. -/
inductive LogLevel where
  /-- For those who look into the program. -/
  | debug
  /-- For those who use it. -/
  | warning
  /-- For those whom it failed. -/
  | error
  deriving DecidableEq, Repr, Inhabited

namespace LogLevel

/-- The rank of a level. -/
def number : LogLevel → Nat
  | debug => 10
  | warning => 30
  | error => 40

/-- The least level that is shown. Quiet wins over verbose. -/
def choose (verbose quiet : Bool) : LogLevel :=
  if quiet then error else if verbose then debug else warning

end LogLevel

/-- The state of the root logger. -/
structure Logging where
  /-- The level it was set to, if it was. -/
  level : Option LogLevel := none
  /-- How many handlers it has. -/
  handlers : Nat := 0
  deriving DecidableEq, Repr, Inhabited

namespace Logging

/-- The name of the root logger. -/
def rootName : String := "refactoriq"

/-- The level is set. A handler is added unless there is one. -/
def setup (logging : Logging) (verbose quiet : Bool) : Logging :=
  { level := some (.choose verbose quiet)
    handlers := if logging.handlers = 0 then 1 else logging.handlers }

/-- The level below which messages are dropped, for every logger. -/
def effectiveLevel (logging : Logging) : LogLevel := logging.level.getD .warning

/-- The full name of a logger: names that are not below the root are put there. -/
def loggerName (name : String) : String :=
  if name.isEmpty then rootName
  else if name == rootName || (rootName ++ ".").toList.isPrefixOf name.toList then name
  else rootName ++ "." ++ name

end Logging

end ScriptAdvisor
