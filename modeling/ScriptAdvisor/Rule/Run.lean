import ScriptAdvisor.Rule.Registry

/-! # Running rules

The enabled rules of a registry that apply to the language of a file are run one after the other. A
rule that fails or overruns its time is recorded with an error and without violations; the other
rules are not affected. Violations take the severity configured for their rule.

Checks are handed to a number of workers. A check that overruns its time keeps its worker, so all
workers are replaced by idle ones then.

* `RunLimits` are the limits of a run, `RunLimits.judge` is what they make of a check. With
  `RunLimits.race` and `RunLimits.heldAfter` the workers come in.
* `RuleRun` is the record of one rule, `RuleReport` that of a run.
* `RuleRegistry.applicable?` picks the rules. `RuleEngine.execute` runs them and hands on the
  workers, `RuleRegistry.execute` runs them by idle workers. -/

namespace ScriptAdvisor

/-! ### Limits -/

/-- The limits under which rules are run. -/
structure RunLimits where
  /-- How long a rule may take, in milliseconds. -/
  time : Int := 5000
  /-- How many rules can be at work at once, those counted that have overrun their time. -/
  workers : Nat := 4
  /-- Some rule can be at work. -/
  workers_pos : 0 < workers := by decide
  deriving DecidableEq, Repr

instance : Inhabited RunLimits := ⟨{}⟩

/-- Why limits are refused. -/
inductive LimitError where
  /-- No rule could be at work. -/
  | noWorkers
  deriving DecidableEq, Repr, Inhabited

/-- The wording of the error. -/
def LimitError.message : LimitError → String
  | noWorkers => "max_workers must be greater than 0"

namespace RunLimits

/-- The limits of the given numbers. -/
def ofNumbers (time workers : Int) : Except LimitError RunLimits :=
  if h : 0 < workers then .ok { time, workers := workers.toNat, workers_pos := by omega }
  else .error .noWorkers

/-- Whether a time has more seconds than a double can hold: at least `2 ^ 1024 - 2 ^ 970`, which
rounds beyond the greatest double. -/
def isTooLong (time : Int) : Bool := (1 <<< 54) - 1 ≤ (time.natAbs >>> 970) / 1000

/-- What a check comes to under limits. A time of too many seconds cannot be measured, and a time
that is up at once is overrun by every check. -/
def judge (limits : RunLimits) (outcome : CheckOutcome) : CheckOutcome :=
  if isTooLong limits.time then .failed .timeTooLong
  else if limits.time ≤ 0 then .overrun
  else outcome

/-- What a check comes to when `held` workers have not come back: with no worker to spare it does
not start before its time is up. -/
def race (limits : RunLimits) (held : Nat) (outcome : CheckOutcome) : CheckOutcome :=
  limits.judge (if held < limits.workers then outcome else .overrun)

/-- How many workers have not come back after a check. When a check overruns its time all workers
are replaced by idle ones. A time of too many seconds is not waited for, and what does not come back
then keeps its worker. -/
def heldAfter (limits : RunLimits) (held : Nat) (outcome : CheckOutcome) : Nat :=
  if isTooLong limits.time then (if outcome = .overrun then held + 1 else held)
  else if limits.race held outcome = .overrun then 0
  else held

end RunLimits

/-! ### Records -/

/-- The record of one rule. -/
structure RuleRun where
  /-- The rule. -/
  ruleId : String
  /-- Its violations. -/
  violations : List Violation
  /-- Its error, if it failed. -/
  error : Option String
  deriving DecidableEq, Repr, Inhabited

/-- Whether the rule failed. -/
def RuleRun.isFailed (run : RuleRun) : Bool := run.error.isSome

/-- The record of a run over a file. -/
structure RuleReport where
  /-- The file. -/
  fileName : String
  /-- Its language. -/
  language : Language
  /-- The records of the rules, in order. -/
  runs : List RuleRun
  deriving DecidableEq, Repr, Inhabited

namespace RuleReport

/-- The violations of all rules, in order. -/
def violations (report : RuleReport) : List Violation := report.runs.flatMap (·.violations)

/-- The issues of all rules, in order. -/
def issues (report : RuleReport) : List Issue :=
  report.violations.map (·.toIssue report.fileName)

/-- The records of the rules that failed. -/
def failures (report : RuleReport) : List RuleRun := report.runs.filter (·.isFailed)

end RuleReport

/-! ### Runs -/

/-- What a run over a file lacks. -/
inductive RunError where
  /-- There is no parse result, or it has no syntax tree. -/
  | noTree
  /-- The file name is empty. -/
  | noFileName
  /-- A rule has no configuration. -/
  | noConfig
  deriving DecidableEq, Repr, Inhabited

/-- The wording of the error, for the operation that was asked for. -/
def RunError.message (operation : String) : RunError → String
  | noTree => operation ++ "() requires a parse result with a syntax tree"
  | noFileName => operation ++ "() requires a file name"
  | noConfig => operation ++ "() requires a configuration for every rule"

/-- The error under which a rule that overruns its time is recorded. -/
def timeoutMessage : String := "Rule execution timeout"

namespace Rule

/-- How the check of a rule ends under its configuration. -/
def outcomeWith (rule : Rule) (config : RuleConfig) (context : CheckContext) : CheckOutcome :=
  rule.check { context with options := config.options }

/-- The record of a rule whose check came to an outcome. -/
def record (rule : Rule) (config : RuleConfig) : CheckOutcome → RuleRun
  | .found violations =>
    let severity := config.severity.getD rule.info.severity
    { ruleId := rule.info.id, error := none
      violations := violations.map fun violation => { violation with severity } }
  | .nothing => { ruleId := rule.info.id, violations := [], error := none }
  | .failed fault => { ruleId := rule.info.id, violations := [], error := some fault.record }
  | .overrun => { ruleId := rule.info.id, violations := [], error := some timeoutMessage }

end Rule

/-- What a parse result offers to the rules. -/
def ParseResult.context? (parse : Option ParseResult) (fileName : String) :
    Except RunError (ParseResult × CheckContext) :=
  match parse with
  | none => .error .noTree
  | some result =>
    match result.tree with
    | none => .error .noTree
    | some tree =>
      if fileName.isEmpty then .error .noFileName
      else .ok (result, { tree, source := result.source, fileName })

/-- The language of a file: that of its parse result or else that of its name. -/
def ParseResult.languageOf (result : ParseResult) (fileName : String) : Language :=
  result.language.getD (.ofFileName fileName)

namespace RuleRegistry

/-- The enabled rules that apply to a language, with their configurations. -/
def applicable? (registry : RuleRegistry) (language : Language) :
    Option (List (Rule × RuleConfig)) :=
  registry.snapshot?.map fun pairs =>
    pairs.filter fun pair => pair.2.enabled && pair.1.info.appliesTo language

end RuleRegistry

/-- Rules with the limits within which they are run and the workers that run them. -/
structure RuleEngine where
  /-- The rules. -/
  registry : RuleRegistry
  /-- The limits. -/
  limits : RunLimits := {}
  /-- How many workers have not come back. -/
  held : Nat := 0
  deriving Inhabited

namespace RuleEngine

/-- Run rules one after the other, with `held` workers that have not come back. Beside the records
stands how many have not come back afterwards. -/
def runRules (limits : RunLimits) (context : CheckContext) (held : Nat) :
    List (Rule × RuleConfig) → List RuleRun × Nat
  | [] => ([], held)
  | (rule, config) :: rest =>
    let outcome := rule.outcomeWith config context
    let (runs, heldAtEnd) := runRules limits context (limits.heldAfter held outcome) rest
    (rule.record config (limits.race held outcome) :: runs, heldAtEnd)

/-- Run the rules of an engine over a file. Beside the report stands the engine for the next run. -/
def execute (engine : RuleEngine) (parse : Option ParseResult) (fileName : String) :
    Except RunError (RuleReport × RuleEngine) := do
  let (result, context) ← ParseResult.context? parse fileName
  let language := result.languageOf fileName
  match engine.registry.applicable? language with
  | none => .error .noConfig
  | some pairs =>
    let (runs, held) := runRules engine.limits context engine.held pairs
    return ({ fileName, language, runs }, { engine with held })

/-- Run the rules of one engine over files, one after the other. A file that is refused leaves the
engine as it is. -/
def executeAll (engine : RuleEngine) :
    List (Option ParseResult × String) → List (Except RunError RuleReport)
  | [] => []
  | (parse, fileName) :: rest =>
    match engine.execute parse fileName with
    | .ok (report, next) => .ok report :: executeAll next rest
    | .error error => .error error :: executeAll engine rest

end RuleEngine

/-- Run the rules of a registry over a file, within limits and by idle workers. -/
def RuleRegistry.execute (registry : RuleRegistry) (limits : RunLimits)
    (parse : Option ParseResult) (fileName : String) : Except RunError RuleReport :=
  (RuleEngine.execute { registry, limits } parse fileName).map (·.1)

end ScriptAdvisor
