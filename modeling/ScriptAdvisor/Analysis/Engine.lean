import ScriptAdvisor.Analysis.Report
import ScriptAdvisor.Settings.Basic
import ScriptAdvisor.Smell.Catalogue

/-! # The analysis of a file

An engine holds configured rules and an advisor. It runs the rules over a parsed file, puts their
violations to the providers and reports both.

* `Engine.create` configures the rules by the settings. A registry that is empty, or not given, is
  replaced by that of the catalogue.
* `Engine.analyze` analyses a file; `AnalysisError` says why that fails. -/

namespace ScriptAdvisor

/-- Configured rules and the advisor that mends what they find. -/
structure Engine where
  /-- The rules. -/
  rules : RuleRegistry
  /-- The limits within which they are run. -/
  limits : RunLimits := {}
  /-- The advisor. -/
  advisor : Advisor
  deriving Inhabited

/-- Why a file cannot be analysed. -/
inductive AnalysisError where
  /-- There is no parse result. -/
  | noResult
  /-- The rules cannot be run. -/
  | rules (error : RunError)
  /-- The providers cannot be consulted. -/
  | advice (error : AdviceError)
  deriving DecidableEq, Repr, Inhabited

/-- The wording of the error. -/
def AnalysisError.message : AnalysisError → String
  | noResult => (Fault.noMember .null "file_name").message
  | rules error => error.message "execute"
  | advice error => error.message

namespace RuleSettings

/-- The changes that settings make to a registry: first the rules that do not run, then the
severities, then the options. -/
def operations (settings : RuleSettings) : List RuleOperation :=
  settings.disabled.map .disable
    ++ settings.severities.map (fun (id, severity) => .setSeverity id (some severity))
    ++ settings.options.map (fun (id, options) => .setOptions id options)

end RuleSettings

namespace Settings

/-- The advisor that settings describe. -/
def advisor (settings : Settings) (providers : ProviderRegistry) : Advisor :=
  { providers, scorer := .withConfidence settings.ruleConfidence
    limit := settings.suggestions.limit, autoFix := settings.suggestions.autoFix
    autoFixThreshold := settings.suggestions.autoFixThreshold }

end Settings

namespace Engine

/-- The rules to run: those given, or those of the catalogue in place of none. -/
def chosenRules : Option RuleRegistry → RuleRegistry
  | none => Catalogue.ruleRegistry
  | some registry => if registry.size = 0 then Catalogue.ruleRegistry else registry

/-- The providers to consult: those given, or those of the catalogue in place of none. -/
def chosenProviders : Option ProviderRegistry → ProviderRegistry
  | none => Catalogue.providerRegistry
  | some registry => if registry.size = 0 then Catalogue.providerRegistry else registry

/-- The engine for settings, with given rules and providers or those of the catalogue. -/
def create (settings : Settings) (rules : Option RuleRegistry)
    (providers : Option ProviderRegistry) : Engine :=
  { rules := (chosenRules rules).run settings.rules.operations
    limits := { (default : RunLimits) with time := settings.rules.timeLimit }
    advisor := settings.advisor (chosenProviders providers) }

/-- The report on a parsed file. -/
def analyze (engine : Engine) : Option ParseResult → Except AnalysisError Report
  | none => .error .noResult
  | some parse => do
    let found ← (engine.rules.execute engine.limits (some parse) parse.fileName).mapError .rules
    let advice ←
      (engine.advisor.advise (some parse) found.violations parse.fileName).mapError .advice
    return { parse, violations := found.violations, issues := found.issues
             suggestions := advice.suggestions
             autoFixable := engine.advisor.autoFixable advice.suggestions
             ruleErrors := found.failures, providerErrors := advice.errors }

end Engine

end ScriptAdvisor
