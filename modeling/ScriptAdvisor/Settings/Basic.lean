import ScriptAdvisor.FileTree
import ScriptAdvisor.Settings.Check
import ScriptAdvisor.Yaml.Token

/-! # Settings

What a user can change: which rules run and how, how many suggestions are made, which of them may be
applied without asking, and how reliable the rules are taken to be.

* `Settings` are the settings with their defaults.
* `Settings.ofValue` reads them from a YAML value; `SettingsError` says why that fails. -/

namespace ScriptAdvisor

/-- Settings of the rules. -/
structure RuleSettings where
  /-- The rules that do not run. -/
  disabled : List String := []
  /-- The severities that replace those of the rules. -/
  severities : Entries Severity := []
  /-- The options of the rules. -/
  options : Entries (Entries Yaml.Value) := []
  /-- How long a rule may take, in milliseconds. -/
  timeLimit : Int := 5000
  deriving Inhabited

/-- Settings of the suggestions. -/
structure SuggestionSettings where
  /-- How many suggestions are kept for a violation. -/
  limit : Int := 3
  /-- Whether suggestions may be applied without asking. -/
  autoFix : Bool := false
  /-- The score from which on they may. -/
  autoFixThreshold : Int := 80
  deriving DecidableEq, Repr, Inhabited

/-- All settings. -/
structure Settings where
  /-- Those of the rules. -/
  rules : RuleSettings := {}
  /-- Those of the suggestions. -/
  suggestions : SuggestionSettings := {}
  /-- The reliabilities that replace those of the rules. -/
  ruleConfidence : Entries Int := []
  deriving Inhabited

/-- Why there are no settings. -/
inductive SettingsError where
  /-- The file cannot be read. -/
  | file (error : FileError)
  /-- The file is no YAML. -/
  | malformed (error : Yaml.Error)
  /-- A scalar of the file does not denote what its kind promises. -/
  | value (fault : Fault)
  /-- The settings are no mapping but a value of this kind. -/
  | notAMapping (kind : String)
  /-- A key of the settings is no text. -/
  | nonTextKey
  /-- Some settings are refused. -/
  | invalid (problems : List Problem)
  deriving Inhabited

/-- The wording for settings that are refused: how many problems there are, and each of them. -/
def invalidMessage (problems : List Problem) : String :=
  let heading :=
    s!"{problems.length} validation error" ++ (if problems.length = 1 then "" else "s")
      ++ " for RefactorIQSettings"
  "\n".intercalate (heading :: problems.map Problem.text)

/-- The wording of the error. -/
def SettingsError.message : SettingsError → String
  | file error => error.message
  | malformed _ => "Could not read configuration"
  | notAMapping kind =>
    "refactoriq.config.settings.RefactorIQSettings() argument after ** must be a mapping, not "
      ++ kind
  | nonTextKey => "keywords must be strings"
  | value fault => fault.message
  | invalid problems => invalidMessage problems

open Yaml (Value)

/-- The options of a rule: a mapping with texts as keys and any values. -/
def checkOptions (value : Value) : Checked (Entries Value) := checkMap .ok value

/-- The settings of the rules. -/
def RuleSettings.check (entries : List (Value × Value)) : Checked RuleSettings :=
  let fallback : RuleSettings := {}
  let disabled := checkField entries "disabled" fallback.disabled (checkList checkText)
  let severities :=
    checkField entries "severity_overrides" fallback.severities (checkMap checkSeverity)
  let options := checkField entries "options" fallback.options (checkMap checkOptions)
  let timeLimit :=
    checkField entries "max_execution_time_ms" fallback.timeLimit (checkAbove 0)
  (disabled.both (severities.both (options.both timeLimit))).map
    fun (disabled, severities, options, timeLimit) =>
      { disabled, severities, options, timeLimit }

/-- The settings of the suggestions. -/
def SuggestionSettings.check (entries : List (Value × Value)) : Checked SuggestionSettings :=
  let fallback : SuggestionSettings := {}
  let limit :=
    checkField entries "max_suggestions_per_violation" fallback.limit (checkAtLeast 0)
  let autoFix := checkField entries "enable_auto_fix" fallback.autoFix checkBool
  let autoFixThreshold :=
    checkField entries "min_confidence_for_auto_fix" fallback.autoFixThreshold
      (checkBetween 0 100)
  (limit.both (autoFix.both autoFixThreshold)).map
    fun (limit, autoFix, autoFixThreshold) => { limit, autoFix, autoFixThreshold }

/-- The reliabilities of the rules. -/
def checkConfidence (entries : List (Value × Value)) : Checked (Entries Int) :=
  checkField entries "rule_confidence" [] (checkMap checkInt)

namespace Settings

/-- The settings in the entries of a mapping. Unknown entries are passed over. -/
def check (entries : List (Value × Value)) : Checked Settings :=
  let rules := checkField entries "rules" {} (checkSection "RulesConfig" RuleSettings.check)
  let suggestions :=
    checkField entries "refactoring" {}
      (checkSection "RefactoringConfig" SuggestionSettings.check)
  let ruleConfidence :=
    checkField entries "scoring" [] (checkSection "ScoringConfig" checkConfidence)
  (rules.both (suggestions.both ruleConfidence)).map
    fun (rules, suggestions, ruleConfidence) => { rules, suggestions, ruleConfidence }

/-- Whether a key is a text. -/
def isTextKey : Value → Bool
  | .str _ => true
  | _ => false

/-- The settings a value describes. -/
def ofValue : Value → Except SettingsError Settings
  | .map entries =>
    if entries.all fun entry => isTextKey entry.1 then (check entries).mapError .invalid
    else .error .nonTextKey
  | value => .error (.notAMapping value.kindName)

end Settings

end ScriptAdvisor
