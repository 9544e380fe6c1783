import ScriptAdvisor.Analysis.Engine
import ScriptAdvisor.CommandLine.Arguments
import ScriptAdvisor.Comparison
import ScriptAdvisor.Parse.Load
import ScriptAdvisor.Screen.Block
import ScriptAdvisor.Settings.Load

/-! # Running a command

A command reads its files from a snapshot and ends in an outcome, which the outer layer shows. The
identifiers of issues and suggestions end in tails that are handed in.

* `Outcome` is how a command ends, `Failure` what stops it.
* `Command.run` carries out a command, `CommandLine.run` a line of words. -/

namespace ScriptAdvisor

/-- What stops a command. -/
inductive Failure where
  /-- There are no settings. -/
  | settings (error : SettingsError)
  /-- The file cannot be loaded. -/
  | load (error : ParseResult.LoadError)
  /-- The file cannot be analysed. -/
  | analysis (error : AnalysisError)
  /-- The output has no plain form. -/
  | markup (error : MarkupError)
  /-- The report cannot be written. -/
  | report (fault : Fault)
  deriving Inhabited

/-- The wording of a failure. -/
def Failure.message : Failure → String
  | settings error => error.message
  | load error => error.message
  | analysis error => error.message
  | markup error => error.message
  | report fault => fault.message

/-- How a command ends. -/
inductive Outcome where
  /-- It is not used as it should be. -/
  | misused (error : UsageError)
  /-- It shows how it is used. -/
  | help
  /-- It shows lines. -/
  | shown (lines : List String) (exitCode : Nat)
  /-- It writes a report. -/
  | written (report : Report)
  /-- It is stopped. -/
  | failed (failure : Failure)
  deriving Inhabited

/-- The number by which an outcome is told. -/
def Outcome.exitCode : Outcome → Nat
  | misused _ => 2
  | help => 0
  | shown _ exitCode => exitCode
  | written report => report.exitCode
  | failed _ => 1

/-- The outcome that shows blocks. -/
def Outcome.ofBlocks (blocks : List Block) (exitCode : Nat) : Outcome :=
  match Screen.lines blocks with
  | .ok lines => shown lines exitCode
  | .error error => failed (.markup error)

namespace Target

/-- Whether the file argument leads to a file. -/
def isFile (target : Target) (files : FileTree) : Bool := files.isFile target.path

/-- The settings for the file: those that are given, or those found on the way to the root. -/
def settings (target : Target) (files : FileTree) : Except Failure Settings :=
  (Settings.load files target.config (files.resolve target.path).dropLast).mapError .settings

/-- The report on the file. -/
def report (target : Target) (files : FileTree) : Except Failure Report := do
  let settings ← target.settings files
  let parse ← (ParseResult.loadFile files target.path target.document).mapError .load
  ((Engine.create settings none none).analyze (some parse)).mapError .analysis

end Target

namespace Block

/-- The banner of the program. -/
def banner : Block :=
  .panel
    { content := "RefactorIQ", hasMarkup := false
      subtitle := some "Confidence-scored refactoring", style := "magenta", padding := some 4 }

/-- What went wrong on the way to a report. -/
def diagnostics (report : Report) : List Block :=
  (report.parse.errors.map fun error => warning s!"Parse: {error.message} (line {error.line})")
    ++ (report.ruleErrors.map fun run =>
      warning (s!"Rule {run.ruleId} failed: " ++ run.error.getD ""))
    ++ report.providerErrors.map fun error =>
      warning s!"Provider {error.provider} failed on line {error.line}: {error.error}"

/-- The colour of a severity. -/
def severityStyle : Severity → String
  | .critical => "bold red"
  | .high => "red"
  | .medium => "yellow"
  | .low => "cyan"

/-- The colour of a tier. -/
def tierStyle : Tier → String
  | .high => "green"
  | .medium => "yellow"
  | .low => "red"

/-- A text in a style. -/
def styled (style text : String) : String := s!"[{style}]{text}[/{style}]"

/-- The row of an issue. -/
def issueRow (issue : Issue) : List String :=
  [s!"{issue.line}:{issue.column}",
    styled (severityStyle issue.severity) issue.severity.name.toUpper, issue.ruleId, issue.message]

/-- The table of issues. -/
def issueTable (name : String) (issues : List Issue) : Block :=
  .table
    { title := "⚠️  Issues in " ++ name
      columns := [("Line", ""), ("Severity", ""), ("Rule", "bold"), ("Message", "")]
      rows := issues.map issueRow }

/-- The number of issues of a severity under a heading. -/
def tally (report : Report) (heading : String) (severity : Severity) : String :=
  styled (severityStyle severity) s!"{heading}: {report.count severity}"

/-- The summary of a report. -/
def summary (report : Report) : Block :=
  let counts :=
    [styled "bold" s!"Total: {report.issues.length}", tally report "Critical" .critical,
      tally report "High" .high, tally report "Medium" .medium, tally report "Low" .low]
  .panel
    { title := "📋 Analysis Summary"
      content := "  ".intercalate counts ++ "\n"
        ++ s!"Suggestions: {report.suggestions.length}  "
        ++ s!"Auto-fixable: {report.autoFixable.length}" }

/-- The line of an edit. -/
def editLine (edit : Edit) : String :=
  let start := s!"L{edit.startLine}:{edit.startColumn}"
  let stop := s!"L{edit.endLine}:{edit.endColumn}"
  styled "dim" s!"{edit.kind.name} {start}-{stop}" ++ " " ++ edit.description

/-- The panel of a suggestion. -/
def suggestionPanel (id : String) (suggestion : Suggestion) (isAutoFixable : Bool) : Block :=
  let style := tierStyle suggestion.tier
  let impact := suggestion.impact
  let body :=
    [styled "bold" suggestion.title ++ "  "
        ++ styled style s!"{suggestion.tier.name.toUpper} {suggestion.score}"
        ++ (if isAutoFixable then "  " ++ styled "success" "auto-fixable" else ""),
      suggestion.description,
      styled "dim" "Rule:" ++ s!" {suggestion.ruleId}   " ++ styled "dim" "Impact:"
        ++ s!" {impact.linesChanged} line(s), {impact.complexity.name}, ~{impact.estimatedTime}",
      styled "dim" "Reasoning:" ++ " " ++ suggestion.reasoning]
  .panel
    { title := id, content := "\n".intercalate (body ++ suggestion.edits.map editLine), style }

/-- The row of a rule. -/
def ruleRow (info : RuleInfo) : List String :=
  [info.id, info.language.name, info.category.name, info.severity.name, info.description]

/-- The table of rules. -/
def ruleTable (rules : List Rule) : Block :=
  .table
    { title := "📚 Rules"
      columns := [("Id", "bold"), ("Language", "cyan"), ("Category", ""), ("Severity", "yellow"),
        ("Description", "")]
      rows := rules.map fun rule => ruleRow rule.info }

end Block

namespace Command

/-- What follows if there is no report: that settings are refused is shown below `blocks`, other
failures stop the command. -/
def withoutReport (blocks : List Block) : Failure → Outcome
  | .settings (.invalid problems) =>
    .ofBlocks (blocks ++ [.error ("Invalid configuration:\n" ++ invalidMessage problems)]) 2
  | .settings (.malformed error) =>
    .ofBlocks (blocks ++ [.error s!"Could not read configuration: {error.message}"]) 2
  | failure => .failed failure

/-- What is shown while a report on a file is made. -/
def progress (activity name : String) : String := s!"[bold cyan]{activity} {name}…"

/-- What follows from the report on a file, whose blocks are shown below the banner. What is shown
in the meantime must have a plain form too. -/
def withReport (activity : String) (target : Target) (files : FileTree)
    (next : Report → List Block × Nat) : Outcome :=
  match Markup.render (progress activity target.name) with
  | .error error => .failed (.markup error)
  | .ok _ =>
    match target.report files with
    | .ok report =>
      let (blocks, exitCode) := next report
      .ofBlocks (.banner :: blocks) exitCode
    | .error failure => withoutReport [.banner] failure

/-- The blocks of the issues of a file. -/
def analysisBlocks (name : String) (report : Report) : List Block × Nat :=
  if report.issues.isEmpty then
    (Block.diagnostics report ++ [.success s!"{name} is clean – no anti-patterns detected."], 0)
  else
    (Block.diagnostics report ++ [.issueTable name report.issues, .summary report], report.exitCode)

/-- The blocks of the suggestions for a file. -/
def suggestionBlocks (tails : Tails) (autoFixOnly : Bool) (report : Report) : List Block × Nat :=
  let named := report.named tails
  let chosen :=
    if autoFixOnly then named.filter fun entry => report.isAutoFixable entry.2 else named
  let blocks : List Block :=
    if chosen.isEmpty then
      if autoFixOnly && !report.suggestions.isEmpty then
        [.info "No suggestion meets the auto-fix confidence threshold."]
      else [.success "No refactoring suggestions."]
    else
      (chosen.map fun (id, suggestion) =>
        .suggestionPanel id suggestion (report.isAutoFixable suggestion))
        ++ [.info (s!"{chosen.length} suggestion(s), "
          ++ s!"{report.autoFixable.length} auto-fixable.")]
  (Block.diagnostics report ++ blocks, 0)

/-- The blocks of a comparison. -/
def changeBlocks (comparison : Comparison) : List Block :=
  (if comparison.isChanged then .panel (.unmarked "🔀 Diff" comparison.diff)
    else .warning "Suggestion leaves the source unchanged.")
    :: match comparison.preview with
      | some preview =>
        if preview.isEmpty then [] else [.panel (.unmarked "💡 Example" preview none "green")]
      | none => []

/-- The blocks of what a suggestion would change. -/
def comparisonBlocks (name : String) (tails : Tails) (rule : Option String) (index : Int)
    (report : Report) : List Block × Nat :=
  let named := report.named tails
  let candidates : List (String × Suggestion) :=
    match rule with
    | some rule => named.filter fun (_, suggestion) => suggestion.ruleId == rule
    | none => named
  if candidates.isEmpty then ([.info "No suggestions to compare."], 0)
  else
    match candidates[(index - 1).toNat]? with
    | none =>
      ([.error s!"Only {candidates.length} suggestion(s) available; got --index {index}."], 2)
    | some (id, suggestion) =>
      match Comparison.build report.parse.source suggestion name with
      | .error error => ([.error s!"Cannot apply suggestion {id}: {error.message}"], 2)
      | .ok comparison =>
        (.suggestionPanel id suggestion (report.isAutoFixable suggestion)
          :: changeBlocks comparison, 0)

/-- The rules of the catalogue that apply to a language. -/
def chosenRules (language : Option Language) : List Rule :=
  Catalogue.ruleRegistry.list.filter fun rule =>
    match language with
    | some language => rule.info.appliesTo language
    | none => true

/-- The report on a file as data. -/
def writeReport (target : Target) (files : FileTree) : Outcome :=
  match target.report files with
  | .ok report => .written report
  | .error failure => withoutReport [] failure

/-- Carry out a command whose file is there. -/
def runOn (files : FileTree) (tails : Tails) : Command → Outcome
  | analyze target format =>
    if format == "text" then withReport "Analysing" target files (analysisBlocks target.name)
    else if format == "json" then writeReport target files
    else .ofBlocks [.error s!"Unknown format '{format}'. Use text or json."] 2
  | suggest target autoFixOnly =>
    withReport "Generating suggestions for" target files (suggestionBlocks tails autoFixOnly)
  | compare target rule index =>
    withReport "Preparing comparison for" target files
      (comparisonBlocks target.name tails rule index)
  | rules language => .ofBlocks [.ruleTable (chosenRules language)] 0
  | help => .help

/-- The file a command works on. -/
def target? : Command → Option Target
  | analyze target _ => some target
  | suggest target _ => some target
  | compare target _ _ => some target
  | rules _ => none
  | help => none

/-- Carry out a command. -/
def run (files : FileTree) (tails : Tails) (command : Command) : Outcome :=
  match command.target? with
  | some target =>
    if target.isFile files then command.runOn files tails
    else .misused (.notAFile target.given)
  | none => command.runOn files tails

end Command

/-- Carry out a line of words. -/
def CommandLine.run (files : FileTree) (tails : Tails) (words : List String) : Outcome :=
  match Command.parse words with
  | .ok command => command.run files tails
  | .error error => .misused error

end ScriptAdvisor
