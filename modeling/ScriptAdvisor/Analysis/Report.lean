import ScriptAdvisor.Json.Basic
import ScriptAdvisor.Suggestion.Dispatch

/-! # Reports

What an analysis of a file comes to: its issues, the suggestions to mend them, and what went wrong
on the way.

* `Report` is the record; `Report.count` and `Report.hasBlocking` sum it up, and `Report.exitCode`
  is the number by which a command tells it.
* `Report.toJson` writes it. The identifiers of issues and suggestions end in tails that are handed
  in (`Tails`), so that a report is determined by its file. -/

namespace ScriptAdvisor

/-- The outcome of an analysis. -/
structure Report where
  /-- The parsed file. -/
  parse : ParseResult
  /-- The violations, in the order of the rules. -/
  violations : List Violation
  /-- The violations as they are reported. -/
  issues : List Issue
  /-- The rated suggestions, in the order of the violations. -/
  suggestions : List Suggestion
  /-- Those suggestions that may be applied without asking. -/
  autoFixable : List Suggestion
  /-- The rules that failed. -/
  ruleErrors : List RuleRun
  /-- The providers that failed. -/
  providerErrors : List ProviderError
  deriving Inhabited

/-- What makes identifiers unique, by the place of the item in its list. -/
structure Tails where
  /-- The tails of issues. -/
  issue : Nat → String
  /-- The tails of suggestions. -/
  suggestion : Nat → String

/-- The tails that are all the same text. -/
def Tails.constant (text : String) : Tails := ⟨fun _ => text, fun _ => text⟩

instance : Inhabited Tails := ⟨.constant ""⟩

/-- Text or null. -/
def Json.ofText? (text : Option String) : Json := (text.map Json.str).getD .null

/-- Integer or null. -/
def Json.ofInt? (value : Option Int) : Json := (value.map Json.int).getD .null

/-- An edit in JSON. -/
def Edit.toJson (edit : Edit) : Json :=
  .obj
    [("type", .str edit.kind.name), ("start_line", .int edit.startLine),
      ("start_column", .int edit.startColumn), ("end_line", .int edit.endLine),
      ("end_column", .int edit.endColumn), ("original_code", .str edit.oldText),
      ("new_code", .str edit.newText), ("description", .str edit.description)]

/-- An impact in JSON. -/
def Impact.toJson (impact : Impact) : Json :=
  .obj
    [("lines_changed", .int impact.linesChanged), ("complexity", .str impact.complexity.name),
      ("breaking_change", .bool impact.breakingChange),
      ("testing_required", .bool impact.testingRequired),
      ("estimated_time", .str impact.estimatedTime)]

/-- A suggestion in JSON. -/
def Suggestion.toJson (suggestion : Suggestion) (tail : String) : Json :=
  .obj
    [("id", .str (suggestion.id.text tail)), ("rule_id", .str suggestion.ruleId),
      ("title", .str suggestion.title), ("description", .str suggestion.description),
      ("transformations", .arr (suggestion.edits.map Edit.toJson)),
      ("confidence", .str suggestion.tier.name), ("confidence_score", .int suggestion.score),
      ("reasoning", .str suggestion.reasoning), ("impact", suggestion.impact.toJson),
      ("preview", .ofText? suggestion.preview)]

/-- An issue in JSON. -/
def Issue.toJson (issue : Issue) (tail : String) : Json :=
  .obj
    [("id", .str (issue.ruleId ++ "-" ++ tail)), ("type", .str issue.ruleId),
      ("severity", .str issue.severity.name), ("message", .str issue.message),
      ("line", .int issue.line), ("column", .int issue.column),
      ("endLine", .ofInt? issue.endLine), ("endColumn", .ofInt? issue.endColumn),
      ("fileName", .str issue.fileName)]

/-- A diagnostic of the parser in JSON. -/
def ParseError.toJson (error : ParseError) : Json :=
  .obj
    [("message", .str error.message), ("line", .int error.line), ("column", .int error.column)]

/-- The failure of a rule in JSON. -/
def RuleRun.toJson (run : RuleRun) : Json :=
  .obj [("ruleId", .str run.ruleId), ("error", .ofText? run.error)]

/-- The failure of a provider in JSON. -/
def ProviderError.toJson (error : ProviderError) : Json :=
  .obj
    [("provider", .str error.provider), ("ruleId", .str error.ruleId), ("line", .int error.line),
      ("error", .str error.error)]

namespace Report

/-- The name of the file. -/
def fileName (report : Report) : String := report.parse.fileName

/-- How many issues have a severity. -/
def count (report : Report) (severity : Severity) : Nat :=
  report.issues.countP fun issue => issue.severity == severity

/-- Whether an issue blocks. -/
def hasBlocking (report : Report) : Bool :=
  report.issues.any fun issue => issue.severity.isBlocking

/-- The number by which a command tells how it went: two if an issue blocks, one if there are other
issues, zero if there are none. -/
def exitCode (report : Report) : Nat :=
  if report.hasBlocking then 2 else if report.issues.isEmpty then 0 else 1

/-- The suggestions for a rule. -/
def suggestionsFor (report : Report) (ruleId : String) : List Suggestion :=
  report.suggestions.filter fun suggestion => suggestion.ruleId == ruleId

/-- Whether a suggestion may be applied without asking. -/
def isAutoFixable (report : Report) (suggestion : Suggestion) : Bool :=
  report.autoFixable.contains suggestion

/-- The suggestions with their identifiers written out. -/
def named (report : Report) (tails : Tails) : List (String × Suggestion) :=
  report.suggestions.zipIdx.map fun (suggestion, place) =>
    (suggestion.id.text (tails.suggestion place), suggestion)

/-- The numbers of issues by severity, in JSON. -/
def countsToJson (report : Report) : Json :=
  .obj (Severity.all.map fun severity => (severity.name, .int (report.count severity)))

/-- A report in JSON. One without a language cannot be written. -/
def toJson (report : Report) (tails : Tails) : Except Fault (Entries Json) :=
  match report.parse.language with
  | none => .error (.noMember .null "value")
  | some language =>
    let named := report.named tails
    let fixes := named.filter fun entry => report.isAutoFixable entry.2
    .ok
      [("fileName", .str report.fileName), ("language", .str language.name),
        ("issues",
          .arr (report.issues.zipIdx.map fun (issue, place) => issue.toJson (tails.issue place))),
        ("suggestions",
          .arr (report.suggestions.zipIdx.map fun (suggestion, place) =>
            suggestion.toJson (tails.suggestion place))),
        ("autoFixable", .arr (fixes.map fun entry => .str entry.1)),
        ("stats", report.countsToJson),
        ("parseErrors", .arr (report.parse.errors.map ParseError.toJson)),
        ("ruleErrors", .arr (report.ruleErrors.map RuleRun.toJson)),
        ("providerErrors", .arr (report.providerErrors.map ProviderError.toJson))]

end Report

end ScriptAdvisor
