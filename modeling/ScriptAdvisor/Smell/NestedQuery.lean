import ScriptAdvisor.Rule.Basic
import ScriptAdvisor.Suggestion.Provider

/-! # Record queries inside loops

A record query made inside a loop is repeated for every round. Such calls are reported once each,
and two ways out are suggested: an aggregate, or a single query for all keys. -/

namespace ScriptAdvisor.NestedQuery

/-- The description of the rule. -/
def info : RuleInfo :=
  { id := "glide-nested-query"
    name := "No Nested GlideRecord Queries"
    description := "Detects nested GlideRecord queries which cause performance issues"
    category := .performance
    severity := .high
    language := .javascript
    tags := ["gliderecord", "performance", "query"]
    documentation := "Use GlideAggregate or join queries instead of nested loops" }

/-- What is reported. -/
def message : String :=
  "Nested GlideRecord query detected. Consider using GlideAggregate or optimizing the query."

/-- The visits whose index is neither among `seen` nor that of an earlier visit. -/
def firstVisits (seen : List Nat) : List Visit → List Visit
  | [] => []
  | visit :: rest =>
    if seen.contains visit.index then firstVisits seen rest
    else visit :: firstVisits (visit.index :: seen) rest

/-- The query calls below the loops of a tree, loop by loop, each once. -/
def queriesInLoops (tree : Tree) : List Visit :=
  firstVisits [] ((loops tree.visits).flatMap fun loop => callsOf "query" loop.walk)

/-- The query calls inside loops. -/
def check (context : CheckContext) : List Violation :=
  (queriesInLoops context.tree).map (info.violationAt message)

/-- The rule. -/
def rule : Rule := { info, check := fun context => .found (check context) }

/-- The example for the aggregate. -/
def aggregatePreview : String :=
  "\n".intercalate
    ["// Before: Nested query",
      "var gr1 = new GlideRecord('incident');",
      "gr1.query();",
      r"while (gr1.next()) {",
      "  var gr2 = new GlideRecord('problem');",
      "  gr2.addQuery('incident', gr1.sys_id);",
      "  gr2.query();",
      "  var count = gr2.getRowCount();",
      r"}",
      "",
      "// After: GlideAggregate",
      "var ga = new GlideAggregate('problem');",
      "ga.addAggregate('COUNT');",
      "ga.groupBy('incident');",
      "ga.query();",
      r"while (ga.next()) {",
      "  var incidentId = ga.incident;",
      "  var count = ga.getAggregate('COUNT');",
      r"}"]

/-- The example for the single query. -/
def singleQueryPreview : String :=
  "\n".intercalate
    ["// Before: Nested query",
      "var gr1 = new GlideRecord('incident');",
      "gr1.query();",
      r"while (gr1.next()) {",
      "  var gr2 = new GlideRecord('problem');",
      "  gr2.addQuery('incident', gr1.sys_id);",
      "  gr2.query();",
      r"}",
      "",
      "// After: Collect IDs and use IN",
      "var incidentIds = [];",
      "var gr1 = new GlideRecord('incident');",
      "gr1.query();",
      r"while (gr1.next()) {",
      "  incidentIds.push(gr1.sys_id.toString());",
      r"}",
      "var gr2 = new GlideRecord('problem');",
      "gr2.addQuery('incident', 'IN', incidentIds.join(','));",
      "gr2.query();",
      r"while (gr2.next()) {",
      "  // Process gr2",
      r"}"]

/-- The edit that puts other text in place of the reported call. -/
def replaceCall (request : AdviceRequest) (newText description : String) : Edit :=
  let startColumn : Int := request.violation.offset
  let endLine := request.endLine
  let endColumn := request.endColumnOn endLine
  { kind := .replace, startLine := request.violation.line, startColumn, endLine, endColumn
    oldText :=
      String.ofList (request.spanText request.violation.line startColumn endLine endColumn)
    newText, description }

/-- The aggregate and the single query. -/
def advise (request : AdviceRequest) : List Suggestion :=
  [{ id := .fresh (info.id ++ "-aggregate"), ruleId := info.id
     title := "Use GlideAggregate for counting"
     description := "Replace nested query with GlideAggregate to count related records"
     edits :=
       [replaceCall request "// Use GlideAggregate here" "Replace with GlideAggregate"]
     tier := .medium, score := 65
     reasoning := "GlideAggregate is more efficient for counting operations"
     impact :=
       { linesChanged := 5, complexity := .medium, breakingChange := false
         testingRequired := true, estimatedTime := "10 minutes" }
     preview := some aggregatePreview },
   { id := .fresh (info.id ++ "-encoded"), ruleId := info.id
     title := "Use encoded query with IN operator"
     description := "Collect IDs and use a single query with IN operator"
     edits :=
       [replaceCall request "// Use IN operator here" "Replace with IN operator query"]
     tier := .high, score := 85
     reasoning := "Single query with IN operator is more efficient than nested queries"
     impact :=
       { linesChanged := 8, complexity := .medium, breakingChange := false
         testingRequired := true, estimatedTime := "15 minutes" }
     preview := some singleQueryPreview }]

/-- The provider. -/
def provider : Provider :=
  .forRule "NestedQueryRefactoringProvider" info.id fun request => .given (advise request)

end ScriptAdvisor.NestedQuery
