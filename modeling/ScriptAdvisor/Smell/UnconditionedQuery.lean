import ScriptAdvisor.Rule.Basic
import ScriptAdvisor.Suggestion.Provider
import ScriptAdvisor.Text.Blank
import ScriptAdvisor.Text.Search
import ScriptAdvisor.Text.Word

/-! # Record queries without conditions

A record query for which no condition was added before reads the whole table. A condition counts if
it is added to the same plain identifier at an earlier place of the source. The suggestion inserts a
condition in front of the line. -/

namespace ScriptAdvisor.UnconditionedQuery

/-- The description of the rule. -/
def info : RuleInfo :=
  { id := "glide-query-no-conditions"
    name := "Query Without Conditions"
    description := "Detects GlideRecord queries without addQuery conditions"
    category := .performance
    severity := .medium
    language := .javascript
    tags := ["gliderecord", "performance"] }

/-- What is reported. -/
def message : String := "Consider adding query conditions with addQuery() before calling query()"

/-- The members that add a condition. -/
def conditionMethods : List String :=
  ["addQuery", "addEncodedQuery", "addActiveQuery", "addNullQuery", "addNotNullQuery",
    "addOrCondition"]

/-- A condition: the record it is added to and where. -/
structure Condition where
  /-- The identifier of the record. -/
  receiver : String
  /-- The line of the call. -/
  line : Int
  /-- The column of the call. -/
  column : Int
  deriving DecidableEq, Repr, Inhabited

/-- The plain identifier a call is made on, if it has a name. -/
def receiver? (call : Node) : Option String := call.callReceiver?.filter (!·.isEmpty)

/-- The condition a call adds. -/
def condition? (call : Node) : Option Condition :=
  match receiver? call, call.callName? with
  | some receiver, some name =>
    if conditionMethods.contains name then some ⟨receiver, call.line, call.column⟩ else none
  | _, _ => none

/-- Whether one place of the source lies before another. -/
def isBefore (line column line' column' : Int) : Bool :=
  line < line' || (line == line' && column < column')

/-- Whether a condition restricts a query: it is added to the same record, and before. -/
def Condition.restricts (condition : Condition) (query : Node) : Bool :=
  receiver? query == some condition.receiver
    && isBefore condition.line condition.column query.line query.column

/-- Whether a call is a record query. -/
def isQuery (call : Node) : Bool := call.callName? == some "query" && call.isMemberCall

/-- The record queries that no condition restricts. -/
def check (context : CheckContext) : List Violation :=
  let calls := calls context.tree.visits
  let conditions := calls.filterMap fun call => condition? call.node
  (calls.filter fun call =>
    isQuery call.node && !conditions.any fun condition => condition.restricts call.node).map
      (info.violationAt message)

/-- The rule. -/
def rule : Rule := { info, check := fun context => .found (check context) }

/-- The example. -/
def preview : String :=
  "\n".intercalate
    ["// Before: Query without conditions",
      "var gr = new GlideRecord('incident');",
      "gr.query();",
      "",
      "// After: Query with conditions",
      "var gr = new GlideRecord('incident');",
      "gr.addQuery('active', true);",
      "gr.addQuery('priority', '<=', 3);",
      "gr.query();"]

/-- The word at the start of a text, if a query is made on it. -/
def queryReceiver? (text : List Char) : Option (List Char) :=
  let word := text.takeWhile Text.isWordChar
  if word.isEmpty then none
  else
    match (text.dropWhile Text.isWordChar).dropWhile Text.isBlank with
    | '.' :: rest =>
      match Text.after? "query".toList (rest.dropWhile Text.isBlank) with
      | some rest =>
        match rest.dropWhile Text.isBlank with
        | '(' :: _ => some word
        | _ => none
      | none => none
    | _ => none

/-- The name of the first record of a line that is queried, or a usual name. -/
def receiverOn (line : List Char) : List Char :=
  match Text.search? queryReceiver? 0 line with
  | some (_, receiver) => receiver
  | none => "gr".toList

/-- The line to insert. -/
def conditionLine (line : List Char) : String :=
  String.ofList (Text.indentation line ++ receiverOn line) ++ ".addQuery('active', true);\n"

/-- A condition in front of the line. -/
def advise (request : AdviceRequest) : List Suggestion :=
  [{ id := .fresh (info.id ++ "-add-conditions"), ruleId := info.id
     title := "Add query conditions"
     description := "Add addQuery() conditions before calling query()"
     edits :=
       [{ kind := .insert, startLine := request.violation.line, startColumn := 0
          endLine := request.violation.line, endColumn := 0, oldText := ""
          newText := conditionLine request.line, description := "Add query condition" }]
     tier := .low, score := 40
     reasoning := "Requires domain knowledge to determine appropriate conditions"
     impact :=
       { linesChanged := 2, complexity := .low, breakingChange := false
         testingRequired := true, estimatedTime := "5 minutes" }
     preview := some preview }]

/-- The provider. -/
def provider : Provider :=
  .forRule "QueryConditionsRefactoringProvider" info.id fun request => .given (advise request)

end ScriptAdvisor.UnconditionedQuery
