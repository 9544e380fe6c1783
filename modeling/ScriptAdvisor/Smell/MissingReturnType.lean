import ScriptAdvisor.Rule.Basic
import ScriptAdvisor.Suggestion.Provider
import ScriptAdvisor.Text.Search

/-! # Functions without a return type

Functions and methods should say what they return. Constructors and setters return nothing and are
left out. The suggestion writes `: void` behind the first closing parenthesis. -/

namespace ScriptAdvisor.MissingReturnType

/-- The description of the rule. -/
def info : RuleInfo :=
  { id := "ts-missing-types"
    name := "Missing Type Definitions"
    description := "Detects variables and functions without explicit type definitions"
    category := .bestPractice
    severity := .medium
    language := .typescript
    tags := ["types", "best-practice"] }

/-- What is reported. -/
def message : String := "Function missing explicit return type"

/-- The kinds of node that are looked at. -/
def candidateKinds : List String := ["FunctionDeclaration", "MethodDefinition", "TSDeclareFunction"]

/-- The kinds of method that need no return type. -/
def untypedMethods : List String := ["constructor", "set"]

/-- Whether a function has a return type. -/
def hasReturnType (function : Node) : Bool :=
  match function.get? "returnType" with
  | none => false
  | some (.leaf .null) => false
  | some _ => true

/-- Whether the kind of a method exempts it. Lists and objects are no kinds. -/
def isExempt (method : Node) : Except Fault Bool :=
  match method.get? "kind" with
  | some (.list _) => .error (.unhashable .list)
  | some (.leaf (.obj _)) => .error (.unhashable .object)
  | some (.leaf (.str kind)) => .ok (untypedMethods.contains kind)
  | _ => .ok false

/-- The function whose return type counts: that of a method stands in its value. -/
def target? (node : Node) : Except Fault (Option Node) :=
  if node.kind == "MethodDefinition" then do
    if ← isExempt node then return none else return node.child? "value"
  else .ok (some node)

/-- Whether a node lacks a return type. -/
def lacksReturnType (node : Node) : Except Fault Bool := do
  let target ← target? node
  return (target.map fun function => !hasReturnType function).getD false

/-- The visits among `visits` that lack a return type. -/
def untyped : List Visit → Except Fault (List Visit)
  | [] => .ok []
  | visit :: rest => do
    let hit ← lacksReturnType visit.node
    let more ← untyped rest
    return if hit then visit :: more else more

/-- The functions and methods without a return type. -/
def check (context : CheckContext) : Except Fault (List Violation) :=
  (untyped (ofKinds candidateKinds context.tree.visits)).map fun visits =>
    visits.map (info.violationAt message)

/-- The rule. -/
def rule : Rule := { info, check := fun context => .ofExcept (check context) }

/-- The example. -/
def preview : String :=
  "\n".intercalate
    ["// Before: Missing type annotations",
      r"function processData(data) {",
      "  return data.map(item => item.value);",
      r"}",
      "",
      "// After: With type annotations",
      r"interface DataItem {",
      "  value: string;",
      r"}",
      "",
      r"function processData(data: DataItem[]): string[] {",
      "  return data.map(item => item.value);",
      r"}"]

/-- The place of the annotation in a line, the text it replaces and the text it puts there: behind
the first closing parenthesis from `offset` on, or at the end of the line. -/
def annotation (line : List Char) (offset : Nat) : Nat × String × String :=
  match Text.findFrom? ")".toList line offset with
  | some place => (place, ")", "): void")
  | none => (line.length, "", ": void")

/-- The return type. -/
def advise (request : AdviceRequest) : List Suggestion :=
  let (place, oldText, newText) := annotation request.line request.violation.offset
  [{ id := .fresh (info.id ++ "-add-types"), ruleId := info.id
     title := "Add explicit type annotations"
     description := "Add type annotations to function parameters and return types"
     edits :=
       [{ kind := .replace, startLine := request.violation.line, startColumn := place
          endLine := request.violation.line, endColumn := place + oldText.length, oldText, newText
          description := "Add return type annotation" }]
     tier := .medium, score := 60
     reasoning := "Type inference may provide hints, but explicit types are clearer"
     impact :=
       { linesChanged := 1, complexity := .low, breakingChange := false
         testingRequired := false, estimatedTime := "5 minutes" }
     preview := some preview }]

/-- The provider. -/
def provider : Provider :=
  .forRule "MissingTypeRefactoringProvider" info.id fun request => .given (advise request)

end ScriptAdvisor.MissingReturnType
