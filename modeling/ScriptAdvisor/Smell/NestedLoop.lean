import ScriptAdvisor.Rule.Basic
import ScriptAdvisor.Suggestion.Provider

/-! # Nested loops

A loop inside enough other loops is reported; how many are enough is an option. The suggestion puts
a functional style in its place. -/

namespace ScriptAdvisor.NestedLoop

/-- The description of the rule. -/
def info : RuleInfo :=
  { id := "ts-large-loops"
    name := "Optimize Large Loops"
    description := "Detects large loops that may need optimization"
    category := .performance
    severity := .medium
    language := .typescript
    tags := ["performance", "loops"] }

/-- What is reported about a loop inside `enclosing` others. -/
def message (enclosing : Nat) : String :=
  "Loop nested " ++ toString (enclosing + 1) ++ " levels deep. " ++
    "Consider flatMap/map/filter or a lookup table instead."

/-- Walk the nodes of a stack, each with the number of loops around it, the top first, and list the
loops with that number. `index` is that of the next node. -/
def loopStack (index : Nat) : List (Node × Nat) → List (Visit × Nat)
  | [] => []
  | (node, enclosing) :: stack =>
    let inner := if node.isLoop then enclosing + 1 else enclosing
    let rest := loopStack (index + 1) (node.children.map (fun child => (child, inner)) ++ stack)
    if node.isLoop then (⟨index, node, none⟩, enclosing) :: rest else rest
termination_by stack => Node.countAll (stack.map fun entry => entry.1)
decreasing_by
  simp only [List.map_append, List.map_map, Function.comp_def, List.map_id', List.map_cons,
    Node.countAll_append, Node.countAll]
  have h := node.count_eq
  omega

/-- The loops of a tree with the number of loops around each. -/
def loopsWithDepth (tree : Tree) : List (Visit × Nat) := loopStack 0 [(tree.root, 0)]

/-- The loops inside at least `limit` others. -/
def deepLoops (tree : Tree) (limit : Int) : List Violation :=
  ((loopsWithDepth tree).filter fun loop => limit ≤ loop.2).map fun loop =>
    info.violationAt (message loop.2) loop.1

/-- The option that says how many loops around a loop are enough. -/
def limitOption : String := "max_nesting"

/-- How many loops around a loop are enough: one unless the options say otherwise. -/
def limit (options : Entries Yaml.Value) : Except Fault Int :=
  ((Entries.get? options limitOption).getD (.int 1)).toInt

/-- The loops inside too many others. -/
def check (context : CheckContext) : Except Fault (List Violation) :=
  (limit context.options).map (deepLoops context.tree)

/-- The rule. -/
def rule : Rule := { info, check := fun context => .ofExcept (check context) }

/-- The example. -/
def preview : String :=
  "\n".intercalate
    ["// Before: Nested loops",
      "const results = [];",
      r"for (let i = 0; i < data.length; i++) {",
      r"  for (let j = 0; j < data[i].items.length; j++) {",
      "    results.push(processItem(data[i].items[j]));",
      r"  }",
      r"}",
      "",
      "// After: Functional approach",
      "const results = data.flatMap(item =>",
      "  item.items.map(subItem => processItem(subItem))",
      ");"]

/-- The functional style. -/
def advise (request : AdviceRequest) : List Suggestion :=
  let startColumn : Int := request.violation.offset
  let endLine := request.endLine
  let endColumn := request.endColumnOn endLine
  [{ id := .fresh (info.id ++ "-functional"), ruleId := info.id
     title := "Use functional programming"
     description := "Replace nested loops with functional methods like map, filter, flatMap"
     edits :=
       [{ kind := .replace, startLine := request.violation.line, startColumn, endLine, endColumn
          oldText :=
            String.ofList (request.spanText request.violation.line startColumn endLine endColumn)
          newText := "// Replace with flatMap/map over the collection"
          description := "Replace with functional approach" }]
     tier := .medium, score := 75
     reasoning := "Functional approach is often more readable and maintainable"
     impact :=
       { linesChanged := 5, complexity := .medium, breakingChange := false
         testingRequired := true, estimatedTime := "10 minutes" }
     preview := some preview }]

/-- The provider. -/
def provider : Provider :=
  .forRule "LargeLoopsRefactoringProvider" info.id fun request => .given (advise request)

end ScriptAdvisor.NestedLoop
