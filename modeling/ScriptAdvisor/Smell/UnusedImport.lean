import ScriptAdvisor.Rule.Basic
import ScriptAdvisor.Suggestion.Provider

/-! # Unused imports

An imported name that no identifier outside the imports mentions is not used. The suggestion deletes
the line of the import. -/

namespace ScriptAdvisor.UnusedImport

/-- The description of the rule. -/
def info : RuleInfo :=
  { id := "ts-unused-imports"
    name := "Unused Imports"
    description := "Detects unused import statements"
    category := .maintainability
    severity := .low
    language := .typescript
    tags := ["imports", "maintainability"] }

/-- What is reported about a name. -/
def message (name : String) : String := "'" ++ name ++ "' is imported but never used"

/-- The kinds of import specifier. -/
def specifierKinds : List String :=
  ["ImportSpecifier", "ImportDefaultSpecifier", "ImportNamespaceSpecifier"]

/-- The kinds of node that mention a name. -/
def referenceKinds : List String := ["Identifier", "JSXIdentifier"]

/-- The import declarations of a tree. -/
def imports (tree : Tree) : List Visit := ofKinds ["ImportDeclaration"] tree.visits

/-- The names mentioned outside the imports. -/
def usedNames (tree : Tree) : List String :=
  let inside := (imports tree).flatMap fun declaration => declaration.walk.map (·.index)
  ((ofKinds referenceKinds tree.visits).filter fun visit => !inside.contains visit.index).filterMap
    fun visit => visit.node.name?.filter (!·.isEmpty)

/-- Number nodes that stand beside each other; the first has the index `index`. -/
def numberSiblings (parent index : Nat) : List Node → List Visit
  | [] => []
  | node :: rest => ⟨index, node, some parent⟩ :: numberSiblings parent (index + node.count) rest

/-- The children of a visited node in its field `name`. -/
def childrenIn (visit : Visit) (name : String) : List Visit :=
  let before := visit.node.fields.takeWhile fun field => field.1 != name
  let nodes := ((visit.node.get? name).map Field.nodes).getD []
  numberSiblings visit.index (visit.index + 1 + Node.countFields before) nodes

/-- The fault of the first item that is no node. -/
def firstFault? : List Field → Option Fault
  | [] => none
  | .node _ :: rest => firstFault? rest
  | item :: _ => some (.noMember item.shape "kind")

/-- Why the specifiers of an import cannot be gone through, if they cannot. The items of a text and
the keys of an object are texts. -/
def specifierFault? : Field → Option Fault
  | .list items => firstFault? items
  | .leaf (.str _) => some (.noMember .str "kind")
  | .leaf (.obj _) => some (.noMember .str "kind")
  | value => some (.notIterable value.shape)

/-- The specifiers of an import. -/
def specifiers (declaration : Visit) : Except Fault (List Visit) :=
  match declaration.node.get? "specifiers" with
  | none => .ok []
  | some value =>
    if value.isTruthy then
      match specifierFault? value with
      | some fault => .error fault
      | none => .ok (childrenIn declaration "specifiers")
    else .ok []

/-- The local name a specifier introduces. -/
def localName? (specifier : Node) : Option String :=
  if specifierKinds.contains specifier.kind then
    ((specifier.child? "local").bind Node.name?).filter (!·.isEmpty)
  else none

/-- The finding at a specifier. -/
def checkSpecifier (used : List String) (specifier : Visit) : Option Violation :=
  match localName? specifier.node with
  | some name =>
    if used.contains name then none else some (info.violationAt (message name) specifier)
  | none => none

/-- The findings at the specifiers of imports. -/
def checkImports (used : List String) : List Visit → Except Fault (List Violation)
  | [] => .ok []
  | declaration :: rest => do
    let here ← specifiers declaration
    let more ← checkImports used rest
    return here.filterMap (checkSpecifier used) ++ more

/-- The imported names that are not used. -/
def check (context : CheckContext) : Except Fault (List Violation) :=
  checkImports (usedNames context.tree) (imports context.tree)

/-- The rule. -/
def rule : Rule := { info, check := fun context => .ofExcept (check context) }

/-- The example. -/
def preview : String :=
  "\n".intercalate
    ["// Before: Unused imports",
      "import { Component, OnInit, ViewChild } from '@angular/core';",
      "import { Observable } from 'rxjs';",
      "",
      "export class MyComponent implements OnInit {}",
      "",
      "// After: Only used imports",
      "import { Component, OnInit } from '@angular/core';",
      "",
      "export class MyComponent implements OnInit {}"]

/-- The removal of the line. -/
def advise (request : AdviceRequest) : List Suggestion :=
  let line := request.line
  [{ id := .fresh (info.id ++ "-remove"), ruleId := info.id
     title := "Remove unused imports"
     description := "Remove import statements that are not used in the code"
     edits :=
       [{ kind := .delete, startLine := request.violation.line, startColumn := 0
          endLine := request.violation.line, endColumn := line.length
          oldText := String.ofList line, newText := "", description := "Remove unused import" }]
     tier := .high, score := 90
     reasoning := "Unused imports can be safely removed"
     impact :=
       { linesChanged := 1, complexity := .low, breakingChange := false
         testingRequired := false, estimatedTime := "1 minute" }
     preview := some preview }]

/-- The provider. -/
def provider : Provider :=
  .forRule "UnusedImportsRefactoringProvider" info.id fun request => .given (advise request)

end ScriptAdvisor.UnusedImport
