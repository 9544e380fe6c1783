import ScriptAdvisor.Rule.Basic
import ScriptAdvisor.Suggestion.Provider
import ScriptAdvisor.Text.Blank
import ScriptAdvisor.Text.Search
import ScriptAdvisor.Text.Word

/-! # The type `any`

An annotation with the type `any` switches type checking off. Every such annotation in the text of
the source is reported; `unknown` and an interface are suggested instead. -/

namespace ScriptAdvisor.AnyType

/-- The description of the rule. -/
def info : RuleInfo :=
  { id := "ts-no-any"
    name := "Avoid Any Type"
    description := "Detects usage of the any type which bypasses type checking"
    category := .bestPractice
    severity := .medium
    language := .typescript
    tags := ["types", "type-safety"] }

/-- What is reported. -/
def message : String :=
  "Avoid using \"any\" type. Use specific types or \"unknown\" instead."

/-- The word looked for. -/
def anyWord : List Char := "any".toList

/-- The length of the annotation a text starts with: a colon, blanks, and the word `any` that no
word character follows. -/
def annotationLength? : List Char → Option Nat
  | [] => none
  | c :: text =>
    if c = ':' then
      match Text.after? anyWord (text.dropWhile Text.isBlank) with
      | some rest => if Text.endsWord rest then some (text.length + 1 - rest.length) else none
      | none => none
    else none

/-- The findings on one line: the last three characters of every annotation. -/
def checkLine (line : List Char) (number : Nat) : List Violation :=
  (Text.spans annotationLength? 0 line).map fun span =>
    info.violationOn message number (span.stop - 3) span.stop

/-- The annotations with `any`, line by line. -/
def check (context : CheckContext) : List Violation :=
  ((Text.lines context.source.toList).zipIdx 1).flatMap fun (line, number) => checkLine line number

/-- The rule. -/
def rule : Rule := { info, check := fun context => .found (check context) }

/-- The example for `unknown`. -/
def unknownPreview : String :=
  "\n".intercalate
    ["// Before: Using any",
      r"function handleData(data: any): any {",
      "  return data.process();",
      r"}",
      "",
      "// After: Using unknown with type guard",
      r"function handleData(data: unknown): unknown {",
      r"  if (typeof data === 'object' && data !== null && 'process' in data) {",
      "    return (data as { process: () => unknown }).process();",
      r"  }",
      "  throw new Error('Invalid data');",
      r"}"]

/-- The example for an interface. -/
def interfacePreview : String :=
  "\n".intercalate
    ["// Before: Using any",
      r"function handleData(data: any): any {",
      "  return data.process();",
      r"}",
      "",
      "// After: Using specific interface",
      r"interface ProcessableData {",
      "  process(): Result;",
      r"}",
      "",
      r"function handleData(data: ProcessableData): Result {",
      "  return data.process();",
      r"}"]

/-- The edit that puts another type in place of `any`. -/
def replaceAny (request : AdviceRequest) (newText description : String) : Edit :=
  let start : Int := request.violation.offset
  { kind := .replace, startLine := request.violation.line, startColumn := start
    endLine := request.violation.line, endColumn := start + 3, oldText := "any", newText
    description }

/-- The type `unknown` and an interface. -/
def advise (request : AdviceRequest) : List Suggestion :=
  [{ id := .fresh (info.id ++ "-unknown"), ruleId := info.id
     title := "Replace any with unknown"
     description := "Use unknown type for truly unknown data with type guards"
     edits := [replaceAny request "unknown" "Replace any with unknown"]
     tier := .high, score := 85
     reasoning := "unknown is type-safe alternative to any"
     impact :=
       { linesChanged := 1, complexity := .low, breakingChange := true
         testingRequired := true, estimatedTime := "5 minutes" }
     preview := some unknownPreview },
   { id := .fresh (info.id ++ "-interface"), ruleId := info.id
     title := "Create specific interface"
     description := "Define a specific interface for the data structure"
     edits := [replaceAny request "DataType" "Replace any with specific interface"]
     tier := .medium, score := 70
     reasoning := "Specific types provide better type safety"
     impact :=
       { linesChanged := 5, complexity := .medium, breakingChange := false
         testingRequired := true, estimatedTime := "10 minutes" }
     preview := some interfacePreview }]

/-- The provider. -/
def provider : Provider :=
  .forRule "NoAnyRefactoringProvider" info.id fun request => .given (advise request)

end ScriptAdvisor.AnyType
