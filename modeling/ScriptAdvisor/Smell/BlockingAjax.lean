import ScriptAdvisor.Rule.Basic
import ScriptAdvisor.Suggestion.Provider
import ScriptAdvisor.Text.Blank
import ScriptAdvisor.Text.Search

/-! # Blocking server calls

`getXMLWait` blocks the page until the server answers. The first occurrence on each line of the
source is reported, and the call with a callback is suggested instead. -/

namespace ScriptAdvisor.BlockingAjax

/-- The description of the rule. -/
def info : RuleInfo :=
  { id := "glide-deprecated-ajax"
    name := "Deprecated GlideAjax Pattern"
    description := "Detects deprecated GlideAjax usage patterns"
    category := .deprecated
    severity := .medium
    language := .javascript
    tags := ["glideajax", "deprecated"] }

/-- What is reported. -/
def message : String := "getXMLWait() is deprecated. Use getXML() with callback instead."

/-- The name of the blocking call. -/
def callName : List Char := "getXMLWait".toList

/-- The finding on one line. -/
def checkLine (line : List Char) (number : Nat) : Option Violation :=
  (Text.find? callName line).map fun start =>
    info.violationOn message number start (start + callName.length)

/-- The first blocking call of every line. -/
def check (context : CheckContext) : List Violation :=
  ((Text.lines context.source.toList).zipIdx 1).filterMap fun (line, number) =>
    checkLine line number

/-- The rule. -/
def rule : Rule := { info, check := fun context => .found (check context) }

/-- The example. -/
def preview : String :=
  "\n".intercalate
    ["// Before: Synchronous (deprecated)",
      "var ga = new GlideAjax('MyScriptInclude');",
      "ga.addParam('sysparm_name', 'myFunction');",
      "var response = ga.getXMLWait();",
      "var answer = response.responseXML.documentElement.getAttribute('answer');",
      "processAnswer(answer);",
      "",
      "// After: Asynchronous",
      "var ga = new GlideAjax('MyScriptInclude');",
      "ga.addParam('sysparm_name', 'myFunction');",
      r"ga.getXML(function(response) {",
      "  var answer = response.responseXML.documentElement.getAttribute('answer');",
      "  processAnswer(answer);",
      r"});"]

/-- The length of a blocking call with its arguments, up to the first closing parenthesis, if the
text starts with one. -/
def callLength? (text : List Char) : Option Nat :=
  match Text.after? callName text with
  | none => none
  | some rest =>
    match rest.dropWhile Text.isBlank with
    | '(' :: rest =>
      match rest.dropWhile (· != ')') with
      | ')' :: rest => some (text.length - rest.length)
      | _ => none
    | _ => none

/-- The text that is replaced if the call is not found again. -/
def usualCall : String := "getXMLWait()"

/-- The places in a line that a search can start from lie below this bound. -/
def placeBound : Nat := 1 <<< 63

/-- The stretch of a line to replace and the text in it: the first call with arguments from `offset`
on, or else as many characters as the usual call has. -/
def target (line : List Char) (offset : Nat) : Text.Span × String :=
  match Text.search? callLength? offset (line.drop offset) with
  | some (start, length) =>
    (⟨start, start + length⟩, String.ofList ((line.drop start).take length))
  | none => (⟨offset, offset + usualCall.length⟩, usualCall)

/-- The call with a callback. -/
def advise (request : AdviceRequest) : Except Fault (List Suggestion) :=
  let offset := request.violation.offset
  if placeBound ≤ offset then .error .placeTooLarge
  else
    let (span, oldText) := target request.line offset
    .ok
      [{ id := .fresh (info.id ++ "-async"), ruleId := info.id
         title := "Replace getXMLWait with async getXML"
         description := "Convert synchronous GlideAjax call to asynchronous pattern"
         edits :=
           [{ kind := .replace, startLine := request.violation.line, startColumn := span.start
              endLine := request.violation.line, endColumn := span.stop, oldText
              newText := "getXML(callback)", description := "Replace with async getXML" }]
         tier := .high, score := 90
         reasoning :=
           "Direct replacement of deprecated synchronous method with async equivalent"
         impact :=
           { linesChanged := 5, complexity := .low, breakingChange := false
             testingRequired := true, estimatedTime := "5 minutes" }
         preview := some preview }]

/-- The provider. -/
def provider : Provider :=
  .forRule "DeprecatedGlideAjaxRefactoringProvider" info.id fun request =>
    match advise request with
    | .ok suggestions => .given suggestions
    | .error fault => .failed fault

end ScriptAdvisor.BlockingAjax
