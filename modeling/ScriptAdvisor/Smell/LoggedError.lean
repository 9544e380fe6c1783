import ScriptAdvisor.Rule.Basic
import ScriptAdvisor.Suggestion.Provider
import ScriptAdvisor.Text.Search

/-! # Errors in the plain log

A message that speaks of an error belongs in the error log. Calls of `log` on `gs`, or on nothing
that is a plain identifier, are reported if their first argument is a literal text with an error
word in it, and `gs.error` is suggested instead. -/

namespace ScriptAdvisor.LoggedError

/-- The description of the rule. -/
def info : RuleInfo :=
  { id := "glide-log-for-errors"
    name := "Use gs.error for Errors"
    description := "Detects gs.log() usage for error messages"
    category := .bestPractice
    severity := .low
    language := .javascript
    tags := ["logging", "best-practice"] }

/-- What is reported. -/
def message : String := "Consider using gs.error() instead of gs.log() for error messages"

/-- The words that tell an error, in lower case. -/
def errorWords : List (List Char) := ["error".toList, "exception".toList, "fail".toList]

/-- Whether a character is the given lower-case letter in either case. The letter i also has a
dotless and a dotted form. -/
def isLetter (letter c : Char) : Bool :=
  c == letter || c == letter.toUpper || (letter == 'i' && (c == '\u0131' || c == '\u0130'))

/-- Whether a text starts with a word, in either case. -/
def startsWithWord : List Char → List Char → Bool
  | [], _ => true
  | _ :: _, [] => false
  | letter :: word, c :: text => isLetter letter c && startsWithWord word text

/-- Whether an error word stands somewhere in a text. -/
def speaksOfError : List Char → Bool
  | [] => false
  | c :: rest => errorWords.any (startsWithWord · (c :: rest)) || speaksOfError rest

/-- Whether a call is made on `gs`, or on nothing that is a plain identifier. -/
def isLogReceiver (call : Node) : Bool :=
  match call.callReceiver? with
  | none => true
  | some receiver => receiver == "gs"

/-- The first of the arguments, if there are any. Only lists and texts have a first item. -/
def firstItem? : Field → Except Fault (Option Field)
  | .list items => .ok items.head?
  | .leaf (.str text) => .ok (text.toList.head?.map fun c => .leaf (.str c.toString))
  | .leaf (.obj _) => .error (.noEntry 0)
  | value => .error (.notSubscriptable value.shape)

/-- The argument as a node. Only a node has both a value and a kind. -/
def argumentNode : Field → Except Fault Node
  | .node node => .ok node
  | .leaf (.obj _) => .error (.noMember .object "kind")
  | value => .error (.noMember value.shape "get")

/-- Whether a node is a literal text with an error word in it. -/
def isErrorLiteral (node : Node) : Bool :=
  node.kind == "Literal" &&
    (((node.get? "value").bind Field.text?).map fun text => speaksOfError text.toList).getD false

/-- Whether a call logs an error. -/
def logsError (call : Node) : Except Fault Bool :=
  match call.get? "arguments" with
  | none => .ok false
  | some arguments =>
    if arguments.isTruthy then do
      match ← firstItem? arguments with
      | none => return false
      | some argument => return isErrorLiteral (← argumentNode argument)
    else .ok false

/-- The calls among `visits` that log an error. -/
def loggedErrors : List Visit → Except Fault (List Visit)
  | [] => .ok []
  | visit :: rest => do
    let hit ← logsError visit.node
    let more ← loggedErrors rest
    return if hit then visit :: more else more

/-- The log calls of a tree that may log an error. -/
def logCalls (tree : Tree) : List Visit :=
  (callsOf "log" tree.visits).filter fun call => isLogReceiver call.node

/-- The calls that log an error. -/
def check (context : CheckContext) : Except Fault (List Violation) :=
  (loggedErrors (logCalls context.tree)).map fun visits => visits.map (info.violationAt message)

/-- The rule. -/
def rule : Rule := { info, check := fun context => .ofExcept (check context) }

/-- The example. -/
def preview : String :=
  "\n".intercalate
    ["// Before: Using gs.log for errors",
      "gs.log('ERROR: Failed to process record');",
      "gs.log('Exception occurred: ' + ex);",
      "",
      "// After: Using gs.error",
      "gs.error('Failed to process record');",
      "gs.error('Exception occurred: ' + ex);"]

/-- The text to replace. -/
def logText : String := "gs.log"

/-- The place of the log call in a line from `offset` on, `offset` itself if there is none. -/
def logPlace (line : List Char) (offset : Nat) : Nat :=
  (Text.findFrom? logText.toList line offset).getD offset

/-- The call of the error log. -/
def advise (request : AdviceRequest) : List Suggestion :=
  let start := logPlace request.line request.violation.offset
  [{ id := .fresh (info.id ++ "-to-error"), ruleId := info.id
     title := "Replace gs.log with gs.error"
     description := "Use gs.error() for error messages instead of gs.log()"
     edits :=
       [{ kind := .replace, startLine := request.violation.line, startColumn := start
          endLine := request.violation.line, endColumn := start + 6, oldText := logText
          newText := "gs.error", description := "Replace gs.log with gs.error" }]
     tier := .high, score := 95
     reasoning := "Simple string replacement for proper log level"
     impact :=
       { linesChanged := 1, complexity := .low, breakingChange := false
         testingRequired := false, estimatedTime := "1 minute" }
     preview := some preview }]

/-- The provider. -/
def provider : Provider :=
  .forRule "LogToErrorRefactoringProvider" info.id fun request => .given (advise request)

end ScriptAdvisor.LoggedError
