import ScriptAdvisor.Rule.Basic
import ScriptAdvisor.Suggestion.Provider
import ScriptAdvisor.Text.Blank
import ScriptAdvisor.Text.Search

/-! # Hardcoded addresses

Web and mail addresses in quotes belong in system properties. All web addresses of the source are
reported first, then all mail addresses, each line by line. -/

namespace ScriptAdvisor.HardcodedValue

/-- The description of the rule. -/
def info : RuleInfo :=
  { id := "glide-hardcoded-values"
    name := "Avoid Hardcoded Values"
    description := "Detects hardcoded values that should be system properties"
    category := .maintainability
    severity := .low
    language := .javascript
    tags := ["maintainability", "configuration"] }

/-- What is reported about an address of the given kind. -/
def message (kind : String) : String :=
  "Hardcoded " ++ kind ++ " detected. Consider using system properties."

/-- The quotes around a literal. -/
def isQuote (c : Char) : Bool := c == '\'' || c == '"'

/-- The characters of a name in a mail address. -/
def isAddressChar (c : Char) : Bool := !isQuote c && !Text.isBlank c

/-- The text behind `http://` or `https://`. -/
def afterScheme? (text : List Char) : Option (List Char) :=
  match Text.after? "http".toList text with
  | some ('s' :: rest) => Text.after? "://".toList rest
  | some rest => Text.after? "://".toList rest
  | none => none

/-- The length of the quoted web address a text starts with: a scheme, one or more characters that
are no quotes, and a quote. -/
def urlLength? : List Char → Option Nat
  | [] => none
  | quote :: text =>
    if isQuote quote then
      match afterScheme? text with
      | some rest =>
        match rest.takeWhile (!isQuote ·), rest.dropWhile (!isQuote ·) with
        | _ :: _, _ :: after => some (text.length + 1 - after.length)
        | _, _ => none
      | none => none
    else none

/-- Whether a dot stands between two other characters of a text. -/
def hasInnerDot (text : List Char) : Bool := (text.drop 1).dropLast.contains '.'

/-- The length of the quoted mail address a text starts with: characters of a name other than the
at sign, the at sign, characters of a name with a dot inside, and a quote. -/
def emailLength? : List Char → Option Nat
  | [] => none
  | quote :: text =>
    if isQuote quote then
      match text.dropWhile fun c => isAddressChar c && c != '@' with
      | '@' :: rest =>
        match rest.dropWhile isAddressChar with
        | closing :: after =>
          if isQuote closing && hasInnerDot (rest.takeWhile isAddressChar) then
            some (text.length + 1 - after.length)
          else none
        | [] => none
      | _ => none
    else none

/-- The findings of one kind, line by line. -/
def checkKind (kind : String) (pattern : List Char → Option Nat) (lines : List (List Char)) :
    List Violation :=
  (lines.zipIdx 1).flatMap fun (line, number) =>
    (Text.spans pattern 0 line).map fun span =>
      info.violationOn (message kind) number span.start span.stop

/-- The web addresses, then the mail addresses. -/
def check (context : CheckContext) : List Violation :=
  let lines := Text.lines context.source.toList
  checkKind "URL" urlLength? lines ++ checkKind "email" emailLength? lines

/-- The rule. -/
def rule : Rule := { info, check := fun context => .found (check context) }

/-- The example. -/
def preview : String :=
  "\n".intercalate
    ["// Before: Hardcoded values",
      "var apiUrl = 'https://api.example.com';",
      "var owner = 'admin@example.com';",
      "",
      "// After: System properties",
      "var apiUrl = gs.getProperty('x_app.config.url', 'https://api.example.com');",
      "var owner = gs.getProperty('x_app.config.email', 'admin@example.com');",
      "",
      "// Note: Create the system properties in the System Properties module."]

/-- The literal to move into a property; a stand-in if there is none. -/
def literalAt (request : AdviceRequest) (endColumn : Int) : String :=
  let line := request.violation.line
  let literal := request.spanText line request.violation.offset line endColumn
  if literal.isEmpty then "'hardcoded value'" else String.ofList literal

/-- The name of the property for a literal. -/
def propertyName (literal : String) : String :=
  if Text.contains "://".toList literal.toList then "url"
  else if Text.contains "@".toList literal.toList then "email"
  else "value"

/-- The look-up of the property, with the literal as its default. -/
def propertyLookup (literal : String) : String :=
  "gs.getProperty('x_app.config." ++ propertyName literal ++ "', " ++ literal ++ ")"

/-- The system property. -/
def advise (request : AdviceRequest) : List Suggestion :=
  let line := request.violation.line
  let endColumn := request.endColumnOn line
  let literal := literalAt request endColumn
  [{ id := .fresh (info.id ++ "-system-property"), ruleId := info.id
     title := "Replace hardcoded value with system property"
     description :=
       "Move hardcoded value to a system property for better configuration management"
     edits :=
       [{ kind := .replace, startLine := line, startColumn := request.violation.offset
          endLine := line, endColumn, oldText := literal, newText := propertyLookup literal
          description := "Replace with system property" }]
     tier := .medium, score := 70
     reasoning := "Requires creating a new system property and updating code"
     impact :=
       { linesChanged := 1, complexity := .low, breakingChange := false
         testingRequired := true, estimatedTime := "10 minutes" }
     preview := some preview }]

/-- The provider. -/
def provider : Provider :=
  .forRule "HardcodedValuesRefactoringProvider" info.id fun request => .given (advise request)

end ScriptAdvisor.HardcodedValue
