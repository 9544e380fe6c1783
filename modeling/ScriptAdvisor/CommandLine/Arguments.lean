import ScriptAdvisor.Entries
import ScriptAdvisor.Language
import ScriptAdvisor.Text.Integer

/-! # Arguments of the command line

A command is a word followed by options and arguments in any order. Long options start with two
dashes and take their value behind an equals sign or from the next word; short options start with
one dash and may be run together. Two dashes alone end the options. Of an option given twice the
last one counts.

* `OptionSpec` describes an option, `Arguments` is what a line of words holds.
* `Command` is a command with its options read, `Command.parse` reads it; `UsageError` says why that
  fails. -/

namespace ScriptAdvisor

/-- An option a command takes. -/
structure OptionSpec where
  /-- Its name. -/
  name : String
  /-- Its letter, if it has one. -/
  letter : Option Char := none
  /-- Whether it takes a value. -/
  takesValue : Bool := false
  deriving DecidableEq, Repr, Inhabited

/-- Why a line of words is no command. -/
inductive UsageError where
  /-- There is no command. -/
  | noCommand
  /-- There is no such command. -/
  | unknownCommand (name : String)
  /-- There is no such option. -/
  | unknownOption (name : String)
  /-- The option lacks its value. -/
  | missingValue (name : String)
  /-- The option takes no value. -/
  | unexpectedValue (name : String)
  /-- There is no file argument. -/
  | missingFile
  /-- There is an argument too many. -/
  | extraArgument (text : String)
  /-- The file argument does not lead to a file. -/
  | notAFile (text : String)
  /-- The value of an option is not accepted. -/
  | badValue (name text : String)
  deriving DecidableEq, Repr, Inhabited

/-- The wording of the error. -/
def UsageError.message : UsageError → String
  | noCommand => "Missing command."
  | unknownCommand name => s!"No such command '{name}'."
  | unknownOption name => s!"No such option: {name}"
  | missingValue name => s!"Option '{name}' requires an argument."
  | unexpectedValue name => s!"Option '{name}' does not take a value."
  | missingFile => "Missing argument 'FILE'."
  | extraArgument text => s!"Got unexpected extra argument ({text})"
  | notAFile text => s!"Invalid value for 'FILE': '{text}' is not a readable file."
  | badValue name text => s!"Invalid value for '{name}': '{text}'."

/-- The options and arguments of a line of words. -/
structure Arguments where
  /-- The values of the options, by name; that of a flag is empty. -/
  options : Entries String := []
  /-- The arguments in order. -/
  positional : List String := []
  deriving DecidableEq, Repr, Inhabited

namespace Arguments

/-- The arguments with an option set. -/
def withOption (arguments : Arguments) (name value : String) : Arguments :=
  { arguments with options := Entries.put arguments.options name value }

/-- The arguments with one more. -/
def withPositional (arguments : Arguments) (words : List String) : Arguments :=
  { arguments with positional := arguments.positional ++ words }

/-- What follows an option whose value is still to come: the value is the next word. -/
abbrev Awaiting := Option String

/-- A long option, its value behind an equals sign if there is one. -/
def readLong (specs : List OptionSpec) (arguments : Arguments) (word : List Char) :
    Except UsageError (Arguments × Awaiting) :=
  let name := String.ofList (word.takeWhile (· != '='))
  let value := word.dropWhile (· != '=')
  match specs.find? fun spec => spec.name == name with
  | none => .error (.unknownOption name)
  | some spec =>
    match spec.takesValue, value with
    | true, [] => .ok (arguments, some name)
    | true, _ :: value => .ok (arguments.withOption name (String.ofList value), none)
    | false, [] => .ok (arguments.withOption name "", none)
    | false, _ :: _ => .error (.unexpectedValue name)

/-- Short options run together. The one that takes a value takes the rest of the word. -/
def readShort (specs : List OptionSpec) (arguments : Arguments) :
    List Char → Except UsageError (Arguments × Awaiting)
  | [] => .ok (arguments, none)
  | letter :: rest =>
    match specs.find? fun spec => spec.letter == some letter with
    | none => .error (.unknownOption ("-" ++ letter.toString))
    | some spec =>
      if spec.takesValue then
        if rest.isEmpty then .ok (arguments, some spec.name)
        else .ok (arguments.withOption spec.name (String.ofList rest), none)
      else readShort specs (arguments.withOption spec.name "") rest

/-- The options and arguments of words, after those already read. -/
def readFrom (specs : List OptionSpec) (arguments : Arguments) :
    Awaiting → List String → Except UsageError Arguments
  | some name, [] => .error (.missingValue name)
  | some name, word :: rest => readFrom specs (arguments.withOption name word) none rest
  | none, [] => .ok arguments
  | none, word :: rest =>
    match word.toList with
    | ['-', '-'] => .ok (arguments.withPositional rest)
    | '-' :: '-' :: _ => do
      let (arguments, awaiting) ← readLong specs arguments word.toList
      readFrom specs arguments awaiting rest
    | '-' :: letter :: letters => do
      let (arguments, awaiting) ← readShort specs arguments (letter :: letters)
      readFrom specs arguments awaiting rest
    | _ => readFrom specs (arguments.withPositional [word]) none rest

/-- The options and arguments of words. -/
def read (specs : List OptionSpec) (words : List String) : Except UsageError Arguments :=
  readFrom specs {} none words

/-- The value of an option. -/
def value? (arguments : Arguments) (name : String) : Option String :=
  Entries.get? arguments.options name

/-- Whether an option is given. -/
def has (arguments : Arguments) (name : String) : Bool := (arguments.value? name).isSome

end Arguments

/-- The file a command works on, and what goes with it. -/
structure Target where
  /-- The file as it is given. -/
  given : String
  /-- The document with its syntax tree, if it is not beside the file. -/
  document : Option Path
  /-- The settings file, if it is given. -/
  config : Option Path
  deriving DecidableEq, Repr, Inhabited

/-- The path of the file. -/
def Target.path (target : Target) : Path := .ofString target.given

/-- The last name of the path. -/
def Target.name (target : Target) : String := target.path.name

/-- A command. -/
inductive Command where
  /-- Report the issues of a file. -/
  | analyze (target : Target) (format : String)
  /-- Show the suggestions for a file. -/
  | suggest (target : Target) (autoFixOnly : Bool)
  /-- Show what a suggestion would change. -/
  | compare (target : Target) (rule : Option String) (index : Int)
  /-- List the rules of the catalogue. -/
  | rules (language : Option Language)
  /-- Show how a command is used. -/
  | help
  deriving DecidableEq, Repr, Inhabited

namespace Command

/-- The option that every command takes. -/
def helpOption : OptionSpec := { name := "--help" }

/-- The options of the commands that work on a file. -/
def fileOptions : List OptionSpec :=
  [{ name := "--ast", letter := some 'a', takesValue := true },
    { name := "--config", letter := some 'c', takesValue := true },
    { name := "--verbose", letter := some 'v' }, { name := "--quiet", letter := some 'q' },
    helpOption]

/-- The options of the command that reports issues. -/
def analyzeOptions : List OptionSpec :=
  { name := "--format", letter := some 'f', takesValue := true } :: fileOptions

/-- The options of the command that shows suggestions. -/
def suggestOptions : List OptionSpec := { name := "--auto-fix-only" } :: fileOptions

/-- The options of the command that shows changes. -/
def compareOptions : List OptionSpec :=
  { name := "--rule", letter := some 'r', takesValue := true }
    :: { name := "--index", letter := some 'n', takesValue := true } :: fileOptions

/-- The options of the command that lists rules. -/
def rulesOptions : List OptionSpec :=
  [{ name := "--language", letter := some 'l', takesValue := true }, helpOption]

/-- The file of a command. -/
def target (arguments : Arguments) : Except UsageError Target :=
  match arguments.positional with
  | [] => .error .missingFile
  | [given] =>
    .ok
      { given, document := (arguments.value? "--ast").map Path.ofString
        config := (arguments.value? "--config").map Path.ofString }
  | _ :: extra :: _ => .error (.extraArgument extra)

/-- The number of a suggestion, the first unless it is given. -/
def index (arguments : Arguments) : Except UsageError Int :=
  match arguments.value? "--index" with
  | none => .ok 1
  | some text =>
    match Text.readPlainInt text with
    | .ok number => if number < 1 then .error (.badValue "--index" text) else .ok number
    | .error _ => .error (.badValue "--index" text)

/-- The language that is asked for. -/
def language? (arguments : Arguments) : Except UsageError (Option Language) :=
  match arguments.value? "--language" with
  | none => .ok none
  | some text =>
    match Language.ofName? text with
    | some language => .ok (some language)
    | none => .error (.badValue "--language" text)

/-- The command of the given options, or the help that is asked for instead. -/
def ofOptions (specs : List OptionSpec) (words : List String)
    (build : Arguments → Except UsageError Command) : Except UsageError Command := do
  let arguments ← Arguments.read specs words
  if arguments.has helpOption.name then return .help else build arguments

/-- The command `analyze`. -/
def ofAnalyze (arguments : Arguments) : Except UsageError Command := do
  return .analyze (← target arguments) ((arguments.value? "--format").getD "text")

/-- The command `suggest`. -/
def ofSuggest (arguments : Arguments) : Except UsageError Command := do
  return .suggest (← target arguments) (arguments.has "--auto-fix-only")

/-- The command `compare`. An empty rule is none. -/
def ofCompare (arguments : Arguments) : Except UsageError Command := do
  let index ← index arguments
  return .compare (← target arguments)
    ((arguments.value? "--rule").filter fun rule => !rule.isEmpty) index

/-- The command `rules`. -/
def ofRules (arguments : Arguments) : Except UsageError Command :=
  match arguments.positional with
  | extra :: _ => .error (.extraArgument extra)
  | [] => (language? arguments).map .rules

/-- The command a line of words denotes. Two dashes may stand in front of it. -/
def parse (words : List String) : Except UsageError Command :=
  match if words.head? == some "--" then words.tail else words with
  | [] => .error .noCommand
  | name :: words =>
    if name == "analyze" then ofOptions analyzeOptions words ofAnalyze
    else if name == "suggest" then ofOptions suggestOptions words ofSuggest
    else if name == "compare" then ofOptions compareOptions words ofCompare
    else if name == "rules" then ofOptions rulesOptions words ofRules
    else if name == helpOption.name then .ok .help
    else .error (.unknownCommand name)

end Command

end ScriptAdvisor
