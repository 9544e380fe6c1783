import ScriptAdvisor.Json.Display
import ScriptAdvisor.Language
import ScriptAdvisor.Tree.Walk

/-! # Parse results

A source file together with its syntax tree and the errors of the parser. The tree comes as a
document: an object that is the tree itself, or that holds it under `ast` beside a list of
`errors`.

* `ParseResult` is the result, `ParseResult.ofDocument` builds it.
* A document that is no tree yields the empty tree and an error, also if it is none because too much
  is nested in it. What stops the reading is an infinite number in a location or in an error
  (`Fault.isContained`), and an error whose message cannot be written out (`Json.display`). -/

namespace ScriptAdvisor

/-- A diagnostic of the parser. The line is counted from one, the column from zero. -/
structure ParseError where
  /-- What is wrong. -/
  message : String
  /-- The line. -/
  line : Int := 1
  /-- The column. -/
  column : Int := 0
  /-- The place in the text, if known. -/
  index : Option Int := none
  deriving DecidableEq, Repr, Inhabited

/-- A parsed source file. -/
structure ParseResult where
  /-- The syntax tree, if there is one. -/
  tree : Option Tree
  /-- The text of the file. -/
  source : String
  /-- The name of the file. -/
  fileName : String
  /-- The language of the file, if known. -/
  language : Option Language
  /-- The diagnostics of the parser. -/
  errors : List ParseError
  deriving Inhabited

/-- Whether reading a document goes on after a fault: all but an infinity are contained. -/
def Fault.isContained : Fault → Bool
  | .infinityToInteger => false
  | _ => true

/-- The fault by which the reading of a document stops, if it stops for what is wrong with the
tree. -/
def TreeError.escape? : TreeError → Option Fault
  | notANode => none
  | badLocation fault => if fault.isContained then none else some fault

namespace ParseError

/-- The integer in an entry of an error. Truth values, missing entries and values that are no
integers give nothing. -/
def coordinate? : Option Json → Except Fault (Option Int)
  | none => .ok none
  | some (.bool _) => .ok none
  | some value =>
    match value.toInt with
    | .ok n => .ok (some n)
    | .error fault => if fault.isContained then .ok none else .error fault

/-- The value that an error has for a message. -/
def messageOf (raw : Entries Json) : Json :=
  (Entries.get? raw "message").getD (.str "Unknown parse error")

/-- The error an object describes. -/
def ofEntries (calls : Nat) (raw : Entries Json) : Except Fault ParseError := do
  let message ← (messageOf raw).display calls
  let line ← coordinate? (Entries.get? raw "line")
  let column ← coordinate? (Entries.get? raw "column")
  let index ← coordinate? (Entries.get? raw "index")
  return { message, line := line.getD 1, column := column.getD 0, index }

end ParseError

namespace ParseResult

/-- Whether the parser complained. -/
def hasErrors (result : ParseResult) : Bool := !result.errors.isEmpty

/-- The result for a source whose tree is `tree`; the language is that of the file name. -/
def make (tree : Tree) (source fileName : String) (errors : List ParseError) : ParseResult :=
  { tree := some tree, source, fileName, language := some (.ofFileName fileName), errors }

/-- The result for a source without a usable tree. -/
def failed (source fileName : String) (error : ParseError) : ParseResult :=
  make .empty source fileName [error]

/-- The errors a document lists. Items that are no objects are passed over. -/
def listedErrors (calls : Nat) (document : Entries Json) : Except Fault (List ParseError) :=
  match Entries.get? document "errors" with
  | some (.arr items) => (items.filterMap Json.entries?).mapM (ParseError.ofEntries calls)
  | _ => .ok []

/-- The result a document describes. A tree in which too much is nested is an error like others. -/
def ofDocument (document : Json) (source fileName : String) (limits : CallLimits := {}) :
    Except Fault ParseResult :=
  match document.entries? with
  | none =>
    .ok (failed source fileName { message := "Syntax tree document must be a JSON object" })
  | some entries => do
    let errors ← listedErrors limits.writing entries
    match Tree.ofJson ((Entries.get? entries "ast").getD document) limits.converting with
    | .ok tree => return make tree source fileName errors
    | .error error =>
      match error.escape? with
      | some fault => .error fault
      | none =>
        let invalid : ParseError := { message := "Invalid syntax tree: " ++ error.message }
        return make .empty source fileName (errors ++ [invalid])

end ParseResult

end ScriptAdvisor
