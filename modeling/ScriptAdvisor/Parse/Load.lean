import ScriptAdvisor.FileTree
import ScriptAdvisor.Json.Reader
import ScriptAdvisor.Parse.Basic

/-! # Loading syntax trees

The syntax tree of a source file stands in a JSON document beside it, or at a path given for it. A
document that is missing, unreadable or malformed yields the empty tree and an error. What stops the
loading is an integer with too many digits, lists and objects nested too deeply to be read
(`ReadFault.escape?`), and whatever stops `ParseResult.ofDocument`. -/

namespace ScriptAdvisor

/-- What the document of `x.js` is called: `x.js.ast.json`. -/
def treeSuffix : String := ".ast.json"

/-- The fault by which the loading stops, if what is wrong with the text stops it. -/
def ReadFault.escape? : ReadFault → Option Fault
  | tooManyDigits count => some (.tooManyDigits (some count))
  | tooDeep bracket => some (.tooDeep (tooDeepActivity bracket))
  | _ => none

namespace ParseResult

/-- The result for a source text whose document is at `document`, or beside the source. -/
def load (files : FileTree) (document : Option Path) (source fileName : String)
    (limits : CallLimits := {}) : Except Fault ParseResult :=
  let path := document.getD (Path.ofString (fileName ++ treeSuffix))
  if files.isFile path then
    match files.readText path with
    | .error error =>
      .ok (failed source fileName { message := "Unreadable syntax tree: " ++ error.message })
    | .ok text =>
      match Json.parse text.toList limits.reading with
      | .error error =>
        match error.fault.escape? with
        | some fault => .error fault
        | none =>
          .ok (failed source fileName
            { message := "Malformed syntax tree: " ++ error.fault.message
              line := error.line, column := error.column, index := some error.index })
      | .ok document => ofDocument document source fileName limits
  else .ok (failed source fileName { message := "No syntax tree available for " ++ fileName })

/-- Why a source file cannot be loaded. -/
inductive LoadError where
  /-- The source cannot be read. -/
  | file (error : FileError)
  /-- The document stops the reading. -/
  | document (cause : Fault)
  deriving DecidableEq, Repr, Inhabited

/-- The wording of the error. -/
def LoadError.message : LoadError → String
  | file error => error.message
  | document cause => cause.message

/-- The result for a source file. -/
def loadFile (files : FileTree) (source : Path) (document : Option Path)
    (limits : CallLimits := {}) : Except LoadError ParseResult := do
  let text ← (files.readText source).mapError .file
  (load files document text source.text limits).mapError .document

end ParseResult

end ScriptAdvisor
