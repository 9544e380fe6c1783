import ScriptAdvisor.Fault

/-! # Locations

The stretch of the source that a node of a syntax tree covers. Lines are counted from one and
columns from zero; any integers are accepted. -/

namespace ScriptAdvisor

/-- The start and the end of a node in the source. -/
structure Location where
  /-- The line of the first character. -/
  startLine : Int
  /-- The column of the first character. -/
  startColumn : Int
  /-- The line of the last character. -/
  endLine : Int
  /-- The column behind the last character. -/
  endColumn : Int
  deriving DecidableEq, Repr, Inhabited

namespace Location

/-- The integer under `key`, or under nothing the value `default`. -/
def coordinate (entries : Entries Json) (key : String) (default : Json) : Except Fault Int :=
  ((Entries.get? entries key).getD default).toInt

/-- The object under `start`, empty if there is none. -/
def startEntries (raw : Entries Json) : Entries Json :=
  ((Entries.get? raw "start").bind Json.entries?).getD []

/-- The object under `end`, that under `start` if there is none. -/
def endEntries (raw : Entries Json) : Entries Json :=
  ((Entries.get? raw "end").bind Json.entries?).getD (startEntries raw)

/-- The location an object describes. A missing start is the first character of the source, and a
missing line of the end is that of the start. -/
def ofEntries (raw : Entries Json) : Except Fault Location := do
  let first := startEntries raw
  let last := endEntries raw
  let startLine ← coordinate first "line" (.int 1)
  let startColumn ← coordinate first "column" (.int 0)
  let endLine ← coordinate last "line" ((Entries.get? first "line").getD (.int 1))
  let endColumn ← coordinate last "column" (.int 0)
  return { startLine, startColumn, endLine, endColumn }

end Location

end ScriptAdvisor
