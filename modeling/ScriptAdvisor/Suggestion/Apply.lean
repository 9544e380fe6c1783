import ScriptAdvisor.Suggestion.Basic
import ScriptAdvisor.Text.Lines
import ScriptAdvisor.Text.Slice

/-! # Applying edits

Edits are applied to the lines of a source from the bottom up, so that the line numbers of the edits
still to come stay valid. The lines of an edit are replaced by the text before its start, its new
text and the text behind its end.

* `Edit.applyTo` applies one edit, `applyEdits` all edits of a list.
* `EditError` says that an edit lies outside the source. -/

namespace ScriptAdvisor

/-- Why an edit cannot be applied. -/
inductive EditError where
  /-- Its lines are not among the lines of the source. -/
  | outside (startLine endLine : Int) (lineCount : Nat)
  deriving DecidableEq, Repr, Inhabited

/-- The wording of the error. -/
def EditError.message : EditError → String
  | outside startLine endLine lineCount =>
    s!"Transformation span {startLine}-{endLine} is outside the source ({lineCount} lines)"

namespace Edit

/-- Whether the lines of an edit are among `lineCount` lines. -/
def isInside (edit : Edit) (lineCount : Nat) : Bool :=
  1 ≤ edit.startLine && edit.startLine ≤ edit.endLine && edit.endLine ≤ lineCount

/-- The line with the given number, counted from one. -/
def lineAt (lines : List (List Char)) (number : Int) : List Char :=
  lines[(number - 1).toNat]?.getD []

/-- What an edit puts in place of its lines: the text before its start, its new text and the text
behind its end. -/
def merged (edit : Edit) (lines : List (List Char)) : List Char :=
  Slice.upTo (lineAt lines edit.startLine) edit.startColumn ++ edit.newText.toList
    ++ Slice.startingAt (lineAt lines edit.endLine) edit.endColumn

/-- The lines an edit puts in place of its own. A deletion that leaves nothing leaves no line. -/
def newLines (edit : Edit) (lines : List (List Char)) : List (List Char) :=
  if edit.kind = .delete ∧ edit.merged lines = [] then []
  else Text.splitNewlines (edit.merged lines)

/-- The lines of a source after an edit. -/
def applyTo (edit : Edit) (lines : List (List Char)) : Except EditError (List (List Char)) :=
  if edit.isInside lines.length then
    .ok (lines.take (edit.startLine - 1).toNat ++ edit.newLines lines
      ++ lines.drop edit.endLine.toNat)
  else .error (.outside edit.startLine edit.endLine lines.length)

/-- Whether an edit starts at or behind the start of another. -/
def startsNotBefore (edit other : Edit) : Bool :=
  other.startLine < edit.startLine
    || (other.startLine == edit.startLine && other.startColumn ≤ edit.startColumn)

/-- Edits from the last start to the first; those with the same start keep their order. -/
def bottomUp (edits : List Edit) : List Edit := edits.mergeSort startsNotBefore

/-- The lines of a source after edits, one after the other. -/
def applyInOrder (lines : List (List Char)) : List Edit → Except EditError (List (List Char))
  | [] => .ok lines
  | edit :: rest => do applyInOrder (← edit.applyTo lines) rest

end Edit

/-- The text after edits. -/
def applyEditsToText (text : List Char) (edits : List Edit) : Except EditError (List Char) :=
  (Edit.applyInOrder (Text.splitNewlines text) (Edit.bottomUp edits)).map Text.joinNewlines

/-- The source after edits. -/
def applyEdits (source : String) (edits : List Edit) : Except EditError String :=
  (applyEditsToText source.toList edits).map String.ofList

end ScriptAdvisor
