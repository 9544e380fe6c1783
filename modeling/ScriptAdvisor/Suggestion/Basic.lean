import ScriptAdvisor.Rule.Basic

/-! # Suggestions

A suggestion proposes edits that mend a violation. It carries an estimate of its impact, and a score
with the tier and the reasoning that go with it.

* `Edit` is a change to a stretch of the source, `EditKind` its kind.
* `Impact` estimates the consequences, `Tier` ranks the confidence.
* `Suggestion` brings them together. -/

namespace ScriptAdvisor

/-- The kinds of edit. -/
inductive EditKind where
  /-- Put other text in place of a stretch. -/
  | replace
  /-- Put text between two characters. -/
  | insert
  /-- Take a stretch away. -/
  | delete
  /-- Put a stretch elsewhere. -/
  | move
  /-- Give a stretch a name. -/
  | extract
  /-- Put a stretch in place of its name. -/
  | inline
  deriving DecidableEq, Repr, Inhabited

namespace EditKind

/-- Every kind of edit. -/
def all : List EditKind := [replace, insert, delete, move, extract, inline]

/-- The name of a kind. -/
def name : EditKind → String
  | replace => "replace"
  | insert => "insert"
  | delete => "delete"
  | move => "move"
  | extract => "extract"
  | inline => "inline"

/-- The kind of the given name. -/
def ofName? (name : String) : Option EditKind := all.find? (·.name == name)

end EditKind

/-- A change to a stretch of the source. Lines are counted from one, columns from zero. -/
structure Edit where
  /-- The kind of edit. -/
  kind : EditKind
  /-- The line of the first character. -/
  startLine : Int
  /-- The column of the first character. -/
  startColumn : Int
  /-- The line of the last character. -/
  endLine : Int
  /-- The column behind the last character. -/
  endColumn : Int
  /-- The text that stands there. -/
  oldText : String
  /-- The text to put there. -/
  newText : String
  /-- What the edit does. -/
  description : String
  deriving DecidableEq, Repr, Inhabited

/-- Whether an edit starts and ends on the same line. -/
def Edit.isSingleLine (edit : Edit) : Bool := edit.startLine == edit.endLine

/-- How sure a suggestion is. -/
inductive Tier where
  /-- Safe to apply. -/
  | high
  /-- Worth a look. -/
  | medium
  /-- Needs judgement. -/
  | low
  deriving DecidableEq, Repr, Inhabited

namespace Tier

/-- The name of a tier. -/
def name : Tier → String
  | high => "high"
  | medium => "medium"
  | low => "low"

/-- The tier of a score. -/
def ofScore (score : Int) : Tier :=
  if score ≥ 80 then high else if score ≥ 50 then medium else low

end Tier

/-- How much work a change is. -/
inductive Effort where
  /-- A trifle. -/
  | low
  /-- Some thought. -/
  | medium
  /-- A project. -/
  | high
  deriving DecidableEq, Repr, Inhabited

/-- The name of an effort. -/
def Effort.name : Effort → String
  | low => "low"
  | medium => "medium"
  | high => "high"

/-- The effort of the given name. -/
def Effort.ofName? (name : String) : Option Effort := [low, medium, high].find? (·.name == name)

/-- The expected consequences of a suggestion. -/
structure Impact where
  /-- How many lines change. -/
  linesChanged : Int
  /-- How much work it is. -/
  complexity : Effort
  /-- Whether callers may break. -/
  breakingChange : Bool
  /-- Whether the change needs testing. -/
  testingRequired : Bool
  /-- How long it takes. -/
  estimatedTime : String
  deriving DecidableEq, Repr, Inhabited

/-- The identifier of a suggestion. -/
inductive SuggestionId where
  /-- An identifier given from outside. -/
  | given (text : String)
  /-- An identifier that is made unique by a tail when it is written. -/
  | fresh (stem : String)
  deriving DecidableEq, Repr, Inhabited

/-- The text of an identifier, given the tail that makes it unique. -/
def SuggestionId.text (tail : String) : SuggestionId → String
  | given text => text
  | fresh stem => stem ++ "-" ++ tail

/-- A proposal to mend a violation. -/
structure Suggestion where
  /-- The identifier. -/
  id : SuggestionId
  /-- The rule whose violation it mends. -/
  ruleId : String
  /-- The title. -/
  title : String
  /-- What it does. -/
  description : String
  /-- The edits it consists of. -/
  edits : List Edit
  /-- How sure it is. -/
  tier : Tier
  /-- The score behind the tier. -/
  score : Int
  /-- Why it has that score. -/
  reasoning : String
  /-- Its consequences. -/
  impact : Impact
  /-- An example of code before and after. -/
  preview : Option String
  deriving DecidableEq, Repr, Inhabited

end ScriptAdvisor
