import ScriptAdvisor.Rule.Basic
import ScriptAdvisor.Text.Utf8

/-! # Checking settings

Settings come from a YAML value. Every part of it is checked, so that one reading reports all
problems, in the order of the settings.

* `Problem` is a complaint about a value at a place; `Complaint.kind` and `Complaint.message` name
  it, `Problem.text` words it all.
* `Checked` is a value or the problems that stand in its way; `Checked.both` and `Checked.all` bring
  the problems of several parts together.
* `checkInt`, `checkBool`, `checkText`, `checkSeverity`, `checkList` and `checkMap` read the kinds
  of setting. Texts may stand for integers and truth values, and bytes for texts. -/

namespace ScriptAdvisor

/-- One step on the way to a part of the settings. -/
inductive Step where
  /-- To the entry with this key. -/
  | key (name : String)
  /-- To the item at this place, or to the entry with this integer as its key. -/
  | index (place : Int)
  deriving DecidableEq, Repr, Inhabited

/-- What can be wrong with a setting. -/
inductive Complaint where
  /-- A section is no mapping. -/
  | notASection (name : String)
  /-- A list is expected. -/
  | notAList
  /-- A mapping is expected. -/
  | notAMapping
  /-- A text is expected. -/
  | notAText
  /-- The bytes are no text. -/
  | undecodable
  /-- The name of a severity is expected. -/
  | notASeverity
  /-- An integer is expected. -/
  | notAnInteger
  /-- The text does not denote an integer. -/
  | unreadableInteger
  /-- The double has a fraction. -/
  | fractional
  /-- The double is infinite or not a number. -/
  | notFinite
  /-- The double is too large. -/
  | tooLarge
  /-- A truth value is expected. -/
  | notABool
  /-- The text or the number does not denote a truth value. -/
  | unreadableBool
  /-- The number must be greater. -/
  | notAbove (bound : Int)
  /-- The number must not be smaller. -/
  | below (bound : Int)
  /-- The number must not be greater. -/
  | beyond (bound : Int)
  deriving DecidableEq, Repr, Inhabited

namespace Complaint

/-- The name of a complaint. -/
def kind : Complaint → String
  | notASection _ => "model_type"
  | notAList => "list_type"
  | notAMapping => "dict_type"
  | notAText => "string_type"
  | undecodable => "string_unicode"
  | notASeverity => "enum"
  | notAnInteger => "int_type"
  | unreadableInteger => "int_parsing"
  | fractional => "int_from_float"
  | notFinite => "finite_number"
  | tooLarge => "int_parsing_size"
  | notABool => "bool_type"
  | unreadableBool => "bool_parsing"
  | notAbove _ => "greater_than"
  | below _ => "greater_than_equal"
  | beyond _ => "less_than_equal"

/-- The wording of a complaint. -/
def message : Complaint → String
  | notASection name => "Input should be a valid dictionary or instance of " ++ name
  | notAList => "Input should be a valid list"
  | notAMapping => "Input should be a valid dictionary"
  | notAText => "Input should be a valid string"
  | undecodable =>
    "Input should be a valid string, unable to parse raw data as a unicode string"
  | notASeverity => "Input should be 'low', 'medium', 'high' or 'critical'"
  | notAnInteger => "Input should be a valid integer"
  | unreadableInteger => "Input should be a valid integer, unable to parse string as an integer"
  | fractional => "Input should be a valid integer, got a number with a fractional part"
  | notFinite => "Input should be a finite number"
  | tooLarge => "Unable to parse input string as an integer, exceeded maximum size"
  | notABool => "Input should be a valid boolean"
  | unreadableBool => "Input should be a valid boolean, unable to interpret input"
  | notAbove bound => s!"Input should be greater than {bound}"
  | below bound => s!"Input should be greater than or equal to {bound}"
  | beyond bound => s!"Input should be less than or equal to {bound}"

end Complaint

open Yaml (Value)

/-- A complaint about a value and the place of that value. -/
structure Problem where
  /-- The steps to the place, the outermost first. -/
  place : List Step
  /-- What is wrong there. -/
  complaint : Complaint
  /-- The value there. -/
  input : Value
  deriving Repr, Inhabited

/-- The text of a step. A name with points in it is set off by marks. -/
def Step.text : Step → String
  | key name => if name.contains '.' then s!"`{name}`" else name
  | index place => toString place

/-- The longest start of a text that takes at most so many bytes. -/
def takeBytes (bytes : Nat) : List Char → List Char
  | [] => []
  | c :: rest => if c.utf8Size ≤ bytes then c :: takeBytes (bytes - c.utf8Size) rest else []

/-- A text without its middle, if it takes more than fifty bytes. -/
def shortened (text : String) : String :=
  if text.utf8ByteSize ≤ 50 then text
  else
    String.ofList (takeBytes 25 text.toList ++ "...".toList
      ++ (takeBytes 24 text.toList.reverse).reverse)

/-- The text of a problem: its place, the steps divided by points, and below it the complaint with
the value that gave rise to it. -/
def Problem.text (problem : Problem) : String :=
  ".".intercalate (problem.place.map Step.text) ++ "\n  " ++ problem.complaint.message
    ++ s!" [type={problem.complaint.kind}, input_value=" ++ shortened problem.input.shown
    ++ s!", input_type={problem.input.shape.typeName}]"

/-- A value, or the problems that stand in its way. -/
abbrev Checked (α : Type) := Except (List Problem) α

namespace Checked

variable {α β : Type}

/-- The value is refused. -/
def refuse (input : Value) (complaint : Complaint) : Checked α := .error [⟨[], complaint, input⟩]

/-- The problems of a part, seen from the whole. -/
def under (step : Step) (part : Checked α) : Checked α :=
  part.mapError fun problems => problems.map fun problem =>
    { problem with place := step :: problem.place }

/-- Two values, or the problems of both. -/
def both (first : Checked α) (second : Checked β) : Checked (α × β) :=
  match first, second with
  | .ok a, .ok b => .ok (a, b)
  | .ok _, .error problems => .error problems
  | .error problems, .ok _ => .error problems
  | .error problems, .error more => .error (problems ++ more)

/-- All values of a list, or the problems of all. -/
def all : List (Checked α) → Checked (List α)
  | [] => .ok []
  | first :: rest => (both first (all rest)).map fun (value, values) => value :: values

end Checked

/-- Doubles from `2 ^ 63` on do not count as integers. -/
def doubleBound : Int := 0x8000000000000000

/-- The integer a double stands for, or the complaint about it. -/
def wholeOf (value : Double) : Except Complaint Int :=
  match value.truncate? with
  | none => .error .notFinite
  | some whole =>
    if !value.isWhole then .error .fractional
    else if -doubleBound < whole ∧ whole < doubleBound then .ok whole
    else .error .tooLarge

/-- The text a value is, if it is one: bytes are decoded. -/
def textOf? : Value → Option (Except Complaint String)
  | .str text => some (.ok text)
  | .bytes content =>
    some (match Text.decodeUtf8 content with
      | .ok text => .ok (String.ofList text)
      | .error _ => .error .undecodable)
  | _ => none

/-- The integer a text stands for, or the complaint about it. -/
def integerOf (text : String) : Except Complaint Int :=
  (Text.readPlainInt text).mapError fun
    | .malformed => .unreadableInteger
    | .tooLong _ => .tooLarge

/-- The integer a value stands for. -/
def checkInt (value : Value) : Checked Int :=
  match value, textOf? value with
  | .int number, _ => .ok number
  | .bool truth, _ => .ok (if truth then 1 else 0)
  | .float number, _ => (wholeOf number).mapError fun complaint => [⟨[], complaint, value⟩]
  | _, some (.ok text) => (integerOf text).mapError fun complaint => [⟨[], complaint, value⟩]
  | _, some (.error _) => .refuse value .unreadableInteger
  | _, none => .refuse value .notAnInteger

/-- An integer that must exceed a bound. -/
def checkAbove (bound : Int) (value : Value) : Checked Int :=
  checkInt value >>= fun n => if bound < n then .ok n else .refuse value (.notAbove bound)

/-- An integer that must not lie below a bound. -/
def checkAtLeast (bound : Int) (value : Value) : Checked Int :=
  checkInt value >>= fun n => if bound ≤ n then .ok n else .refuse value (.below bound)

/-- An integer that must lie between two bounds. -/
def checkBetween (low high : Int) (value : Value) : Checked Int :=
  checkAtLeast low value >>= fun n => if n ≤ high then .ok n else .refuse value (.beyond high)

/-- The texts for true, in lower case. -/
def yesWords : List String := ["1", "on", "t", "true", "y", "yes"]

/-- The texts for false, in lower case. -/
def noWords : List String := ["0", "off", "f", "false", "n", "no"]

/-- The truth value an integer stands for. -/
def bitOf? (number : Int) : Option Bool :=
  if number = 0 then some false else if number = 1 then some true else none

/-- The truth value a text stands for. The case of ASCII letters does not matter. -/
def truthOf? (text : String) : Option Bool :=
  if yesWords.contains text.toLower then some true
  else if noWords.contains text.toLower then some false
  else none

/-- The truth value a value stands for. -/
def checkBool (value : Value) : Checked Bool :=
  let readable (truth : Option Bool) : Checked Bool :=
    match truth with
    | some truth => .ok truth
    | none => .refuse value .unreadableBool
  match value, textOf? value with
  | .bool truth, _ => .ok truth
  | .int number, _ =>
    if -doubleBound ≤ number ∧ number < doubleBound then readable (bitOf? number)
    else .refuse value .notABool
  | .float number, _ =>
    match wholeOf number with
    | .ok whole => readable (bitOf? whole)
    | .error _ => .refuse value .notABool
  | _, some (.ok text) => readable (truthOf? text)
  | _, some (.error _) => .refuse value .unreadableBool
  | _, none => .refuse value .notABool

/-- The text a value is. -/
def checkText (value : Value) : Checked String :=
  match textOf? value with
  | some (.ok text) => .ok text
  | some (.error complaint) => .refuse value complaint
  | none => .refuse value .notAText

/-- The severity a value names. -/
def checkSeverity (value : Value) : Checked Severity :=
  match (textOf? value).map fun text => text.toOption.bind Severity.ofName? with
  | some (some severity) => .ok severity
  | _ => .refuse value .notASeverity

/-- A list whose items all pass a check. A set counts as the list of its members. -/
def checkList {α : Type} (check : Value → Checked α) (value : Value) : Checked (List α) :=
  let checkAll (items : List Value) : Checked (List α) :=
    .all (items.zipIdx.map fun (item, place) => (check item).under (.index place))
  match value with
  | .list items => checkAll items
  | .set members => checkAll members
  | _ => .refuse value .notAList

/-- The step to the entry with a key: integers stay integers, other keys are written out. -/
def stepTo : Value → Step
  | .str name => .key name
  | .bool truth => .index (if truth then 1 else 0)
  | .int number =>
    if -doubleBound ≤ number ∧ number < doubleBound then .index number else .key (toString number)
  | value => .key value.shown

/-- One entry of a mapping: a text as its key and a value that passes a check. -/
def checkEntry {α : Type} (check : Value → Checked α) (entry : Value × Value) :
    Checked (String × α) :=
  (Checked.both ((checkText entry.1).under (.key "[key]")) (check entry.2)).under (stepTo entry.1)

/-- A mapping with texts as keys whose values all pass a check. -/
def checkMap {α : Type} (check : Value → Checked α) (value : Value) : Checked (Entries α) :=
  match value with
  | .map entries => (Checked.all (entries.map (checkEntry check))).map Entries.ofList
  | _ => .refuse value .notAMapping

/-- The value under a key. -/
def valueUnder? (entries : List (Value × Value)) (name : String) : Option Value :=
  (entries.find? fun entry => entry.1 == .str name).map (·.2)

/-- The setting under a key, or its default if there is none. -/
def checkField {α : Type} (entries : List (Value × Value)) (name : String) (fallback : α)
    (check : Value → Checked α) : Checked α :=
  match valueUnder? entries name with
  | some value => (check value).under (.key name)
  | none => .ok fallback

/-- A section of the settings: a mapping whose unknown entries are passed over. -/
def checkSection {α : Type} (name : String) (check : List (Value × Value) → Checked α)
    (value : Value) : Checked α :=
  match value with
  | .map entries => check entries
  | _ => .refuse value (.notASection name)

end ScriptAdvisor
