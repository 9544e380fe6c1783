import ScriptAdvisor.Fault

/-! # Values in messages

A value is written into a message as a text. An integer with too many digits cannot be written, nor
can a value in which too much is nested.

* `Json.display` is the text of a value standing alone, `Json.written` that of a value whose texts
  are quoted. -/

namespace ScriptAdvisor.Json

/-- The fault of writing a value in which too much is nested. -/
def tooDeepToWrite : Fault := .tooDeep "while getting the repr of an object"

/-- The digits of an integer, if they are not too many. -/
def intText (value : Int) : Except Fault String :=
  if Text.digitLimit < (Nat.toDigits 10 value.natAbs).length then .error (.tooManyDigits none)
  else .ok (toString value)

mutual

/-- The text of a value: texts are quoted. Each level of what is inside takes one of the calls. -/
def written (calls : Nat) : Json → Except Fault String
  | null => .ok "None"
  | bool value => .ok (if value then "True" else "False")
  | int value => intText value
  | float value => .ok value.text
  | str value => .ok (Text.quoted value)
  | arr items => do
    let texts ← writtenItems calls items
    return "[" ++ ", ".intercalate texts ++ "]"
  | obj entries => do
    let texts ← writtenEntries calls entries
    return r"{" ++ ", ".intercalate texts ++ r"}"

/-- The texts of the items of a list. -/
def writtenItems (calls : Nat) : List Json → Except Fault (List String)
  | [] => .ok []
  | item :: rest =>
    if calls = 0 then .error tooDeepToWrite
    else do
      let text ← written (calls - 1) item
      let texts ← writtenItems calls rest
      return text :: texts

/-- The texts of the entries of an object. -/
def writtenEntries (calls : Nat) : List (String × Json) → Except Fault (List String)
  | [] => .ok []
  | (key, value) :: rest =>
    if calls = 0 then .error tooDeepToWrite
    else do
      let text ← written (calls - 1) value
      let texts ← writtenEntries calls rest
      return (Text.quoted key ++ ": " ++ text) :: texts

end

/-- The text of a value standing alone: a text is itself. -/
def display (calls : Nat) : Json → Except Fault String
  | str value => .ok value
  | value => value.written calls

end ScriptAdvisor.Json
