import ScriptAdvisor.Fault

/-! # Values of YAML

What the nodes of a YAML document denote. Beyond the values of JSON there are bytes, dates, pairs
and sets, and the keys of a mapping may be any scalars.

* `Yaml.Value` is the type.
* `Yaml.Value.toInt` reads a value as an integer.
* `Yaml.Value.shown` is the text of a value in messages.
* `Yaml.Value.ofJson` and `Yaml.Value.toJson` go between YAML and JSON values. -/

namespace ScriptAdvisor.Yaml

/-- A value of YAML. -/
inductive Value where
  /-- The null value. -/
  | null
  /-- A truth value. -/
  | bool (value : Bool)
  /-- An integer. -/
  | int (value : Int)
  /-- A double. -/
  | float (value : Double)
  /-- A text. -/
  | str (value : String)
  /-- Bytes. -/
  | bytes (content : List UInt8)
  /-- A day. -/
  | date (day : Date)
  /-- A time on a day. -/
  | moment (time : Moment)
  /-- A list. -/
  | list (items : List Value)
  /-- A pair. -/
  | pair (first second : Value)
  /-- A mapping, its entries in order. -/
  | map (entries : List (Value × Value))
  /-- A set, its members in order. -/
  | set (members : List Value)
  deriving Repr, Inhabited, BEq

namespace Value

/-- The kind of a value. -/
def shape : Value → Shape
  | null => .null
  | bool _ => .bool
  | int _ => .int
  | float _ => .float
  | str _ => .str
  | bytes _ => .bytes
  | date _ => .date
  | moment _ => .moment
  | list _ => .list
  | pair _ _ => .pair
  | map _ => .object
  | set _ => .set

/-- The name of the kind of a value in messages. -/
def kindName (value : Value) : String := value.shape.name

/-- Whether a value counts as present. -/
def isTruthy : Value → Bool
  | null => false
  | bool value => value
  | int value => value != 0
  | float value => !value.isZero
  | str value => !value.isEmpty
  | bytes content => !content.isEmpty
  | date _ => true
  | moment _ => true
  | list items => !items.isEmpty
  | pair _ _ => true
  | map entries => !entries.isEmpty
  | set members => !members.isEmpty

/-- The integer a value denotes: truth values are one and zero, doubles lose their fraction, texts
and bytes are read. -/
def toInt : Value → Except Fault Int
  | int value => .ok value
  | bool value => .ok (if value then 1 else 0)
  | float value => value.toInt
  | str text => Text.toInt text
  | bytes content =>
    (Text.readByteInt content).mapError fun
      | .malformed => .badBytes content
      | .tooLong count => .tooManyDigits (some count)
  | value => .error (.notConvertible value.shape)

/-! ### Keys -/

/-- A value as it is compared with other keys: truth values and whole doubles are integers. -/
def keyForm : Value → Value
  | bool value => int (if value then 1 else 0)
  | float value => if value.isWhole then int (value.truncate?.getD 0) else float value
  | value => value

/-- Entries with one more, which replaces that with an equal key. -/
def putEntry (entries : List (Value × Value)) (key value : Value) : List (Value × Value) :=
  match entries with
  | [] => [(key, value)]
  | entry :: rest =>
    if keyForm entry.1 == keyForm key then (entry.1, value) :: rest
    else entry :: putEntry rest key value

/-- The mapping of pairs. Of equal keys the last one counts, at the place of the first. -/
def ofPairs (pairs : List (Value × Value)) : List (Value × Value) :=
  pairs.foldl (fun entries pair => putEntry entries pair.1 pair.2) []

/-! ### Texts -/

mutual

/-- A value as messages show it. -/
def shown : Value → String
  | null => "None"
  | bool value => if value then "True" else "False"
  | int value => toString value
  | float value => value.text
  | str value => Text.quoted value
  | bytes content => Text.quotedBytes content
  | date day => day.shown
  | moment time => time.shown
  | list items => "[" ++ ", ".intercalate (shownItems items) ++ "]"
  | pair first second => "(" ++ shown first ++ ", " ++ shown second ++ ")"
  | map entries => r"{" ++ ", ".intercalate (shownEntries entries) ++ r"}"
  | set members =>
    if members.isEmpty then "set()"
    else r"{" ++ ", ".intercalate (shownItems members) ++ r"}"

/-- The items of a list as messages show them. -/
def shownItems : List Value → List String
  | [] => []
  | item :: rest => shown item :: shownItems rest

/-- The entries of a mapping as messages show them. -/
def shownEntries : List (Value × Value) → List String
  | [] => []
  | (key, value) :: rest => (shown key ++ ": " ++ shown value) :: shownEntries rest

end

/-! ### JSON -/

mutual

/-- The YAML value that equals a JSON value. -/
def ofJson : Json → Value
  | .null => null
  | .bool value => bool value
  | .int value => int value
  | .float value => float value
  | .str value => str value
  | .arr items => list (ofJsonItems items)
  | .obj entries => map (ofJsonEntries entries)

/-- The items of a list. -/
def ofJsonItems : List Json → List Value
  | [] => []
  | item :: rest => ofJson item :: ofJsonItems rest

/-- The entries of an object. -/
def ofJsonEntries : List (String × Json) → List (Value × Value)
  | [] => []
  | (key, value) :: rest => (str key, ofJson value) :: ofJsonEntries rest

end

/-- A key as a text. -/
def keyText : Value → String
  | null => "null"
  | bool value => if value then "true" else "false"
  | str value => value
  | value => value.shown

mutual

/-- The JSON value that comes closest to a YAML value: keys become texts, pairs and sets lists, and
what JSON has no word for is written as messages show it. -/
def toJson : Value → Json
  | null => .null
  | bool value => .bool value
  | int value => .int value
  | float value => .float value
  | str value => .str value
  | bytes content => .str (Text.quotedBytes content)
  | date day => .str day.shown
  | moment time => .str time.shown
  | list items => .arr (toJsonItems items)
  | pair first second => .arr [toJson first, toJson second]
  | map entries => .obj (toJsonEntries entries)
  | set members => .arr (toJsonItems members)

/-- The items of a list. -/
def toJsonItems : List Value → List Json
  | [] => []
  | item :: rest => toJson item :: toJsonItems rest

/-- The entries of a mapping. -/
def toJsonEntries : List (Value × Value) → List (String × Json)
  | [] => []
  | (key, value) :: rest => (keyText key, toJson value) :: toJsonEntries rest

end

end Value

end ScriptAdvisor.Yaml
