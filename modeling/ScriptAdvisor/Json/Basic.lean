import ScriptAdvisor.Entries
import ScriptAdvisor.Number.Double
import ScriptAdvisor.Text.Quoted

/-! # JSON values

The values a JSON text denotes. Integers are unbounded and kept apart from doubles, and an object
keeps the order of its entries.

* `Json` is the type, `Json.get?` the look-up by key.
* `Shape` names the kind of a value in messages.
* `Json.isTruthy` tells the values that count as present from those that count as empty. -/

namespace ScriptAdvisor

/-- A JSON value. -/
inductive Json where
  /-- The null value. -/
  | null
  /-- A truth value. -/
  | bool (value : Bool)
  /-- A number written without point and exponent. -/
  | int (value : Int)
  /-- A number written with a point or an exponent. -/
  | float (value : Double)
  /-- A text. -/
  | str (value : String)
  /-- A list. -/
  | arr (items : List Json)
  /-- An object, its entries in order. -/
  | obj (entries : List (String × Json))
  deriving Repr, Inhabited

/-- The kinds of value that messages tell apart. -/
inductive Shape where
  /-- The null value. -/
  | null
  /-- A truth value. -/
  | bool
  /-- An integer. -/
  | int
  /-- A double. -/
  | float
  /-- A text. -/
  | str
  /-- A list. -/
  | list
  /-- An object that is not a node of a syntax tree. -/
  | object
  /-- A node of a syntax tree. -/
  | node
  /-- Bytes. -/
  | bytes
  /-- A day. -/
  | date
  /-- A time on a day. -/
  | moment
  /-- A pair. -/
  | pair
  /-- A set. -/
  | set
  deriving DecidableEq, Repr, Inhabited

/-- The name of a kind of value in messages. -/
def Shape.name : Shape → String
  | null => "NoneType"
  | bool => "bool"
  | int => "int"
  | float => "float"
  | str => "str"
  | list => "list"
  | object => "dict"
  | node => "Node"
  | bytes => "bytes"
  | date => "datetime.date"
  | moment => "datetime.datetime"
  | pair => "tuple"
  | set => "set"

/-- The name of a kind without what stands before its point. -/
def Shape.typeName (shape : Shape) : String :=
  (shape.name.splitOn ".").getLastD shape.name

namespace Json

/-- The kind of a JSON value. -/
def shape : Json → Shape
  | null => .null
  | bool _ => .bool
  | int _ => .int
  | float _ => .float
  | str _ => .str
  | arr _ => .list
  | obj _ => .object

/-- The entries of an object. -/
def entries? : Json → Option (List (String × Json))
  | obj entries => some entries
  | _ => none

/-- The entry of an object under `key`; other values have none. -/
def get? (value : Json) (key : String) : Option Json :=
  value.entries?.bind (Entries.get? · key)

/-- The text, if the value is one. -/
def text? : Json → Option String
  | str text => some text
  | _ => none

/-- Whether a value counts as present: not null, not false, not zero and not empty. -/
def isTruthy : Json → Bool
  | null => false
  | bool value => value
  | int value => value != 0
  | float value => !value.isZero
  | str value => !value.isEmpty
  | arr items => !items.isEmpty
  | obj entries => !entries.isEmpty

end Json

end ScriptAdvisor
