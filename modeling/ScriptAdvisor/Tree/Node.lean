import ScriptAdvisor.Tree.Location

/-! # Nodes of a syntax tree

A node has a kind, perhaps a location, and fields in order. The value of a field is a node, a list
of such values, or a leaf: any JSON value that is neither.

* `Node`, `Field` are the types; `Node.get?`, `Node.child?` and `Node.children` reach into a node.
* `Node.count` is the number of nodes of a subtree, one more than that of its children together
  (`Node.count_eq`).
* `Node.ofEntries` builds a node from an object of a document, unless too much is nested there for
  the calls that are left. -/

namespace ScriptAdvisor

mutual

/-- A node of a syntax tree. -/
inductive Node where
  /-- A node with its kind, its location and its fields. -/
  | mk (kind : String) (loc : Option Location) (fields : List (String × Field))

/-- The value of a field of a node. -/
inductive Field where
  /-- A child node. -/
  | node (child : Node)
  /-- A list of values. -/
  | list (items : List Field)
  /-- A value that holds no node. -/
  | leaf (value : Json)

end

instance : Inhabited Node := ⟨.mk "" none []⟩
instance : Inhabited Field := ⟨.leaf .null⟩

namespace Field

/-- The kind of a value in messages. -/
def shape : Field → Shape
  | node _ => .node
  | list _ => .list
  | leaf value => value.shape

/-- Whether a value counts as present. Every node does. -/
def isTruthy : Field → Bool
  | node _ => true
  | list items => !items.isEmpty
  | leaf value => value.isTruthy

/-- The node, if the value is one. -/
def node? : Field → Option Node
  | node child => some child
  | _ => none

/-- The text, if the value is one. -/
def text? : Field → Option String
  | leaf (.str text) => some text
  | _ => none

/-- The nodes a value holds directly: itself, or the items of a list. -/
def nodes : Field → List Node
  | node child => [child]
  | list items => items.filterMap node?
  | leaf _ => []

end Field

namespace Node

/-- The kind of a node. -/
def kind : Node → String
  | mk kind _ _ => kind

/-- The location of a node. -/
def loc : Node → Option Location
  | mk _ loc _ => loc

/-- The fields of a node. -/
def fields : Node → Entries Field
  | mk _ _ fields => fields

/-- The value of the field `name`. -/
def get? (node : Node) (name : String) : Option Field := Entries.get? node.fields name

/-- The node in the field `name`. -/
def child? (node : Node) (name : String) : Option Node := (node.get? name).bind Field.node?

/-- The children of a node, field by field. -/
def children (node : Node) : List Node := node.fields.flatMap fun field => field.2.nodes

/-- The line a node starts on, the first if it has no location. -/
def line (node : Node) : Int := (node.loc.map (·.startLine)).getD 1

/-- The column a node starts at, the first if it has no location. -/
def column (node : Node) : Int := (node.loc.map (·.startColumn)).getD 0

/-- The text in the field `name`. -/
def name? (node : Node) : Option String := (node.get? "name").bind Field.text?

/-! ### Counting nodes -/

mutual

/-- The number of nodes of a subtree. -/
def count : Node → Nat
  | mk _ _ fields => countFields fields + 1

/-- The number of nodes below a list of fields. -/
def countFields : List (String × Field) → Nat
  | [] => 0
  | (_, value) :: rest => countField value + countFields rest

/-- The number of nodes below one field. -/
def countField : Field → Nat
  | .node child => count child
  | .list items => countItems items
  | .leaf _ => 0

/-- The number of nodes below the node items of a list. -/
def countItems : List Field → Nat
  | [] => 0
  | .node child :: rest => count child + countItems rest
  | _ :: rest => countItems rest

end

/-- The number of nodes of several subtrees. -/
def countAll : List Node → Nat
  | [] => 0
  | node :: rest => node.count + countAll rest

@[simp] theorem countAll_append (nodes rest : List Node) :
    countAll (nodes ++ rest) = countAll nodes + countAll rest := by
  induction nodes with
  | nil => simp [countAll]
  | cons node nodes ih => simp [countAll, ih, Nat.add_assoc]

theorem countItems_eq (items : List Field) :
    countItems items = countAll (items.filterMap Field.node?) := by
  induction items with
  | nil => simp [countItems, countAll]
  | cons item rest ih =>
      cases item <;> simp [countItems, List.filterMap_cons, Field.node?, countAll, ih]

theorem countField_eq (value : Field) : countField value = countAll value.nodes := by
  cases value <;> simp [countField, Field.nodes, countItems_eq, countAll]

theorem countFields_eq (fields : List (String × Field)) :
    countFields fields = countAll (fields.flatMap fun field => field.2.nodes) := by
  induction fields with
  | nil => simp [countFields, countAll]
  | cons field rest ih => obtain ⟨_, value⟩ := field; simp [countFields, countField_eq, ih]

/-- A subtree has one node more than the subtrees of its children. -/
theorem count_eq (node : Node) : node.count = countAll node.children + 1 := by
  cases node; simp [count, countFields_eq, children, fields]

/-! ### From documents -/

/-- The keys of a document that are not fields of a node. -/
def isReserved (key : String) : Bool := ["type", "loc", "range", "start", "end"].contains key

/-- The kind of the node an object describes; objects without one are not nodes. -/
def kindOf? (entries : Entries Json) : Option String :=
  (Entries.get? entries "type").bind Json.text?

/-- The fault of converting a document in which too much is nested. -/
def tooDeepToConvert : Fault := .tooDeep "in comparison"

/-- The location of the node an object describes. Reading it takes two calls. -/
def locationOf (calls : Nat) (entries : Entries Json) : Except Fault (Option Location) :=
  match (Entries.get? entries "loc").bind Json.entries? with
  | some raw => if calls < 2 then .error tooDeepToConvert else (Location.ofEntries raw).map some
  | none => .ok none

mutual

/-- The value of a field: objects with a kind become nodes, also inside lists. Other objects are
leaves, and nothing inside them is converted. Looking at a value takes three calls, of which two are
still under way while the items of a list, or the location and the fields of a node, are read. -/
def convert (calls : Nat) (value : Json) : Except Fault Field :=
  if calls < 3 then .error tooDeepToConvert
  else
    match value with
    | .obj entries =>
      match kindOf? entries with
      | some kind => do
        let loc ← locationOf (calls - 2) entries
        let fields ← convertEntries (calls - 2) entries
        return .node (mk kind loc fields)
      | none => .ok (.leaf (.obj entries))
    | .arr items => (convertItems (calls - 2) items).map .list
    | value => .ok (.leaf value)

/-- The items of a list, one after the other. -/
def convertItems (calls : Nat) : List Json → Except Fault (List Field)
  | [] => .ok []
  | item :: rest => do
    let item ← convert calls item
    let rest ← convertItems calls rest
    return item :: rest

/-- The fields of a node, one after the other. -/
def convertEntries (calls : Nat) : List (String × Json) → Except Fault (List (String × Field))
  | [] => .ok []
  | (key, value) :: rest =>
    if isReserved key then convertEntries calls rest
    else do
      let value ← convert calls value
      let rest ← convertEntries calls rest
      return (key, value) :: rest

end

/-- The node an object with a kind describes, with the calls that are left inside it. -/
def ofEntries (calls : Nat) (kind : String) (entries : Entries Json) : Except Fault Node := do
  let loc ← locationOf calls entries
  let fields ← convertEntries calls entries
  return mk kind loc fields

end Node

end ScriptAdvisor
