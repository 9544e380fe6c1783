import ScriptAdvisor.Tree.Node

/-! # Walking a syntax tree

A syntax tree is walked in pre-order: a node before its children, the children field by field. The
place of a node in that order is its index, which names it.

* `Tree` is a syntax tree, `Tree.ofJson` builds it from a document.
* `Visit` is one step of a walk; `Node.walk` numbers a subtree, `Tree.visits` the whole tree.
* `ofKinds`, `calls`, `callsOf` and `loops` pick steps of a walk. -/

namespace ScriptAdvisor

/-- One step of a walk. -/
structure Visit where
  /-- The place of the node in the pre-order of the tree. -/
  index : Nat
  /-- The node. -/
  node : Node
  /-- The index of the enclosing node; none where the walk started. -/
  parent : Option Nat
  deriving Inhabited

/-- Walk the nodes of a stack, each with its parent, the top first. `index` is that of the next
node. Every step replaces the top by its children. -/
def walkStack (index : Nat) : List (Node × Option Nat) → List Visit
  | [] => []
  | (node, parent) :: stack =>
    ⟨index, node, parent⟩ ::
      walkStack (index + 1) (node.children.map (fun child => (child, some index)) ++ stack)
termination_by stack => Node.countAll (stack.map fun entry => entry.1)
decreasing_by
  simp only [List.map_append, List.map_map, Function.comp_def, List.map_id', List.map_cons,
    Node.countAll_append, Node.countAll]
  have h := node.count_eq
  omega

/-- The walk of a subtree whose root has the index `index`. -/
def Node.walk (node : Node) (index : Nat) : List Visit := walkStack index [(node, none)]

/-- The walk of the subtree below a visited node. -/
def Visit.walk (visit : Visit) : List Visit := visit.node.walk visit.index

/-- A syntax tree. -/
structure Tree where
  /-- The outermost node. -/
  root : Node
  deriving Inhabited

/-- Why a document is not a syntax tree. -/
inductive TreeError where
  /-- The document is no object with a kind. -/
  | notANode
  /-- A location inside the document is unusable, or too much is nested in the document. -/
  | badLocation (fault : Fault)
  deriving DecidableEq, Repr, Inhabited

/-- The wording of the error. -/
def TreeError.message : TreeError → String
  | notANode => "Syntax tree root must be a mapping with a string 'type' key"
  | badLocation fault => fault.message

namespace Tree

/-- A program without statements. -/
def empty : Tree := ⟨.mk "Program" none [("body", .list [])]⟩

/-- The tree a document describes: an object with a kind, whose locations are all usable. As for
every value (`Node.convert`) three calls are needed to look at the document, of which two are still
under way while it is read. -/
def ofJson (document : Json) (calls : Nat := ({} : CallLimits).converting) :
    Except TreeError Tree :=
  if calls < 3 then .error (.badLocation Node.tooDeepToConvert)
  else
    match document.entries? with
    | none => .error .notANode
    | some entries =>
      match Node.kindOf? entries with
      | none => .error .notANode
      | some kind =>
        match Node.ofEntries (calls - 2) kind entries with
        | .error fault => .error (.badLocation fault)
        | .ok root => .ok ⟨root⟩

/-- The walk of the whole tree. -/
def visits (tree : Tree) : List Visit := tree.root.walk 0

/-- The number of nodes. -/
def size (tree : Tree) : Nat := tree.visits.length

end Tree

/-! ### Kinds of node -/

/-- The kinds of loop. -/
def loopKinds : List String :=
  ["ForStatement", "WhileStatement", "DoWhileStatement", "ForInStatement", "ForOfStatement"]

/-- The kinds of function. -/
def functionKinds : List String :=
  ["FunctionDeclaration", "FunctionExpression", "ArrowFunctionExpression"]

namespace Node

/-- Whether a node is a loop. -/
def isLoop (node : Node) : Bool := loopKinds.contains node.kind

/-- Whether a node is a call. -/
def isCall (node : Node) : Bool := node.kind == "CallExpression"

/-- The name a call is made by: that of the called identifier or of the called member. -/
def callName? (call : Node) : Option String :=
  (call.child? "callee").bind fun callee =>
    if callee.kind == "Identifier" then callee.name?
    else if callee.kind == "MemberExpression" then (callee.child? "property").bind Node.name?
    else none

/-- The receiver of a member call, if it is a plain identifier. -/
def callReceiver? (call : Node) : Option String :=
  (call.child? "callee").bind fun callee =>
    if callee.kind == "MemberExpression" then
      (callee.child? "object").bind fun receiver =>
        if receiver.kind == "Identifier" then receiver.name? else none
    else none

/-- Whether a call is that of a member. -/
def isMemberCall (call : Node) : Bool :=
  ((call.child? "callee").map fun callee => callee.kind == "MemberExpression").getD false

end Node

/-- The steps of a walk at nodes of the given kinds. -/
def ofKinds (kinds : List String) (walk : List Visit) : List Visit :=
  walk.filter fun visit => kinds.contains visit.node.kind

/-- The steps of a walk at calls. -/
def calls (walk : List Visit) : List Visit := walk.filter fun visit => visit.node.isCall

/-- The steps of a walk at calls by the given name. -/
def callsOf (name : String) (walk : List Visit) : List Visit :=
  walk.filter fun visit => visit.node.isCall && visit.node.callName? == some name

/-- The steps of a walk at loops. -/
def loops (walk : List Visit) : List Visit := ofKinds loopKinds walk

end ScriptAdvisor
