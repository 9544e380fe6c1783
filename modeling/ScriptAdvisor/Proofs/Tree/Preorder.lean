import ScriptAdvisor.Proofs.Tree.Ancestors

/-! # The nodes of a tree in pre-order

A walk numbers the nodes of a tree. Where only the nodes matter and not their numbers, it is a
recursion over the children.

* `Node.preorder` lists the nodes of a subtree, by recursion on its fields. With `Node.preorder_eq`
  it is a recursion over the children, and a walk goes through these lists one after the other
  (`map_node_walkStack`, `Tree.map_node_visits`).
* `Tree.exists_visit_of_mem_children`: the children of a visited node are visited, and
  `Tree.parent_mem_children` says the same the other way round.
* `Node.Reaches` leads from a node to the nodes below it as long as the nodes on the way are open.
  `Tree.exists_visit_iff_reaches` ties it to the nodes around a node. -/

namespace ScriptAdvisor

/-! ## Lists of nodes -/

namespace Node

mutual

/-- The nodes of a subtree in pre-order: the node itself, then those below its fields. -/
def preorder : Node → List Node
  | mk kind loc fields => mk kind loc fields :: preorderOfFields fields

/-- The nodes below a list of fields, field by field. -/
def preorderOfFields : List (String × Field) → List Node
  | [] => []
  | (_, value) :: rest => preorderOfField value ++ preorderOfFields rest

/-- The nodes below one field. -/
def preorderOfField : Field → List Node
  | .node child => preorder child
  | .list items => preorderOfItems items
  | .leaf _ => []

/-- The nodes below the node items of a list. -/
def preorderOfItems : List Field → List Node
  | [] => []
  | .node child :: rest => preorder child ++ preorderOfItems rest
  | _ :: rest => preorderOfItems rest

end

theorem preorderOfItems_eq (items : List Field) :
    preorderOfItems items = (items.filterMap Field.node?).flatMap preorder := by
  induction items with
  | nil => simp [preorderOfItems]
  | cons item rest ih =>
      cases item <;> simp [preorderOfItems, List.filterMap_cons, Field.node?, ih]

theorem preorderOfField_eq (value : Field) :
    preorderOfField value = value.nodes.flatMap preorder := by
  cases value with
  | node child => rw [preorderOfField, Field.nodes, List.flatMap_singleton]
  | list items => rw [preorderOfField, Field.nodes, preorderOfItems_eq]
  | leaf value => rw [preorderOfField]; rfl

theorem preorderOfFields_eq (fields : List (String × Field)) :
    preorderOfFields fields
      = (fields.flatMap fun field => field.2.nodes).flatMap preorder := by
  induction fields with
  | nil => rw [preorderOfFields]; rfl
  | cons field rest ih =>
      rw [preorderOfFields, ih, preorderOfField_eq, List.flatMap_cons, List.flatMap_append]

/-- A node comes first, then the nodes below its children. -/
theorem preorder_eq (node : Node) :
    node.preorder = node :: node.children.flatMap preorder := by
  cases node with
  | mk kind loc fields => rw [preorder, preorderOfFields_eq]; rfl

end Node

/-- A walk goes through the entries of the stack one after the other, and through the nodes of each
in pre-order. -/
theorem map_node_walkStack (index : Nat) (stack : List (Node × Option Nat)) :
    (walkStack index stack).map (·.node) = stack.flatMap fun entry => entry.1.preorder := by
  fun_induction walkStack index stack with
  | case1 => rfl
  | case2 index node parent stack ih =>
      -- the children of the node stand on top of the stack
      rw [List.map_cons, ih, List.flatMap_append, List.flatMap_map, List.flatMap_cons,
        node.preorder_eq, List.cons_append]

theorem Tree.map_node_visits (tree : Tree) :
    tree.visits.map (·.node) = tree.root.preorder := by
  rw [visits, Node.walk, map_node_walkStack, List.flatMap_singleton]

/-- What some step of a walk is at is some node of the tree. -/
theorem Tree.exists_visit_iff {tree : Tree} {holds : Node → Prop} :
    (∃ visit ∈ tree.visits, holds visit.node) ↔ ∃ node ∈ tree.root.preorder, holds node := by
  simp only [← map_node_visits, List.mem_map, exists_exists_and_eq_and]

/-- A walk has as many steps as there are nodes. -/
theorem length_walkStack (index : Nat) (stack : List (Node × Option Nat)) :
    (walkStack index stack).length = Node.countAll (stack.map (·.1)) := by
  fun_induction walkStack index stack with
  | case1 => rfl
  | case2 index node parent stack ih =>
      have hcount := node.count_eq
      have hchildren : (node.children.map fun child => (child, some index)).map (·.1)
          = node.children := by
        rw [List.map_map]
        exact List.map_id _
      simp only [List.length_cons, ih, List.map_append, hchildren, Node.countAll_append,
        List.map_cons, Node.countAll]
      omega

/-! ## Children -/

/-- All entries that a walk starts with are visited. -/
theorem exists_visit_of_mem_stack {index : Nat} {stack : List (Node × Option Nat)}
    {entry : Node × Option Nat} (h : entry ∈ stack) :
    ∃ visit ∈ walkStack index stack, visit.node = entry.1 ∧ visit.parent = entry.2 := by
  fun_induction walkStack index stack with
  | case1 => exact absurd h List.not_mem_nil
  | case2 index node parent stack ih =>
      rcases List.mem_cons.mp h with rfl | h
      · exact ⟨_, List.mem_cons_self, rfl, rfl⟩
      · obtain ⟨visit, hvisit, heq⟩ := ih (List.mem_append_right _ h)
        exact ⟨visit, List.mem_cons_of_mem _ hvisit, heq⟩

namespace Tree

variable {tree : Tree} {visit outer : Visit}

theorem exists_visit_of_mem_children (houter : outer ∈ tree.visits) {child : Node}
    (hchild : child ∈ outer.node.children) :
    ∃ visit ∈ tree.visits, visit.node = child ∧ visit.parent = some outer.index := by
  have hentry : (child, some outer.index)
      ∈ outer.node.children.map fun child => (child, some outer.index) :=
    List.mem_map_of_mem hchild
  obtain ⟨visit, hvisit, heq⟩ := exists_visit_of_mem_stack hentry
  exact ⟨visit, mem_visits_of_mem_below houter hvisit, heq⟩

/-- A step is at the root, or at a child of the node around it. -/
theorem parent_mem_children (h : visit ∈ tree.visits) :
    (visit.node = tree.root ∧ visit.parent = none)
      ∨ ∃ outer ∈ tree.visits, visit.parent = some outer.index
          ∧ visit.node ∈ outer.node.children ∧ outer.index < visit.index := by
  rcases origin_of_mem_walkStack h with hentry | houter
  · exact .inl (Prod.mk.inj (List.mem_singleton.mp hentry))
  · exact .inr houter

theorem exists_visit_root (tree : Tree) :
    ∃ visit ∈ tree.visits, visit.node = tree.root ∧ visit.parent = none :=
  exists_visit_of_mem_stack (List.mem_singleton_self _)

end Tree

/-! ## The nodes that are reached -/

/-- A node is a child of another that is open. -/
def Node.IsOpenChild (isOpen : Node → Prop) (outer inner : Node) : Prop :=
  isOpen outer ∧ inner ∈ outer.children

/-- A node is reached from another through nodes that are open, itself one or not. -/
def Node.Reaches (isOpen : Node → Prop) : Node → Node → Prop :=
  Relation.ReflTransGen (Node.IsOpenChild isOpen)

/-- The nodes that are reached from the root are those with none but open nodes around them. -/
theorem Tree.exists_visit_iff_reaches {tree : Tree} {isOpen : Node → Prop} {node : Node} :
    (∃ visit ∈ tree.visits, visit.node = node ∧ ∀ outer ∈ tree.ancestors visit, isOpen outer.node)
      ↔ tree.root.Reaches isOpen node := by
  constructor
  · rintro ⟨visit, hvisit, rfl, hopen⟩
    -- the way down to a node is that to its parent and one step more
    induction hindex : visit.index using Nat.strong_induction_on generalizing visit with
    | _ index ih =>
        subst hindex
        rcases parent_mem_children hvisit with ⟨hroot, -⟩ | ⟨outer, houter, hparent, hchild, hlt⟩
        · rw [hroot]
          exact .refl
        · rw [ancestors_of_parent houter hparent, List.forall_mem_cons] at hopen
          exact (ih outer.index hlt outer houter hopen.2 rfl).tail ⟨hopen.1, hchild⟩
  · intro hreaches
    induction hreaches with
    | refl =>
        obtain ⟨visit, hvisit, hnode, hparent⟩ := tree.exists_visit_root
        refine ⟨visit, hvisit, hnode, ?_⟩
        rw [ancestors_of_root hparent]
        exact List.forall_mem_nil _
    | tail _ hstep ih =>
        obtain ⟨hopen, hchild⟩ := hstep
        obtain ⟨outer, houter, rfl, haround⟩ := ih
        obtain ⟨visit, hvisit, hnode, hparent⟩ := exists_visit_of_mem_children houter hchild
        refine ⟨visit, hvisit, hnode, ?_⟩
        rw [ancestors_of_parent houter hparent, List.forall_mem_cons]
        exact ⟨hopen, haround⟩

end ScriptAdvisor
