import ScriptAdvisor.Proofs.Smell.Malformed
import ScriptAdvisor.Proofs.Tree.Change

/-! # Which imported names are mentioned

The rule numbers the nodes of all imports, looks for names at the nodes with other numbers, and
finds the specifiers of an import by counting. What it reports can be told without numbers.

* `UnusedImport.IsMentioned` says that a name is mentioned by a node that no import is around, and
  `UnusedImport.mem_usedNames_iff` that the rule looks for such names.
* `Tree.IsField` says that steps of a walk are at the nodes in a field, and
  `UnusedImport.isField_childrenIn` that these are the steps the rule counts out.
* `UnusedImport.check_eq_unused`: if the check comes to a result, it reports the names that imports
  introduce and nothing mentions, and what is put in outside the imports adds nothing to that. -/

namespace ScriptAdvisor

/-! ## Steps at the nodes in a field -/

theorem Entries.eq_takeWhile_append {α : Type _} {entries : Entries α} {key : String} {value : α}
    (h : get? entries key = some value) :
    ∃ rest, entries = (entries.takeWhile fun entry => entry.1 != key) ++ (key, value) :: rest := by
  induction entries with
  | nil => exact absurd h (by simp)
  | cons entry entries ih =>
      rw [get?_cons] at h
      by_cases hkey : entry.1 = key
      · rw [if_pos hkey] at h
        obtain rfl := Option.some.inj h
        subst hkey
        exact ⟨entries, by simp⟩
      · rw [if_neg hkey] at h
        obtain ⟨rest, hrest⟩ := ih h
        refine ⟨rest, ?_⟩
        rw [List.takeWhile_cons_of_pos (by simpa using hkey), List.cons_append, ← hrest]

/-- The nodes in the field `name`. -/
def Node.nodesIn (node : Node) (name : String) : List Node :=
  ((node.get? name).map Field.nodes).getD []

/-- Steps of the walk of a tree are those at the nodes in a field of a visited node, in order. -/
structure Tree.IsField (tree : Tree) (outer : Visit) (name : String) (steps : List Visit) :
    Prop where
  /-- They are at the nodes in that field. -/
  nodes : steps.map (·.node) = outer.node.nodesIn name
  /-- They come in the order of the walk. -/
  sublist : steps.Sublist tree.visits
  /-- They have the visited node around them. -/
  parent : ∀ visit ∈ steps, visit.parent = some outer.index

namespace UnusedImport

/-- Counting the nodes before each sibling gives the numbers of the walk. -/
theorem numberSiblings_sublist (parent index : Nat) (nodes : List Node) :
    (numberSiblings parent index nodes).Sublist
      (walkStack index (nodes.map fun node => (node, some parent))) := by
  induction nodes generalizing index with
  | nil =>
      rw [numberSiblings]
      exact List.nil_sublist _
  | cons node nodes ih =>
      have hlength : (walkStack index [(node, some parent)]).length = node.count := by
        rw [length_walkStack]
        rfl
      have hfirst : ⟨index, node, some parent⟩ ∈ walkStack index [(node, some parent)] := by
        rw [walkStack]
        exact List.mem_cons_self
      have hwalk := walkStack_append index [(node, some parent)]
        (nodes.map fun node => (node, some parent))
      rw [List.singleton_append, hlength] at hwalk
      rw [numberSiblings, List.map_cons, hwalk]
      exact (List.singleton_sublist.mpr hfirst).append (ih _)

theorem map_node_numberSiblings (parent index : Nat) (nodes : List Node) :
    (numberSiblings parent index nodes).map (·.node) = nodes := by
  induction nodes generalizing index with
  | nil => rfl
  | cons node nodes ih => rw [numberSiblings, List.map_cons, ih]

theorem parent_of_mem_numberSiblings {parent index : Nat} {nodes : List Node} {visit : Visit}
    (h : visit ∈ numberSiblings parent index nodes) : visit.parent = some parent := by
  induction nodes generalizing index with
  | nil => exact absurd h List.not_mem_nil
  | cons node nodes ih =>
      rcases List.mem_cons.mp h with rfl | h
      · rfl
      · exact ih h

/-- The steps that are counted out are among those below the node. -/
theorem childrenIn_sublist_below (outer : Visit) (name : String) :
    (childrenIn outer name).Sublist outer.below := by
  rw [childrenIn]
  cases hget : outer.node.get? name with
  | none => exact List.nil_sublist _
  | some value =>
      obtain ⟨rest, hfields⟩ := Entries.eq_takeWhile_append hget
      have hchildren : outer.node.children
          = nodesOf (outer.node.fields.takeWhile fun field => field.1 != name)
            ++ (value.nodes ++ nodesOf rest) := by
        rw [← nodesOf_append_cons _ _ name, ← hfields, Node.children_eq]
      -- the walk below goes through the fields before, this one, and the fields behind
      rw [Visit.below, hchildren, List.map_append, List.map_append, walkStack_append,
        walkStack_append, length_walkStack, Node.countFields_eq, List.map_map]
      refine List.Sublist.trans ?_ (List.sublist_append_right _ _)
      refine List.Sublist.trans ?_ (List.sublist_append_left _ _)
      have hsublist := numberSiblings_sublist outer.index
        (outer.index + 1 + Node.countAll (nodesOf
          (outer.node.fields.takeWhile fun field => field.1 != name))) value.nodes
      simpa [Function.comp_def, nodesOf] using hsublist

theorem isField_childrenIn {tree : Tree} {outer : Visit} (houter : outer ∈ tree.visits)
    (name : String) : tree.IsField outer name (childrenIn outer name) := by
  obtain ⟨before, behind, hsplit⟩ := Tree.exists_isSplit houter
  have hbelow : outer.below.Sublist tree.visits := by
    rw [hsplit.visits_eq]
    exact ((List.sublist_append_left _ _).cons _).trans (List.sublist_append_right _ _)
  exact
    { nodes := map_node_numberSiblings _ _ _
      sublist := (childrenIn_sublist_below outer name).trans hbelow
      parent := fun _ => parent_of_mem_numberSiblings }

/-! ## Names -/

/-- A name is mentioned: an identifier with no import around it has it. -/
def IsMentioned (tree : Tree) (name : String) : Prop :=
  ∃ visit ∈ tree.visits, visit.node.kind ∈ referenceKinds ∧ visit.node.name? = some name
    ∧ ∀ outer ∈ tree.ancestors visit, outer.node.kind ≠ "ImportDeclaration"

instance (tree : Tree) (name : String) : Decidable (IsMentioned tree name) :=
  inferInstanceAs (Decidable (∃ visit ∈ tree.visits, _))

theorem mem_imports_iff {tree : Tree} {visit : Visit} :
    visit ∈ imports tree ↔ visit ∈ tree.visits ∧ visit.node.kind = "ImportDeclaration" := by
  simp only [imports, ofKinds, List.mem_filter, List.contains_iff_mem, List.mem_singleton]

/-- The number of an identifier is that of no node of an import exactly if no import is around
it. -/
theorem notMem_inside_iff {tree : Tree} {visit : Visit} (h : visit ∈ tree.visits)
    (hkind : visit.node.kind ∈ referenceKinds) :
    (visit.index ∉ (imports tree).flatMap fun declaration => declaration.walk.map (·.index))
      ↔ ∀ outer ∈ tree.ancestors visit, outer.node.kind ≠ "ImportDeclaration" := by
  rw [List.mem_flatMap]
  constructor
  · intro hnone outer houter hdeclaration
    have hvisits := (Tree.mem_ancestors h houter).1
    exact hnone ⟨outer, mem_imports_iff.mpr ⟨hvisits, hdeclaration⟩,
      (Tree.index_mem_map_walk_iff hvisits h).mpr (.inr houter)⟩
  · rintro hnone ⟨declaration, hmem, hindex⟩
    obtain ⟨hvisits, hdeclaration⟩ := mem_imports_iff.mp hmem
    rcases (Tree.index_mem_map_walk_iff hvisits h).mp hindex with rfl | houter
    · -- an import is no identifier
      rw [hdeclaration] at hkind
      exact absurd hkind (by decide)
    · exact hnone declaration houter hdeclaration

/-- The names that are looked for are those that are mentioned. -/
theorem mem_usedNames_iff {tree : Tree} {name : String} :
    name ∈ usedNames tree ↔ name ≠ "" ∧ IsMentioned tree name := by
  simp only [usedNames, ofKinds, List.mem_filterMap, List.mem_filter, List.contains_iff_mem,
    Bool.not_eq_true', ← Bool.not_eq_true, Option.filter_eq_some_iff]
  constructor
  · rintro ⟨visit, ⟨⟨hvisit, hkind⟩, hnone⟩, hname, hempty⟩
    exact ⟨by simpa using hempty, visit, hvisit, hkind, hname,
      (notMem_inside_iff hvisit hkind).mp hnone⟩
  · rintro ⟨hempty, visit, hvisit, hkind, hname, hnone⟩
    exact ⟨visit, ⟨⟨hvisit, hkind⟩, (notMem_inside_iff hvisit hkind).mpr hnone⟩, hname,
      by simpa using hempty⟩

/-- A specifier of an import introduces a name: that of its local identifier. -/
def Introduces (specifier : Node) (name : String) : Prop :=
  specifier.kind ∈ specifierKinds
    ∧ (∃ identifier, specifier.child? "local" = some identifier ∧ identifier.name? = some name)
    ∧ name ≠ ""

theorem localName?_eq_some_iff {specifier : Node} {name : String} :
    localName? specifier = some name ↔ Introduces specifier name := by
  rw [localName?, Introduces]
  by_cases hkind : specifier.kind ∈ specifierKinds
  · rw [if_pos (List.contains_iff_mem.mpr hkind), Option.filter_eq_some_iff,
      Option.bind_eq_some_iff]
    simp [hkind]
  · rw [if_neg (by rwa [List.contains_iff_mem])]
    simp [hkind]

/-- The names that an import introduces, each with its specifier, in order. -/
def introducedBy (declaration : Visit) : List (String × Visit) :=
  (childrenIn declaration "specifiers").filterMap fun specifier =>
    (localName? specifier.node).map fun name => (name, specifier)

theorem mem_introducedBy_iff {declaration specifier : Visit} {name : String} :
    (name, specifier) ∈ introducedBy declaration
      ↔ specifier ∈ childrenIn declaration "specifiers" ∧ Introduces specifier.node name := by
  simp only [introducedBy, List.mem_filterMap, Option.map_eq_some_iff, Prod.mk.injEq,
    ← localName?_eq_some_iff]
  constructor
  · rintro ⟨_, hmem, _, hname, rfl, rfl⟩
    exact ⟨hmem, hname⟩
  · rintro ⟨hmem, hname⟩
    exact ⟨specifier, hmem, name, hname, rfl, rfl⟩

/-- The specifiers keep their order. -/
theorem map_snd_introducedBy_sublist (declaration : Visit) :
    ((introducedBy declaration).map (·.2)).Sublist (childrenIn declaration "specifiers") := by
  rw [introducedBy]
  induction childrenIn declaration "specifiers" with
  | nil => exact List.nil_sublist _
  | cons specifier rest ih =>
      cases hname : localName? specifier.node with
      | none =>
          rw [List.filterMap_cons_none (by rw [hname]; rfl)]
          exact ih.cons _
      | some name =>
          rw [List.filterMap_cons_some (by rw [hname]; rfl), List.map_cons]
          exact ih.cons_cons _

/-- The names that the imports of a tree introduce and that nothing mentions, in order. -/
def unmentioned (tree : Tree) : List (String × Visit) :=
  ((imports tree).flatMap introducedBy).filter fun found => ¬IsMentioned tree found.1

/-! ## What is reported -/

/-- Where specifiers can be gone through, they are the nodes in the field. -/
theorem eq_childrenIn_of_specifiers {declaration : Visit} {here : List Visit}
    (h : specifiers declaration = .ok here) : here = childrenIn declaration "specifiers" := by
  -- a value that is not gone through holds no node
  have hnone : (declaration.node.nodesIn "specifiers") = [] →
      childrenIn declaration "specifiers" = [] := by
    intro hnodes
    rw [childrenIn, ← Node.nodesIn, hnodes, numberSiblings]
  rw [specifiers] at h
  cases hget : declaration.node.get? "specifiers" with
  | none =>
      rw [hget] at h
      rw [← Except.ok.inj h, hnone (by rw [Node.nodesIn, hget]; rfl)]
  | some value =>
      simp only [hget] at h
      split at h
      · split at h
        · contradiction
        · exact (Except.ok.inj h).symm
      · rename_i hfalsy
        rw [← Except.ok.inj h, hnone]
        rw [Node.nodesIn, hget]
        cases value with
        | node node => exact absurd rfl hfalsy
        | list items =>
            obtain rfl : items = [] := by simpa [Field.isTruthy] using hfalsy
            rfl
        | leaf value => rfl

/-- Of names that are introduced the rule reports those that are not mentioned. -/
theorem filterMap_checkSpecifier (tree : Tree) (declaration : Visit) :
    (childrenIn declaration "specifiers").filterMap (checkSpecifier (usedNames tree))
      = ((introducedBy declaration).filter fun found => ¬IsMentioned tree found.1).map fun found =>
        info.violationAt (message found.1) found.2 := by
  rw [introducedBy, List.filter_filterMap, List.map_filterMap]
  refine List.filterMap_congr fun specifier _ => ?_
  rw [checkSpecifier]
  cases hname : localName? specifier.node with
  | none => rfl
  | some name =>
      have hused : name ∈ usedNames tree ↔ IsMentioned tree name :=
        mem_usedNames_iff.trans (and_iff_right (localName?_eq_some_iff.mp hname).2.2)
      by_cases hmentioned : IsMentioned tree name
      · simp [hused, hmentioned]
      · simp [hused, hmentioned]

theorem eq_flatMap_of_checkImports {used : List String} {declarations : List Visit}
    {violations : List Violation} (h : checkImports used declarations = .ok violations) :
    violations = declarations.flatMap fun declaration =>
      (childrenIn declaration "specifiers").filterMap (checkSpecifier used) := by
  induction declarations generalizing violations with
  | nil => exact (Except.ok.inj h).symm
  | cons declaration rest ih =>
      obtain ⟨here, hhere, h⟩ := Except.bind_eq_ok_iff.mp h
      obtain ⟨more, hmore, h⟩ := Except.bind_eq_ok_iff.mp h
      rw [List.flatMap_cons, ← eq_childrenIn_of_specifiers hhere, ← ih hmore]
      exact (Except.ok.inj h).symm

theorem eq_map_unmentioned_of_check {context : CheckContext} {violations : List Violation}
    (h : check context = .ok violations) :
    violations = (unmentioned context.tree).map fun found =>
      info.violationAt (message found.1) found.2 := by
  rw [eq_flatMap_of_checkImports h, unmentioned, List.filter_flatMap, List.map_flatMap]
  exact List.flatMap_congr fun declaration _ => filterMap_checkSpecifier _ _

/-! ## What is put in outside the imports -/

/-- A node that is an import. -/
def declaration? (node : Node) : Option Node :=
  if ["ImportDeclaration"].contains node.kind then some node else none

theorem declaration?_eq_none {node : Node} (h : node.kind ≠ "ImportDeclaration") :
    declaration? node = none := by
  simp [declaration?, h]

theorem map_node_imports (tree : Tree) :
    (imports tree).map (·.node) = tree.root.collect declaration? :=
  tree.map_filter_visits (fun node => ["ImportDeclaration"].contains node.kind) id

/-- The names that an import introduces, each with the node that does so. -/
def namesIn (declaration : Node) : List (String × Node) :=
  (declaration.nodesIn "specifiers").filterMap fun specifier =>
    (localName? specifier).map fun name => (name, specifier)

theorem map_introducedBy (declaration : Visit) :
    (introducedBy declaration).map (fun found => (found.1, found.2.node))
      = namesIn declaration.node := by
  have hnodes : (childrenIn declaration "specifiers").map (·.node)
      = declaration.node.nodesIn "specifiers" := map_node_numberSiblings _ _ _
  rw [introducedBy, namesIn, ← hnodes, List.map_filterMap, List.filterMap_map]
  refine List.filterMap_congr fun specifier _ => ?_
  rw [Function.comp, Option.map_map]
  rfl

/-- The names that nothing mentions, each with its node. -/
theorem map_unmentioned (tree : Tree) :
    (unmentioned tree).map (fun found => (found.1, found.2.node))
      = ((tree.root.collect declaration?).flatMap namesIn).filter fun found =>
          ¬IsMentioned tree found.1 := by
  rw [← map_node_imports, List.flatMap_map]
  simp only [← map_introducedBy, ← List.map_flatMap]
  rw [List.filter_map]
  rfl

section Gains

variable {tree other : Tree} {added : Node}

/-- Nodes outside the imports are no imports. -/
theorem declaration?_eq_none_of_changed {change : Entries Field → Entries Field → Prop}
    {node node' : Node} (h : Node.Changed (· ≠ "ImportDeclaration") change node node') :
    declaration? node' = declaration? node := by
  obtain ⟨hkind, -, hopen⟩ := h.kind_eq
  rw [declaration?_eq_none hopen, declaration?_eq_none (hkind ▸ hopen)]

/-- What is put in outside the imports changes no import. -/
theorem collect_declaration?_eq
    (hadded : ∀ node ∈ added.preorder, node.kind ≠ "ImportDeclaration")
    (h : Node.Changed (· ≠ "ImportDeclaration") (Gains added) tree.root other.root) :
    other.root.collect declaration? = tree.root.collect declaration? := by
  have hnone : added.collect declaration? = [] :=
    List.filterMap_eq_nil_iff.mpr fun node hnode => declaration?_eq_none (hadded node hnode)
  obtain ⟨front, back, hbefore, hafter⟩ :=
    h.collect_gains (fun _ _ hgains => hgains) fun _ _ => declaration?_eq_none_of_changed
  rw [hbefore, hafter, hnone, List.append_nil]

theorem isMentioned_iff_reaches {name : String} :
    IsMentioned tree name
      ↔ ∃ node, tree.root.Reaches (fun outer => outer.kind ≠ "ImportDeclaration") node
          ∧ node.kind ∈ referenceKinds ∧ node.name? = some name := by
  constructor
  · rintro ⟨visit, hvisit, hkind, hname, hopen⟩
    exact ⟨visit.node, Tree.exists_visit_iff_reaches.mp ⟨visit, hvisit, rfl, hopen⟩, hkind, hname⟩
  · rintro ⟨node, hreaches, hkind, hname⟩
    obtain ⟨visit, hvisit, rfl, hopen⟩ := Tree.exists_visit_iff_reaches.mpr hreaches
    exact ⟨visit, hvisit, hkind, hname, hopen⟩

/-- What is mentioned stays mentioned when something is put in. -/
theorem IsMentioned.of_gains {name : String} (hmentioned : IsMentioned tree name)
    (h : Node.Changed (· ≠ "ImportDeclaration") (Gains added) tree.root other.root) :
    IsMentioned other name := by
  obtain ⟨node, hreaches, hkind, hname⟩ := isMentioned_iff_reaches.mp hmentioned
  obtain ⟨node', hreaches', rfl | hchanged⟩ := h.exists_reaches
    (fun _ _ => Gains.nodesOf_subset) hreaches
  · exact isMentioned_iff_reaches.mpr ⟨node', hreaches', hkind, hname⟩
  · -- a name is no node, so that of a changed node is the same
    have hlook : Ignores (Gains added) Field.text? := Gains.ignores (fun _ => rfl) rfl rfl
    have hname' : node'.name? = node.name? := hchanged.bind_get?_eq hlook (fun _ _ _ => rfl) "name"
    refine isMentioned_iff_reaches.mpr ⟨node', hreaches', ?_, hname'.trans hname⟩
    rwa [hchanged.kind_eq.1]

/-- What is put in outside the imports makes no check fail. -/
theorem exists_check_of_gains {context context' : CheckContext} {violations : List Violation}
    (hcheck : check context = .ok violations)
    (hadded : ∀ node ∈ added.preorder, node.kind ≠ "ImportDeclaration")
    (h : Node.Changed (· ≠ "ImportDeclaration") (Gains added) context.tree.root
      context'.tree.root) :
    ∃ fewer, check context' = .ok fewer := by
  cases hcheck' : check context' with
  | ok fewer => exact ⟨fewer, rfl⟩
  | error fault =>
      -- the import at fault is in the other tree, too
      have hfault : (check context').error?.isSome := by
        rw [hcheck']
        rfl
      obtain ⟨visit, hvisit, hkind, hbad⟩ := isSome_error?_check_iff.mp hfault
      have hmem : visit.node ∈ (imports context'.tree).map (·.node) :=
        List.mem_map_of_mem (mem_imports_iff.mpr ⟨hvisit, hkind⟩)
      rw [map_node_imports, collect_declaration?_eq hadded h, ← map_node_imports] at hmem
      obtain ⟨declaration, hdeclaration, hnode⟩ := List.mem_map.mp hmem
      obtain ⟨hvisits, hkind'⟩ := mem_imports_iff.mp hdeclaration
      have hfault' : (check context).error?.isSome :=
        isSome_error?_check_iff.mpr ⟨declaration, hvisits, hkind', by rwa [hnode]⟩
      rw [hcheck] at hfault'
      exact absurd hfault' Bool.false_ne_true

/-- What is put in outside the imports leaves some of the names unmentioned, and no others. -/
theorem map_unmentioned_sublist
    (hadded : ∀ node ∈ added.preorder, node.kind ≠ "ImportDeclaration")
    (h : Node.Changed (· ≠ "ImportDeclaration") (Gains added) tree.root other.root) :
    ((unmentioned other).map fun found => (found.1, found.2.node)).Sublist
      ((unmentioned tree).map fun found => (found.1, found.2.node)) := by
  rw [map_unmentioned, map_unmentioned, collect_declaration?_eq hadded h]
  refine List.monotone_filter_right _ fun found hfound => ?_
  rw [decide_eq_true_eq] at hfound ⊢
  exact fun hmentioned => hfound (hmentioned.of_gains h)

end Gains

end UnusedImport

/-- A finding but for the number of the node. -/
def Violation.withoutNode (violation : Violation) : Violation := { violation with node := none }

open UnusedImport in
/-- If the check comes to a result, it reports the names that imports introduce and nothing outside
the imports mentions, import by import in pre-order, and those of one import in the order of its
specifiers. A subtree without imports that is put in outside the imports makes no check fail and
adds no finding. -/
theorem UnusedImport.check_eq_unused {context : CheckContext} {violations : List Violation}
    (hcheck : check context = .ok violations) :
    violations = (unmentioned context.tree).map (fun found =>
        info.violationAt (message found.1) found.2)
      ∧ (∀ declaration ∈ imports context.tree,
          context.tree.IsField declaration "specifiers" (childrenIn declaration "specifiers")
            ∧ ((introducedBy declaration).map (·.2)).Sublist (childrenIn declaration "specifiers")
            ∧ ∀ name specifier, (name, specifier) ∈ introducedBy declaration
                ↔ specifier ∈ childrenIn declaration "specifiers"
                  ∧ Introduces specifier.node name)
      ∧ ∀ (added : Node) (other : CheckContext),
          (∀ node ∈ added.preorder, node.kind ≠ "ImportDeclaration") →
          Node.Changed (· ≠ "ImportDeclaration") (Gains added) context.tree.root other.tree.root →
          ∃ fewer, check other = .ok fewer
            ∧ (fewer.map Violation.withoutNode).Sublist (violations.map Violation.withoutNode) := by
  refine ⟨eq_map_unmentioned_of_check hcheck, fun declaration hdeclaration => ?_,
    fun added other hadded hgains => ?_⟩
  · have hvisits := (mem_imports_iff.mp hdeclaration).1
    exact ⟨isField_childrenIn hvisits _, map_snd_introducedBy_sublist declaration,
      fun _ _ => mem_introducedBy_iff⟩
  · obtain ⟨fewer, hfewer⟩ := exists_check_of_gains hcheck hadded hgains
    have hsublist := (map_unmentioned_sublist hadded hgains).map fun found =>
      (info.violationAt (message found.1) ⟨0, found.2, none⟩).withoutNode
    rw [List.map_map, List.map_map] at hsublist
    refine ⟨fewer, hfewer, ?_⟩
    rw [eq_map_unmentioned_of_check hcheck, eq_map_unmentioned_of_check hfewer, List.map_map,
      List.map_map]
    exact hsublist

open UnusedImport in
/-- Of two names that an import introduces one is mentioned, and then a call mentions the other. -/
theorem UnusedImport.check_eq_unused_two_names :
    let identifier := fun name => Node.mk "Identifier" none [("name", .leaf (.str name))]
    let specifier := fun name =>
      Node.mk "ImportSpecifier" none [("local", .node (identifier name))]
    let declaration := Node.mk "ImportDeclaration" none
      [("specifiers", .list [.node (specifier "a"), .node (specifier "b")])]
    let call := fun name => Node.mk "CallExpression" none [("callee", .node (identifier name))]
    let program := fun body : List Node =>
      ({ tree := ⟨.mk "Program" none [("body", .list (body.map .node))]⟩, source := ""
         fileName := "x.ts" } : CheckContext)
    let context := program [declaration, call "b"]
    ∃ violation, check context = .ok [violation]
      ∧ [violation] = (unmentioned context.tree).map (fun found =>
          info.violationAt (message found.1) found.2)
      ∧ ∃ fewer, check (program [declaration, call "b", call "a"]) = .ok fewer
          ∧ (fewer.map Violation.withoutNode).Sublist [violation.withoutNode] := by
  intro identifier specifier declaration call program context
  let violation : Violation :=
    { ruleId := info.id, message := message "a", severity := info.severity, line := 1, column := 1
      node := some 2 }
  have hcheck : check context = .ok [violation] := by
    rw [← Except.toOption_eq_some_iff]
    decide +kernel
  obtain ⟨hfound, -, hgains⟩ := check_eq_unused hcheck
  -- the second call is one more item of the body
  have hitem : Gains (call "a") context.tree.root.fields
      (program [declaration, call "b", call "a"]).tree.root.fields :=
    .item (.intro [] [] "body" [.node declaration, .node (call "b")] [])
  have hkinds : ∀ node ∈ (call "a").preorder, node.kind ≠ "ImportDeclaration" := by
    decide +kernel
  exact ⟨violation, hcheck, hfound,
    hgains (call "a") (program [declaration, call "b", call "a"]) hkinds
      (.here none (by decide) hitem)⟩

end ScriptAdvisor
