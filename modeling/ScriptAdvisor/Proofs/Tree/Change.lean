import ScriptAdvisor.Proofs.Tree.Preorder

/-! # Changes inside a tree

A subtree is put into a tree, or what a node holds is put in another order. Such a change is made to
the fields of one node, and the nodes around that node keep all but the child that leads down to it.

* `Gains` and `Reorders` are the two changes to the fields of a node, and `Node.Changed` says that
  a tree is changed in the fields of one node.
* `Ignores` is a reading of fields that a change makes no difference to.
  `Node.Changed.bind_get?_eq`: then it makes none to the nodes around the changed one.
* What is collected from the nodes in pre-order gains what is collected from the new subtree
  (`Node.Changed.collect_gains`), or is put in another order (`Node.Reordered.collect_perm`).
* `Node.Changed.exists_reaches`: what is reached before is reached after.
* `Tree.map_filter_visits`: reading off the wanted steps of a walk is collecting. -/

namespace ScriptAdvisor

/-! ## Fields -/

namespace Entries

variable {α β : Type _}

theorem get?_append (front back : Entries α) (key : String) :
    get? (front ++ back) key = (get? front key).or (get? back key) := by
  induction front with
  | nil => rfl
  | cons entry front ih =>
      rw [List.cons_append, get?_cons, get?_cons, ih]
      split
      · rfl
      · rfl

/-- Another value in the place of one makes no difference to a reading that cannot tell them
apart. -/
theorem bind_get?_replace {look : α → Option β} {value value' : α} (h : look value' = look value)
    (front back : Entries α) (name key : String) :
    (get? (front ++ (name, value') :: back) key).bind look
      = (get? (front ++ (name, value) :: back) key).bind look := by
  rw [get?_append, get?_append, get?_cons, get?_cons]
  cases get? front key with
  | some found => rfl
  | none =>
      by_cases hkey : name = key
      · simp only [hkey, if_true, Option.none_or, Option.bind_some, h]
      · simp only [hkey, if_false]

/-- The order of entries with different keys makes no difference. -/
theorem get?_eq_of_perm {entries entries' : Entries α} (hperm : entries.Perm entries')
    (hnodup : (keys entries).Nodup) (key : String) : get? entries' key = get? entries key := by
  induction hperm with
  | nil => rfl
  | cons entry _ ih =>
      rw [keys_cons, List.nodup_cons] at hnodup
      rw [get?_cons, get?_cons, ih hnodup.2]
  | swap first second rest =>
      have hne : second.1 ≠ first.1 := by
        rw [keys_cons, keys_cons, List.nodup_cons] at hnodup
        exact fun heq => hnodup.1 (heq ▸ List.mem_cons_self)
      simp only [get?_cons]
      by_cases hfirst : first.1 = key
      · have hsecond : second.1 ≠ key := fun heq => hne (heq.trans hfirst.symm)
        simp only [hfirst, hsecond, if_true, if_false]
      · simp only [hfirst, if_false]
  | trans hfirst _ ih ih' =>
      have hkeys := hfirst.map fun entry => entry.1
      rw [ih' (hkeys.nodup_iff.mp hnodup), ih hnodup]

end Entries

/-- The nodes that fields hold directly. -/
def nodesOf (fields : Entries Field) : List Node := fields.flatMap fun field => field.2.nodes

theorem Node.children_eq (node : Node) : node.children = nodesOf node.fields := rfl

theorem nodesOf_append_cons (front back : Entries Field) (name : String) (value : Field) :
    nodesOf (front ++ (name, value) :: back) = nodesOf front ++ (value.nodes ++ nodesOf back) := by
  rw [nodesOf, List.flatMap_append, List.flatMap_cons]
  rfl

/-- The nodes before and behind a place in a list. -/
theorem nodesOf_append_list (front back : Entries Field) (name : String)
    (before behind : List Field) :
    nodesOf (front ++ (name, .list (before ++ behind)) :: back)
      = (nodesOf front ++ before.filterMap Field.node?)
        ++ (behind.filterMap Field.node? ++ nodesOf back) := by
  rw [nodesOf_append_cons, Field.nodes, List.filterMap_append]
  simp only [List.append_assoc]

/-! ## Changes to the fields of a node -/

/-- Fields gain a node as an item of a list in one of them. -/
inductive GainsItem (added : Node) : Entries Field → Entries Field → Prop
  /-- The list has one more item. -/
  | intro (front back : Entries Field) (name : String) (before behind : List Field) :
      GainsItem added (front ++ (name, .list (before ++ behind)) :: back)
        (front ++ (name, .list (before ++ .node added :: behind)) :: back)

/-- Fields gain a node: in a list, or where nothing stood. -/
inductive Gains (added : Node) : Entries Field → Entries Field → Prop
  /-- It is a new item of a list. -/
  | item {fields fields' : Entries Field} (h : GainsItem added fields fields') :
      Gains added fields fields'
  /-- It stands in the place of no value. -/
  | fill (front back : Entries Field) (name : String) :
      Gains added (front ++ (name, .leaf .null) :: back) (front ++ (name, .node added) :: back)
  /-- It is the value of a new field. -/
  | field (front back : Entries Field) (name : String)
      (h : name ∉ Entries.keys (front ++ back)) :
      Gains added (front ++ back) (front ++ (name, .node added) :: back)

/-- Fields are put in another order, or the items of a list in one of them are. -/
inductive Reorders : Entries Field → Entries Field → Prop
  /-- The fields, which have different names. -/
  | fields {fields fields' : Entries Field} (hnodup : (Entries.keys fields).Nodup)
      (h : fields.Perm fields') : Reorders fields fields'
  /-- The items of a list. -/
  | items {items items' : List Field} (front back : Entries Field) (name : String)
      (h : items.Perm items') :
      Reorders (front ++ (name, .list items) :: back) (front ++ (name, .list items') :: back)

/-- A reading of fields to which a change makes no difference. Lists are nothing to it. -/
structure Ignores {β : Type _} (change : Entries Field → Entries Field → Prop)
    (look : Field → Option β) : Prop where
  /-- It finds nothing in a list. -/
  list : ∀ items, look (.list items) = none
  /-- It finds the same after the change as before, under each name. -/
  same : ∀ fields fields', change fields fields' → ∀ key,
    (Entries.get? fields' key).bind look = (Entries.get? fields key).bind look

section Changes

variable {β : Type _} {look : Field → Option β} {added : Node}

/-- A reading that finds nothing in lists ignores that one of them gains a node. -/
theorem GainsItem.ignores (hlist : ∀ items, look (.list items) = none) :
    Ignores (GainsItem added) look := by
  refine ⟨hlist, fun fields fields' hgains key => ?_⟩
  obtain ⟨front, back, name, before, behind⟩ := hgains
  exact Entries.bind_get?_replace (by rw [hlist, hlist]) front back name key

/-- A reading that finds nothing in lists, in no value and in the new node ignores that fields gain
that node. -/
theorem Gains.ignores (hlist : ∀ items, look (.list items) = none)
    (hnull : look (.leaf .null) = none) (hadded : look (.node added) = none) :
    Ignores (Gains added) look := by
  refine ⟨hlist, fun fields fields' hgains key => ?_⟩
  cases hgains with
  | item hitem => exact (GainsItem.ignores hlist).same _ _ hitem key
  | fill front back name =>
      exact Entries.bind_get?_replace (by rw [hadded, hnull]) front back name key
  | field front back name hname =>
      rw [Entries.get?_append, Entries.get?_append, Entries.get?_cons]
      by_cases hkey : name = key
      · -- nothing is stored under the new name
        subst hkey
        have hnone : Entries.get? (front ++ back) name = none := by
          rw [← Option.not_isSome_iff_eq_none, Entries.get?_isSome_iff]
          exact hname
        rw [Entries.get?_append, Option.or_eq_none_iff] at hnone
        simp only [hnone.1, hnone.2, if_true, Option.none_or, Option.bind_some, Option.bind_none,
          hadded]
      · simp only [hkey, if_false]

/-- A reading that finds nothing in lists ignores the order of what a node holds. -/
theorem Reorders.ignores (hlist : ∀ items, look (.list items) = none) :
    Ignores Reorders look := by
  refine ⟨hlist, fun fields fields' hreorders key => ?_⟩
  cases hreorders with
  | fields hnodup hperm => rw [Entries.get?_eq_of_perm hperm hnodup]
  | items front back name _ =>
      refine Entries.bind_get?_replace ?_ front back name key
      rw [hlist, hlist]

theorem Gains.exists_nodesOf_eq {fields fields' : Entries Field}
    (h : Gains added fields fields') :
    ∃ before behind, nodesOf fields = before ++ behind
      ∧ nodesOf fields' = before ++ added :: behind := by
  cases h with
  | item hitem =>
      obtain ⟨front, back, name, before, behind⟩ := hitem
      exact ⟨_, _, nodesOf_append_list front back name before behind,
        nodesOf_append_list front back name before (.node added :: behind)⟩
  | fill front back name =>
      exact ⟨nodesOf front, nodesOf back, nodesOf_append_cons front back name _,
        nodesOf_append_cons front back name _⟩
  | field front back name _ =>
      exact ⟨nodesOf front, nodesOf back, List.flatMap_append,
        nodesOf_append_cons front back name _⟩

theorem Gains.nodesOf_subset {fields fields' : Entries Field} (h : Gains added fields fields') :
    nodesOf fields ⊆ nodesOf fields' := by
  obtain ⟨before, behind, hnodes, hnodes'⟩ := h.exists_nodesOf_eq
  rw [hnodes, hnodes']
  intro node hnode
  rw [List.mem_append] at hnode ⊢
  exact hnode.imp_right (List.mem_cons_of_mem added)

theorem Reorders.nodesOf_perm {fields fields' : Entries Field} (h : Reorders fields fields') :
    (nodesOf fields).Perm (nodesOf fields') := by
  cases h with
  | fields _ hperm => exact hperm.flatMap_right _
  | items front back name hperm =>
      rw [nodesOf_append_cons, nodesOf_append_cons]
      exact ((hperm.filterMap Field.node?).append_right _).append_left _

end Changes

/-! ## Changes below a node -/

/-- A value holds a node in the place of another. -/
inductive Field.Swaps (child child' : Node) : Field → Field → Prop
  /-- It is that node. -/
  | node : Swaps child child' (.node child) (.node child')
  /-- The node is an item of a list. -/
  | item (before behind : List Field) : Swaps child child' (.list (before ++ .node child :: behind))
      (.list (before ++ .node child' :: behind))

theorem Field.Swaps.exists_nodesOf_eq {child child' : Node} {value value' : Field}
    (h : value.Swaps child child' value') (front back : Entries Field) (name : String) :
    ∃ before behind, nodesOf (front ++ (name, value) :: back) = before ++ child :: behind
      ∧ nodesOf (front ++ (name, value') :: back) = before ++ child' :: behind := by
  cases h with
  | node =>
      exact ⟨nodesOf front, nodesOf back, nodesOf_append_cons front back name _,
        nodesOf_append_cons front back name _⟩
  | item before behind =>
      exact ⟨_, _, nodesOf_append_list front back name before (.node child :: behind),
        nodesOf_append_list front back name before (.node child' :: behind)⟩

namespace Node

/-- The fields of one node are changed. That node and those around it are of open kinds. -/
inductive Changed (isOpen : String → Prop) (change : Entries Field → Entries Field → Prop) :
    Node → Node → Prop
  /-- The fields of the node itself are changed. -/
  | here {kind : String} {fields fields' : Entries Field} (loc : Option Location)
      (hopen : isOpen kind) (h : change fields fields') :
      Changed isOpen change (.mk kind loc fields) (.mk kind loc fields')
  /-- One of its children is changed. -/
  | inside {kind : String} {child child' : Node} {value value' : Field} (loc : Option Location)
      (front back : Entries Field) (name : String) (hopen : isOpen kind)
      (hvalue : value.Swaps child child' value') (h : Changed isOpen change child child') :
      Changed isOpen change (.mk kind loc (front ++ (name, value) :: back))
        (.mk kind loc (front ++ (name, value') :: back))

variable {isOpen : String → Prop} {change : Entries Field → Entries Field → Prop}
  {node node' : Node}

theorem Changed.kind_eq (h : Changed isOpen change node node') :
    node'.kind = node.kind ∧ node'.loc = node.loc ∧ isOpen node.kind := by
  cases h with
  | here _ hopen _ => exact ⟨rfl, rfl, hopen⟩
  | inside _ _ _ _ hopen _ _ => exact ⟨rfl, rfl, hopen⟩

/-- A reading of fields that ignores the change finds the same in all nodes around the changed one
if it tells none of them from what it was. -/
theorem Changed.bind_get?_eq {β : Type _} {look : Field → Option β} (hlook : Ignores change look)
    (hnode : ∀ child child', Changed isOpen change child child' →
      look (.node child') = look (.node child))
    (h : Changed isOpen change node node') (key : String) :
    (node'.get? key).bind look = (node.get? key).bind look := by
  cases h with
  | here _ _ hchange => exact hlook.same _ _ hchange key
  | inside _ front back name _ hvalue hchild =>
      refine Entries.bind_get?_replace ?_ front back name key
      cases hvalue with
      | node => exact hnode _ _ hchild
      | item _ _ => rw [hlook.list, hlook.list]

/-! ### What is collected -/

/-- What a reading of nodes finds in a subtree, in pre-order. -/
def collect {β : Type _} (view : Node → Option β) (node : Node) : List β :=
  node.preorder.filterMap view

variable {β : Type _} {view : Node → Option β}

theorem filterMap_flatMap_preorder (nodes : List Node) :
    (nodes.flatMap preorder).filterMap view = nodes.flatMap (collect view) := by
  rw [List.filterMap_flatMap]
  rfl

theorem collect_eq (node : Node) :
    node.collect view = (view node).toList ++ node.children.flatMap (collect view) := by
  rw [collect, preorder_eq, ← List.singleton_append, List.filterMap_append,
    filterMap_flatMap_preorder]
  refine congrArg (· ++ _) ?_
  cases hview : view node with
  | none => rw [List.filterMap_cons_none hview]; rfl
  | some found => rw [List.filterMap_cons_some hview]; rfl

/-- What the change of fields does to what is collected below them, it does to what is collected in
the whole tree, if a reading finds the same in the nodes around. -/
theorem Changed.collect_related (related : List β → List β → Prop)
    (hcontext : ∀ front back items items', related items items' →
      related (front ++ items ++ back) (front ++ items' ++ back))
    (hview : ∀ node node', Changed isOpen change node node' → view node' = view node)
    (hchange : ∀ fields fields', change fields fields' →
      related ((nodesOf fields).flatMap (collect view)) ((nodesOf fields').flatMap (collect view)))
    (h : Changed isOpen change node node') :
    related (node.collect view) (node'.collect view) := by
  -- on the way down, what is read off a node and the children beside the way is the same
  induction h with
  | @here kind fields fields' loc hopen hfields =>
      have hsame := hview _ _ (.here loc hopen hfields)
      have hrelated := hcontext (view (.mk kind loc fields)).toList [] _ _ (hchange _ _ hfields)
      rw [List.append_nil, List.append_nil] at hrelated
      rw [collect_eq, collect_eq, hsame]
      exact hrelated
  | @inside kind child child' value value' loc front back name hopen hvalue hchild ih =>
      have hsame := hview _ _ (.inside loc front back name hopen hvalue hchild)
      obtain ⟨before, behind, hnodes, hnodes'⟩ := hvalue.exists_nodesOf_eq front back name
      have hrelated := hcontext
        ((view (.mk kind loc (front ++ (name, value) :: back))).toList
          ++ before.flatMap (collect view))
        (behind.flatMap (collect view)) _ _ ih
      rw [collect_eq, collect_eq, hsame, children_eq, children_eq]
      simpa only [fields, hnodes, hnodes', List.flatMap_append, List.flatMap_cons,
        List.append_assoc] using hrelated

/-- A tree that gains a subtree gains what is collected from it, and nothing is lost. -/
theorem Changed.collect_gains {added : Node}
    (hgains : ∀ fields fields', change fields fields' → Gains added fields fields')
    (hview : ∀ node node', Changed isOpen change node node' → view node' = view node)
    (h : Changed isOpen change node node') :
    ∃ front back, node.collect view = front ++ back
      ∧ node'.collect view = front ++ added.collect view ++ back := by
  refine h.collect_related (fun items items' => ∃ front back,
    items = front ++ back ∧ items' = front ++ added.collect view ++ back) ?_ hview ?_
  · rintro front back _ _ ⟨before, behind, rfl, rfl⟩
    exact ⟨front ++ before, behind ++ back, by simp, by simp⟩
  · intro fields fields' hfields
    obtain ⟨before, behind, hnodes, hnodes'⟩ := (hgains _ _ hfields).exists_nodesOf_eq
    refine ⟨before.flatMap (collect view), behind.flatMap (collect view), ?_, ?_⟩
    · rw [hnodes, List.flatMap_append]
    · rw [hnodes', List.flatMap_append, List.flatMap_cons, List.append_assoc]

/-- What nodes hold is put in another order, once or more often. -/
def Reordered : Node → Node → Prop := Relation.ReflTransGen (Changed (fun _ => True) Reorders)

theorem Reordered.collect_perm
    (hview : ∀ node node', Changed (fun _ => True) Reorders node node' → view node' = view node)
    (h : Reordered node node') : (node.collect view).Perm (node'.collect view) := by
  induction h with
  | refl => exact .refl _
  | tail _ hstep ih =>
      refine ih.trans (hstep.collect_related List.Perm ?_ hview fun fields fields' hreorders => ?_)
      · intro front back items items' hperm
        exact (hperm.append_left front).append_right back
      · exact hreorders.nodesOf_perm.flatMap_right _

/-! ### What is reached -/

/-- A node that is reached through open nodes is reached after the change, too, itself changed or
not, if the change takes no nodes away. -/
theorem Changed.exists_reaches {inner : Node}
    (hchange : ∀ fields fields', change fields fields' → nodesOf fields ⊆ nodesOf fields')
    (h : Changed isOpen change node node')
    (hreaches : node.Reaches (fun outer => isOpen outer.kind) inner) :
    ∃ inner', node'.Reaches (fun outer => isOpen outer.kind) inner'
      ∧ (inner' = inner ∨ Changed isOpen change inner inner') := by
  induction h with
  | here loc hopen hfields =>
      rcases hreaches.cases_head with rfl | ⟨child, ⟨-, hchild⟩, hrest⟩
      · exact ⟨_, .refl, .inr (.here loc hopen hfields)⟩
      · exact ⟨inner, hrest.head ⟨hopen, hchange _ _ hfields hchild⟩, .inl rfl⟩
  | @inside kind _ child' _ value' loc front back name hopen hvalue hchanged ih =>
      rcases hreaches.cases_head with rfl | ⟨child, ⟨-, hchild⟩, hrest⟩
      · exact ⟨_, .refl, .inr (.inside loc front back name hopen hvalue hchanged)⟩
      · obtain ⟨before, behind, hnodes, hnodes'⟩ := hvalue.exists_nodesOf_eq front back name
        rw [children_eq, fields, hnodes, List.mem_append, List.mem_cons] at hchild
        have hmem {other : Node} (h : other ∈ before ++ child' :: behind) :
            IsOpenChild (fun outer => isOpen outer.kind)
              (.mk kind loc (front ++ (name, value') :: back)) other :=
          ⟨hopen, by rwa [children_eq, fields, hnodes']⟩
        rcases hchild with hbefore | rfl | hbehind
        · exact ⟨inner, hrest.head (hmem (List.mem_append_left _ hbefore)), .inl rfl⟩
        · -- the way leads through the changed child
          obtain ⟨inner', hinner, hsame⟩ := ih hrest
          exact ⟨inner', hinner.head (hmem List.mem_append_cons_self), hsame⟩
        · have hother := hmem (List.mem_append_right _ (List.mem_cons_of_mem _ hbehind))
          exact ⟨inner, hrest.head hother, .inl rfl⟩

end Node

/-- What is read off the wanted steps of the walk of a tree is what is collected from it. -/
theorem Tree.map_filter_visits {β : Type _} (tree : Tree) (isWanted : Node → Bool)
    (reading : Node → β) :
    ((tree.visits.filter fun visit => isWanted visit.node).map fun visit => reading visit.node)
      = tree.root.collect fun node => if isWanted node then some (reading node) else none := by
  rw [Node.collect, ← Tree.map_node_visits, List.filterMap_map, ← List.filterMap_eq_map,
    ← List.filterMap_eq_filter, List.filterMap_filterMap]
  refine List.filterMap_congr fun visit _ => ?_
  cases hwanted : isWanted visit.node with
  | true => simp [Option.guard, hwanted]
  | false => simp [Option.guard, hwanted]

end ScriptAdvisor
