import ScriptAdvisor.Proofs.Tree.Change
import ScriptAdvisor.Smell.UnconditionedQuery

/-! # Which conditions restrict a query

Whether a query is restricted depends on where the conditions for its record stand in the source,
and not on where they stand in the tree.

* `Call` is what the rule reads off a call. `Call.Restricts` and `IsUnconditioned` say when a
  condition restricts a query, and when none of some calls does.
* `SparesCallees` is a change that leaves alone what is called. So a subtree that is put in brings
  its calls (`IsPutIn.exists_callsIn_eq`), and another order of the nodes is one of the calls
  (`callsIn_perm`).
* `check_eq_unconditioned`: the rule reports the queries that no call of the tree restricts. Another
  order changes nothing about that, and more calls make no other query reported. -/

namespace ScriptAdvisor.UnconditionedQuery

/-! ## Calls -/

/-- What the rule reads off a call. -/
structure Call where
  /-- The name it is made by. -/
  name : Option String
  /-- The plain identifier it is made on. -/
  receiver : Option String
  /-- Whether a member is called. -/
  isMember : Bool
  /-- Where it stands in the source. -/
  loc : Option Location
  deriving DecidableEq

namespace Call

/-- The call that a node is. -/
def ofNode (node : Node) : Call :=
  { name := node.callName?, receiver := node.callReceiver?, isMember := node.isMemberCall
    loc := node.loc }

/-- The place a call starts at, the first of the source if it has none. -/
def start (call : Call) : Int ×ₗ Int :=
  match call.loc with
  | some location => toLex (location.startLine, location.startColumn)
  | none => toLex (1, 0)

/-- A call is a query: a member of that name is called. -/
def IsQuery (call : Call) : Prop := call.name = some "query" ∧ call.isMember = true

/-- A call restricts another: it adds a condition to the same plain identifier, which has a name,
and starts before. -/
def Restricts (condition query : Call) : Prop :=
  (∃ method ∈ conditionMethods, condition.name = some method)
    ∧ (∃ record ∈ query.receiver, record ≠ "" ∧ condition.receiver = some record)
    ∧ condition.start < query.start

instance (call : Call) : Decidable call.IsQuery :=
  inferInstanceAs (Decidable (_ ∧ _))

instance (condition query : Call) : Decidable (condition.Restricts query) :=
  inferInstanceAs (Decidable (_ ∧ _ ∧ _))

end Call

/-- A call is a query that none of some calls restricts. -/
def IsUnconditioned (calls : List Call) (query : Call) : Prop :=
  query.IsQuery ∧ ∀ condition ∈ calls, ¬condition.Restricts query

instance (calls : List Call) (query : Call) : Decidable (IsUnconditioned calls query) :=
  inferInstanceAs (Decidable (_ ∧ _))

/-- With more calls no other query is unconditioned. -/
theorem IsUnconditioned.anti {calls more : List Call} {query : Call} (hsubset : calls ⊆ more)
    (h : IsUnconditioned more query) : IsUnconditioned calls query :=
  ⟨h.1, fun condition hcondition => h.2 condition (hsubset hcondition)⟩

/-- The call that a node is, if it is one. -/
def callOf? (node : Node) : Option Call := if node.isCall then some (.ofNode node) else none

/-- The calls of a tree, in pre-order. -/
def callsIn (tree : Tree) : List Call := tree.root.collect callOf?

/-- The calls of a tree that are reported: the queries that no call of the tree restricts. -/
def unconditioned (tree : Tree) : List Visit :=
  tree.visits.filter fun visit => visit.node.kind = "CallExpression"
    ∧ IsUnconditioned (callsIn tree) (.ofNode visit.node)

theorem callsIn_eq (tree : Tree) :
    callsIn tree = (calls tree.visits).map fun visit => .ofNode visit.node :=
  (tree.map_filter_visits Node.isCall Call.ofNode).symm

/-! ## What is reported -/

theorem start_ofNode (node : Node) :
    (Call.ofNode node).start = toLex (node.line, node.column) := by
  rw [Call.ofNode, Call.start, Node.line, Node.column]
  cases node.loc with
  | none => rfl
  | some location => rfl

theorem isBefore_iff {line column line' column' : Int} :
    isBefore line column line' column' = true
      ↔ toLex (line, column) < toLex (line', column') := by
  simp [isBefore, Prod.Lex.toLex_lt_toLex]

theorem isQuery_iff {node : Node} : isQuery node = true ↔ (Call.ofNode node).IsQuery := by
  simp [isQuery, Call.IsQuery, Call.ofNode]

theorem receiver?_eq_some_iff {node : Node} {record : String} :
    receiver? node = some record ↔ (Call.ofNode node).receiver = some record ∧ record ≠ "" := by
  simp [receiver?, Call.ofNode, Option.filter_eq_some_iff]

theorem condition?_eq_some_iff {node : Node} {condition : Condition} :
    condition? node = some condition
      ↔ (∃ method ∈ conditionMethods, (Call.ofNode node).name = some method)
        ∧ receiver? node = some condition.receiver
        ∧ condition.line = node.line ∧ condition.column = node.column := by
  obtain ⟨receiver, row, column⟩ := condition
  have hname : (Call.ofNode node).name = node.callName? := rfl
  rw [condition?, hname]
  cases receiver? node with
  | none => simp
  | some record =>
      cases node.callName? with
      | none => simp
      | some name =>
          by_cases hmethod : name ∈ conditionMethods
          · simp [hmethod, eq_comm]
          · simp [hmethod]

/-- A node adds a condition that restricts another exactly if its call does. -/
theorem exists_condition?_iff {node query : Node} :
    (∃ condition, condition? node = some condition ∧ condition.restricts query = true)
      ↔ (Call.ofNode node).Restricts (Call.ofNode query) := by
  simp only [condition?_eq_some_iff, Condition.restricts, Bool.and_eq_true, beq_iff_eq,
    isBefore_iff, receiver?_eq_some_iff, Call.Restricts, start_ofNode]
  constructor
  · rintro ⟨condition, ⟨hmethod, ⟨hreceiver, hne⟩, hrow, hcolumn⟩, ⟨hquery, -⟩, hbefore⟩
    rw [hrow, hcolumn] at hbefore
    exact ⟨hmethod, ⟨condition.receiver, hquery, hne, hreceiver⟩, hbefore⟩
  · rintro ⟨hmethod, ⟨record, hquery, hne, hreceiver⟩, hbefore⟩
    exact ⟨⟨record, node.line, node.column⟩, ⟨hmethod, ⟨hreceiver, hne⟩, rfl, rfl⟩,
      ⟨hquery, hne⟩, hbefore⟩

/-- The conditions that the rule gathers are those of the calls in the tree. -/
theorem any_restricts_iff {tree : Tree} {query : Node} :
    (((calls tree.visits).filterMap fun call => condition? call.node).any fun condition =>
        condition.restricts query) = true
      ↔ ∃ condition ∈ callsIn tree, condition.Restricts (.ofNode query) := by
  simp only [List.any_eq_true, List.mem_filterMap, callsIn_eq, List.mem_map]
  constructor
  · rintro ⟨condition, ⟨call, hcall, hcondition⟩, hrestricts⟩
    exact ⟨_, ⟨call, hcall, rfl⟩, exists_condition?_iff.mp ⟨condition, hcondition, hrestricts⟩⟩
  · rintro ⟨_, ⟨call, hcall, rfl⟩, hrestricts⟩
    obtain ⟨condition, hcondition, hrestricts⟩ := exists_condition?_iff.mpr hrestricts
    exact ⟨condition, ⟨call, hcall, hcondition⟩, hrestricts⟩

theorem check_eq_map (context : CheckContext) :
    check context = (unconditioned context.tree).map (info.violationAt message) := by
  have hsame (visit : Visit) :
      (isQuery visit.node && !((calls context.tree.visits).filterMap fun call =>
          condition? call.node).any fun condition => condition.restricts visit.node) = true
        ↔ IsUnconditioned (callsIn context.tree) (.ofNode visit.node) := by
    rw [Bool.and_eq_true, Bool.not_eq_true', ← Bool.not_eq_true, any_restricts_iff, isQuery_iff,
      IsUnconditioned]
    simp only [not_exists, not_and]
  rw [check, unconditioned, calls, List.filter_filter, ← calls]
  refine congrArg _ (List.filter_congr fun visit _ => ?_)
  rw [Bool.eq_iff_iff, decide_eq_true_eq, Bool.and_eq_true, hsame, and_comm, Node.isCall,
    beq_iff_eq]

/-- The calls that are reported, in the order of the walk. -/
theorem map_ofNode_unconditioned (tree : Tree) :
    (unconditioned tree).map (fun visit => Call.ofNode visit.node)
      = (callsIn tree).filter fun query => IsUnconditioned (callsIn tree) query := by
  conv_rhs => rw [callsIn_eq, List.filter_map, calls, List.filter_filter]
  rw [unconditioned]
  refine congrArg _ (List.filter_congr fun visit _ => ?_)
  rw [Bool.eq_iff_iff, decide_eq_true_eq, Bool.and_eq_true, Function.comp, decide_eq_true_eq,
    and_comm, Node.isCall, beq_iff_eq, callsIn_eq]
  rfl

/-! ## What is called -/

/-- The name by which a call of a node goes. -/
def calleeName? (callee : Node) : Option String :=
  if callee.kind == "Identifier" then callee.name?
  else if callee.kind == "MemberExpression" then (callee.child? "property").bind Node.name?
  else none

/-- The name of a plain identifier. -/
def identifierName? (node : Node) : Option String :=
  if node.kind == "Identifier" then node.name? else none

/-- The plain identifier on which a call of a node is made. -/
def calleeReceiver? (callee : Node) : Option String :=
  if callee.kind == "MemberExpression" then (callee.child? "object").bind identifierName?
  else none

/-- The kind of a member. -/
def memberKind? (callee : Node) : Option String :=
  if callee.kind == "MemberExpression" then some callee.kind else none

/-- What a reading of nodes finds in a field that holds a node. -/
def inNode (view : Node → Option String) (field : Field) : Option String := field.node?.bind view

theorem child?_bind (node : Node) (name : String) (view : Node → Option String) :
    (node.child? name).bind view = (node.get? name).bind (inNode view) := by
  rw [Node.child?, Option.bind_assoc]
  rfl

theorem isMemberCall_eq (call : Node) :
    call.isMemberCall = ((call.child? "callee").bind memberKind?).isSome := by
  rw [Node.isMemberCall]
  cases call.child? "callee" with
  | none => rfl
  | some callee =>
      rw [Option.map_some, Option.getD_some, Option.bind_some, memberKind?]
      cases callee.kind == "MemberExpression" <;> rfl

/-- A node is no part of what is called: it is no identifier, no member, and has no name. -/
structure IsNoCallee (node : Node) : Prop where
  /-- It is no identifier. -/
  not_identifier : node.kind ≠ "Identifier"
  /-- It is no member. -/
  not_member : node.kind ≠ "MemberExpression"
  /-- It has no name. -/
  unnamed : node.name? = none

/-- A change of fields leaves alone what is called: it makes no difference to a name, nor to what is
found in a node if nothing is found in nodes that are no part of what is called. -/
structure SparesCallees (change : Entries Field → Entries Field → Prop) : Prop where
  /-- Names are the same. -/
  text : Ignores change Field.text?
  /-- What is found in nodes is the same. -/
  inNode : ∀ view, (∀ node, IsNoCallee node → view node = none) → Ignores change (inNode view)

theorem sparesCallees_reorders : SparesCallees Reorders :=
  ⟨Reorders.ignores fun _ => rfl, fun _ _ => Reorders.ignores fun _ => rfl⟩

theorem sparesCallees_gainsItem (added : Node) : SparesCallees (GainsItem added) :=
  ⟨GainsItem.ignores fun _ => rfl, fun _ _ => GainsItem.ignores fun _ => rfl⟩

theorem sparesCallees_gains {added : Node} (h : IsNoCallee added) : SparesCallees (Gains added) :=
  ⟨Gains.ignores (fun _ => rfl) rfl rfl,
    fun _ hview => Gains.ignores (fun _ => rfl) rfl (hview added h)⟩

section Changed

variable {isOpen : String → Prop} {change : Entries Field → Entries Field → Prop}
  {node node' : Node}

/-- A reading of the node in a field finds the same after the change if it finds the same in each
node around the changed one. -/
theorem SparesCallees.child?_bind_eq (hspares : SparesCallees change)
    {view : Node → Option String} (hview : ∀ node, IsNoCallee node → view node = none)
    (hsame : ∀ child child', Node.Changed isOpen change child child' → view child' = view child)
    (h : Node.Changed isOpen change node node') (name : String) :
    (node'.child? name).bind view = (node.child? name).bind view := by
  rw [child?_bind, child?_bind]
  exact h.bind_get?_eq (hspares.inNode view hview) hsame name

theorem SparesCallees.name?_eq (hspares : SparesCallees change)
    (h : Node.Changed isOpen change node node') : node'.name? = node.name? :=
  h.bind_get?_eq hspares.text (fun _ _ _ => rfl) "name"

theorem SparesCallees.identifierName?_eq (hspares : SparesCallees change)
    (h : Node.Changed isOpen change node node') : identifierName? node' = identifierName? node := by
  rw [identifierName?, identifierName?, h.kind_eq.1, hspares.name?_eq h]

theorem SparesCallees.calleeName?_eq (hspares : SparesCallees change)
    (h : Node.Changed isOpen change node node') : calleeName? node' = calleeName? node := by
  rw [calleeName?, calleeName?, h.kind_eq.1, hspares.name?_eq h,
    hspares.child?_bind_eq (fun _ hnode => hnode.unnamed) (fun _ _ => hspares.name?_eq) h]

theorem SparesCallees.calleeReceiver?_eq (hspares : SparesCallees change)
    (h : Node.Changed isOpen change node node') :
    calleeReceiver? node' = calleeReceiver? node := by
  rw [calleeReceiver?, calleeReceiver?, h.kind_eq.1]
  rw [hspares.child?_bind_eq (fun _ hnode => ?_) (fun _ _ => hspares.identifierName?_eq) h]
  rw [identifierName?, if_neg (by simpa using hnode.not_identifier)]

/-- A call around the changed node is the call it was. -/
theorem SparesCallees.callOf?_eq (hspares : SparesCallees change)
    (h : Node.Changed isOpen change node node') : callOf? node' = callOf? node := by
  -- all that is read off a call but its kind and location is read off the callee
  have hname : node'.callName? = node.callName? := by
    refine hspares.child?_bind_eq (fun _ hnode => ?_) (fun _ _ => hspares.calleeName?_eq) h "callee"
    rw [calleeName?, if_neg (by simpa using hnode.not_identifier),
      if_neg (by simpa using hnode.not_member)]
  have hreceiver : node'.callReceiver? = node.callReceiver? := by
    refine hspares.child?_bind_eq (fun _ hnode => ?_) (fun _ _ => hspares.calleeReceiver?_eq) h
      "callee"
    rw [calleeReceiver?, if_neg (by simpa using hnode.not_member)]
  have hmember : node'.isMemberCall = node.isMemberCall := by
    rw [isMemberCall_eq, isMemberCall_eq]
    refine congrArg Option.isSome (hspares.child?_bind_eq (fun _ hnode => ?_) (fun _ _ hchild => ?_)
      h "callee")
    · rw [memberKind?, if_neg (by simpa using hnode.not_member)]
    · rw [memberKind?, memberKind?, hchild.kind_eq.1]
  obtain ⟨hkind, hloc, -⟩ := h.kind_eq
  rw [callOf?, callOf?, Node.isCall, Node.isCall, Call.ofNode, Call.ofNode, hkind, hloc, hname,
    hreceiver, hmember]

end Changed

section Calls

variable {tree other : Tree} {added : Node}

/-- A subtree is put into a tree: into a list, or, if it is no part of what is called, anywhere. -/
def IsPutIn (added : Node) (tree other : Tree) : Prop :=
  tree.root.Changed (fun _ => True) (GainsItem added) other.root
    ∨ IsNoCallee added ∧ tree.root.Changed (fun _ => True) (Gains added) other.root

/-- A subtree that is put in brings its calls, and the others stay the same. -/
theorem IsPutIn.exists_callsIn_eq (h : IsPutIn added tree other) :
    ∃ front back, callsIn tree = front ++ back
      ∧ callsIn other = front ++ callsIn ⟨added⟩ ++ back := by
  rcases h with hitem | ⟨hadded, hgains⟩
  · exact hitem.collect_gains (fun _ _ => .item)
      fun _ _ => (sparesCallees_gainsItem added).callOf?_eq
  · exact hgains.collect_gains (fun _ _ hgains => hgains)
      fun _ _ => (sparesCallees_gains hadded).callOf?_eq

/-- Another order of what nodes hold is another order of the calls. -/
theorem callsIn_perm (h : tree.root.Reordered other.root) :
    (callsIn tree).Perm (callsIn other) :=
  h.collect_perm fun _ _ => sparesCallees_reorders.callOf?_eq

/-- The calls that are reported, in pre-order. -/
def reportedCalls (tree : Tree) : List Call :=
  (unconditioned tree).map fun visit => .ofNode visit.node

theorem mem_reportedCalls_iff {query : Call} :
    query ∈ reportedCalls tree
      ↔ query ∈ callsIn tree ∧ IsUnconditioned (callsIn tree) query := by
  rw [reportedCalls, map_ofNode_unconditioned, List.mem_filter, decide_eq_true_eq]

theorem reportedCalls_perm (h : (callsIn tree).Perm (callsIn other)) :
    (reportedCalls tree).Perm (reportedCalls other) := by
  have hsame (query : Call) :
      IsUnconditioned (callsIn tree) query ↔ IsUnconditioned (callsIn other) query :=
    ⟨IsUnconditioned.anti h.symm.subset, IsUnconditioned.anti h.subset⟩
  rw [reportedCalls, reportedCalls, map_ofNode_unconditioned, map_ofNode_unconditioned]
  simp only [hsame]
  exact h.filter _

/-- Of the calls that were there no other ones are reported when a subtree is put in. -/
theorem IsPutIn.exists_reportedCalls_eq (h : IsPutIn added tree other) :
    ∃ front new back, reportedCalls other = front ++ new ++ back
      ∧ (front ++ back).Sublist (reportedCalls tree) ∧ new.Sublist (callsIn ⟨added⟩) := by
  obtain ⟨front, back, hbefore, hafter⟩ := h.exists_callsIn_eq
  have hsubset : callsIn tree ⊆ callsIn other := by
    intro call hcall
    rw [hbefore, List.mem_append] at hcall
    rw [hafter, List.mem_append, List.mem_append]
    exact hcall.imp_left .inl
  refine ⟨front.filter fun query => IsUnconditioned (callsIn other) query,
    (callsIn ⟨added⟩).filter fun query => IsUnconditioned (callsIn other) query,
    back.filter fun query => IsUnconditioned (callsIn other) query, ?_, ?_, List.filter_sublist⟩
  · -- the calls to filter come in three parts, those to filter by stay together
    rw [reportedCalls, map_ofNode_unconditioned]
    conv_lhs => rw [hafter]
    rw [List.filter_append, List.filter_append, ← hafter]
  · rw [reportedCalls, map_ofNode_unconditioned, ← List.filter_append]
    conv_rhs => rw [hbefore]
    refine List.monotone_filter_right _ fun query hquery => ?_
    rw [decide_eq_true_eq] at hquery ⊢
    exact hbefore ▸ hquery.anti hsubset

end Calls

/-- The rule reports, in pre-order and once each, the member calls named `query` that no call in
the tree restricts by a condition on the same plain identifier at an earlier place of the source.
Another order of the calls, such as that of reordered subtrees, changes nothing about which ones
are reported. Of the calls that were there no other ones are reported when there are more, such as
those of a subtree that is put in. -/
theorem check_eq_unconditioned (context : CheckContext) :
    rule.check context = .found ((unconditioned context.tree).map (info.violationAt message))
      ∧ (unconditioned context.tree).Pairwise (fun visit other => visit.index < other.index)
      ∧ (∀ other, (callsIn context.tree).Perm (callsIn other) →
          (reportedCalls context.tree).Perm (reportedCalls other))
      ∧ (∀ other, context.tree.root.Reordered other.root →
          (reportedCalls context.tree).Perm (reportedCalls other))
      ∧ (∀ other, callsIn context.tree ⊆ callsIn other →
          ∀ query ∈ callsIn context.tree, query ∈ reportedCalls other →
            query ∈ reportedCalls context.tree)
      ∧ ∀ added other, IsPutIn added context.tree other →
          ∃ front new back, reportedCalls other = front ++ new ++ back
            ∧ (front ++ back).Sublist (reportedCalls context.tree)
            ∧ new.Sublist (callsIn ⟨added⟩) := by
  refine ⟨?_, ?_, fun _ => reportedCalls_perm, fun _ h => reportedCalls_perm (callsIn_perm h),
    fun other hsubset query hquery hreported => ?_, fun _ _ => IsPutIn.exists_reportedCalls_eq⟩
  · rw [← check_eq_map]
    rfl
  · exact (Tree.pairwise_index_visits context.tree).filter _
  · have hmore := (mem_reportedCalls_iff.mp hreported).2
    exact mem_reportedCalls_iff.mpr ⟨hquery, hmore.anti hsubset⟩

/-- The condition stands behind the query in the tree and before it in the source. Putting it in
front changes nothing, and neither does a condition for the other query that stands behind it in
the source. -/
theorem check_eq_unconditioned_two_records :
    let identifier := fun name => Node.mk "Identifier" none [("name", .leaf (.str name))]
    let call := fun (record method : String) (line : Int) =>
      Node.mk "CallExpression" (some ⟨line, 0, line, 9⟩)
        [("callee", .node (.mk "MemberExpression" none
          [("object", .node (identifier record)), ("property", .node (identifier method))]))]
    let program := fun body : List Node =>
      (⟨.mk "Program" none [("body", .list (body.map .node))]⟩ : Tree)
    let tree := program [call "a" "query" 2, call "b" "query" 3, call "a" "addQuery" 1]
    let reordered := program [call "a" "addQuery" 1, call "a" "query" 2, call "b" "query" 3]
    let other := program
      [call "a" "query" 2, call "b" "query" 3, call "a" "addQuery" 1, call "b" "addQuery" 4]
    let context : CheckContext := { tree, source := "", fileName := "x.js" }
    rule.check context = .found ((unconditioned tree).map (info.violationAt message))
      ∧ (reportedCalls tree).map (·.receiver) = [some "b"]
      ∧ (reportedCalls tree).Perm (reportedCalls reordered)
      ∧ ∃ front new back, reportedCalls other = front ++ new ++ back
          ∧ (front ++ back).Sublist (reportedCalls tree)
          ∧ new.Sublist (callsIn ⟨call "b" "addQuery" 4⟩) := by
  intro identifier call program tree reordered other context
  obtain ⟨hcheck, -, -, hreordered, -, hputIn⟩ := check_eq_unconditioned context
  have hitems : Reorders tree.root.fields reordered.root.fields :=
    .items [] [] "body" (List.perm_append_comm :
      ([.node (call "a" "query" 2), .node (call "b" "query" 3)]
        ++ [.node (call "a" "addQuery" 1)] : List Field).Perm _)
  have hitem : GainsItem (call "b" "addQuery" 4) tree.root.fields other.root.fields :=
    .intro [] [] "body" [.node (call "a" "query" 2), .node (call "b" "query" 3),
      .node (call "a" "addQuery" 1)] []
  exact ⟨hcheck, by decide +kernel, hreordered reordered (.single (.here none trivial hitems)),
    hputIn _ other (.inl (.here none trivial hitem))⟩

end ScriptAdvisor.UnconditionedQuery
