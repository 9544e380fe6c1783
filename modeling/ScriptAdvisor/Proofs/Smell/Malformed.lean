import Mathlib.Tactic.FinCases
import ScriptAdvisor.Proofs.Except
import ScriptAdvisor.Proofs.Tree.Preorder
import ScriptAdvisor.Smell.LoggedError
import ScriptAdvisor.Smell.MissingReturnType
import ScriptAdvisor.Smell.UnusedImport

/-! # Which malformed trees stop a rule

A field of a node can hold any value, and three rules go into fields without looking first: the log
rule into the arguments of a call, the import rule into the specifiers of an import, the type rule
into the kind of a method. Each of them fails on values of certain shapes, and on nothing else.

* `LoggedError.HasBadArguments`, `UnusedImport.HasBadSpecifiers` and `MissingReturnType.HasBadKind`
  name these shapes.
* `error?_check` in each of the three namespaces says that the check fails by the first node with
  such a value.
* `Catalogue.failed_iff_malformed` puts the three together. -/

namespace ScriptAdvisor

theorem CheckOutcome.exists_ofExcept_eq_failed_iff {result : Except Fault (List Violation)} :
    (∃ fault, CheckOutcome.ofExcept result = .failed fault) ↔ result.error?.isSome := by
  cases result with
  | ok violations => simp [ofExcept, Except.error?]
  | error fault => simp [ofExcept, Except.error?]

/-! ## Arguments of log calls -/

namespace LoggedError

/-- A call has arguments, but they are no list that starts with a node. -/
def HasBadArguments (call : Node) : Prop :=
  ∃ arguments, call.get? "arguments" = some arguments ∧ arguments.isTruthy = true
    ∧ ¬∃ first rest, arguments = .list (.node first :: rest)

/-- Only a node is taken for an argument. -/
theorem isSome_error?_argumentNode {argument : Field} :
    (argumentNode argument).error?.isSome ↔ ¬∃ node, argument = .node node := by
  cases argument with
  | node node => simp [argumentNode, Except.error?]
  | list items => simp [argumentNode, Except.error?]
  | leaf value => cases value <;> simp [argumentNode, Except.error?]

/-- Of values that count as present only lists and texts have a first item. -/
theorem firstItem?_eq_of_isTruthy {arguments : Field} (h : arguments.isTruthy = true) :
    (∃ first rest, arguments = .list (first :: rest) ∧ firstItem? arguments = .ok (some first))
      ∨ (∀ items, arguments ≠ .list items)
        ∧ ((∃ fault, firstItem? arguments = .error fault)
          ∨ ∃ c : Char, firstItem? arguments = .ok (some (.leaf (.str c.toString)))) := by
  cases arguments with
  | node node => exact .inr ⟨by simp, .inl ⟨_, rfl⟩⟩
  | list items =>
      cases items with
      | nil => exact absurd h (by simp [Field.isTruthy])
      | cons first rest => exact .inl ⟨first, rest, rfl, rfl⟩
  | leaf value =>
      cases value with
      | str text =>
          -- a text that counts as present is not empty
          have htext : text.toList ≠ [] := by
            intro hempty
            rw [String.toList_eq_nil_iff] at hempty
            rw [hempty] at h
            exact absurd h (by decide)
          obtain ⟨c, rest, hcons⟩ := List.exists_cons_of_ne_nil htext
          exact .inr ⟨by simp, .inr ⟨c, by rw [firstItem?, hcons]; rfl⟩⟩
      | null | bool _ | int _ | float _ | arr _ | obj _ => exact .inr ⟨by simp, .inl ⟨_, rfl⟩⟩

/-- A call stops the rule by its arguments alone. -/
theorem isSome_error?_logsError {call : Node} :
    (logsError call).error?.isSome ↔ HasBadArguments call := by
  rw [logsError, HasBadArguments]
  cases hget : call.get? "arguments" with
  | none => simp [Except.error?]
  | some arguments =>
      simp only [Option.some.injEq, exists_eq_left']
      by_cases htruthy : arguments.isTruthy = true
      · rw [if_pos htruthy]
        simp only [htruthy, true_and]
        rcases firstItem?_eq_of_isTruthy htruthy with
          ⟨first, rest, rfl, hfirst⟩ | ⟨hlist, ⟨fault, hfault⟩ | ⟨c, hfirst⟩⟩
        · -- the first item of a list has to be a node
          rw [hfirst]
          show (Except.map isErrorLiteral (argumentNode first)).error?.isSome = true ↔ _
          rw [Except.error?_map, isSome_error?_argumentNode]
          simp
        · rw [hfault]
          refine iff_of_true rfl ?_
          rintro ⟨first, rest, rfl⟩
          exact hlist _ rfl
        · rw [hfirst]
          refine iff_of_true rfl ?_
          rintro ⟨first, rest, rfl⟩
          exact hlist _ rfl
      · rw [if_neg htruthy]
        simp [htruthy, Except.error?]

/-- The calls are gone through until one stops the rule. -/
theorem error?_loggedErrors (visits : List Visit) :
    (loggedErrors visits).error? = visits.findSome? fun visit => (logsError visit.node).error? :=
  Except.error?_run (fun visit => logsError visit.node)
    (fun visit hit more => if hit then visit :: more else more) rfl (fun _ _ => rfl) visits

theorem isLogReceiver_iff {call : Node} :
    isLogReceiver call = true ↔ call.callReceiver? = none ∨ call.callReceiver? = some "gs" := by
  rw [isLogReceiver]
  cases call.callReceiver? with
  | none => simp
  | some receiver => simp

/-- The check fails by the first call of `log`, on `gs` or on nothing that is a plain identifier,
whose arguments are bad. -/
theorem error?_check (context : CheckContext) :
    (check context).error?
      = (logCalls context.tree).findSome? fun visit => (logsError visit.node).error? := by
  rw [check, Except.error?_map, error?_loggedErrors]

theorem isSome_error?_check_iff {context : CheckContext} :
    (check context).error?.isSome
      ↔ ∃ visit ∈ context.tree.visits, visit.node.kind = "CallExpression"
          ∧ visit.node.callName? = some "log"
          ∧ (visit.node.callReceiver? = none ∨ visit.node.callReceiver? = some "gs")
          ∧ HasBadArguments visit.node := by
  rw [error?_check, List.findSome?_isSome_iff]
  simp only [isSome_error?_logsError, logCalls, callsOf, List.mem_filter, isLogReceiver_iff,
    Bool.and_eq_true, Node.isCall, beq_iff_eq, and_assoc]

end LoggedError

/-! ## Specifiers of imports -/

namespace UnusedImport

/-- An import has specifiers, but they are no list of nodes. -/
def HasBadSpecifiers (declaration : Node) : Prop :=
  ∃ specifiers, declaration.get? "specifiers" = some specifiers ∧ specifiers.isTruthy = true
    ∧ ¬∃ nodes : List Node, specifiers = .list (nodes.map .node)

theorem firstFault?_eq_none_iff {items : List Field} :
    firstFault? items = none ↔ ∃ nodes : List Node, items = nodes.map .node := by
  induction items with
  | nil => exact iff_of_true rfl ⟨[], rfl⟩
  | cons item items ih =>
      cases item with
      | node node =>
          rw [firstFault?, ih]
          constructor
          · rintro ⟨nodes, rfl⟩
            exact ⟨node :: nodes, rfl⟩
          · rintro ⟨nodes, hnodes⟩
            obtain ⟨first, rest, rfl, -, hrest⟩ := List.map_eq_cons_iff.mp hnodes.symm
            exact ⟨rest, hrest.symm⟩
      | list _ | leaf _ =>
          refine iff_of_false (by simp [firstFault?]) ?_
          rintro ⟨nodes, hnodes⟩
          obtain ⟨first, rest, rfl, hfirst, -⟩ := List.map_eq_cons_iff.mp hnodes.symm
          contradiction

/-- Only a list of nodes can be gone through as specifiers. -/
theorem specifierFault?_eq_none_iff {value : Field} :
    specifierFault? value = none ↔ ∃ nodes : List Node, value = .list (nodes.map .node) := by
  cases value with
  | node node => simp [specifierFault?]
  | list items => simp [specifierFault?, firstFault?_eq_none_iff]
  | leaf value => cases value <;> simp [specifierFault?]

/-- An import stops the rule by its specifiers alone. -/
theorem isSome_error?_specifiers {declaration : Visit} :
    (specifiers declaration).error?.isSome ↔ HasBadSpecifiers declaration.node := by
  rw [specifiers, HasBadSpecifiers]
  cases hget : declaration.node.get? "specifiers" with
  | none => simp [Except.error?]
  | some value =>
      simp only [Option.some.injEq, exists_eq_left', ← specifierFault?_eq_none_iff]
      by_cases htruthy : value.isTruthy = true
      · rw [if_pos htruthy]
        cases specifierFault? value with
        | none => simp [Except.error?]
        | some fault => simp [Except.error?, htruthy]
      · simp [htruthy, Except.error?]

/-- The check fails by the first import with bad specifiers. -/
theorem error?_check (context : CheckContext) :
    (check context).error?
      = (imports context.tree).findSome? fun declaration => (specifiers declaration).error? :=
  Except.error?_run specifiers
    (fun _ here more => here.filterMap (checkSpecifier (usedNames context.tree)) ++ more)
    rfl (fun _ _ => rfl) (imports context.tree)

theorem isSome_error?_check_iff {context : CheckContext} :
    (check context).error?.isSome
      ↔ ∃ visit ∈ context.tree.visits, visit.node.kind = "ImportDeclaration"
          ∧ HasBadSpecifiers visit.node := by
  rw [error?_check, List.findSome?_isSome_iff]
  simp only [isSome_error?_specifiers, imports, ofKinds, List.mem_filter, List.contains_iff_mem,
    List.mem_singleton, and_assoc]

end UnusedImport

/-! ## Kinds of methods -/

namespace MissingReturnType

/-- A method has a list or an object, which is no node, for its kind. -/
def HasBadKind (method : Node) : Prop :=
  (∃ items, method.get? "kind" = some (.list items))
    ∨ ∃ entries, method.get? "kind" = some (.leaf (.obj entries))

theorem isSome_error?_isExempt {method : Node} :
    (isExempt method).error?.isSome ↔ HasBadKind method := by
  rw [isExempt, HasBadKind]
  cases method.get? "kind" with
  | none => simp [Except.error?]
  | some value =>
      cases value with
      | node node => simp [Except.error?]
      | list items => simp [Except.error?]
      | leaf value => cases value <;> simp [Except.error?]

/-- Only a method stops the rule, and by its kind alone. -/
theorem isSome_error?_lacksReturnType {node : Node} :
    (lacksReturnType node).error?.isSome ↔ node.kind = "MethodDefinition" ∧ HasBadKind node := by
  rw [lacksReturnType, target?]
  by_cases hkind : node.kind = "MethodDefinition"
  · simp only [hkind, beq_self_eq_true, if_true, true_and, ← isSome_error?_isExempt]
    cases isExempt node with
    | error fault => rfl
    | ok exempt => cases exempt <;> rfl
  · have hother : (node.kind == "MethodDefinition") = false := by simp [hkind]
    simp only [hother, hkind, false_and, iff_false]
    exact Bool.false_ne_true

/-- The check fails by the first method with a bad kind. -/
theorem error?_check (context : CheckContext) :
    (check context).error?
      = (ofKinds candidateKinds context.tree.visits).findSome? fun visit =>
          (lacksReturnType visit.node).error? := by
  rw [check, Except.error?_map]
  exact Except.error?_run (fun visit : Visit => lacksReturnType visit.node)
    (fun visit hit more => if hit then visit :: more else more) rfl (fun _ _ => rfl) _

theorem isSome_error?_check_iff {context : CheckContext} :
    (check context).error?.isSome
      ↔ ∃ visit ∈ context.tree.visits, visit.node.kind = "MethodDefinition"
          ∧ HasBadKind visit.node := by
  rw [error?_check, List.findSome?_isSome_iff]
  simp only [isSome_error?_lacksReturnType, ofKinds, List.mem_filter, List.contains_iff_mem]
  constructor
  · rintro ⟨visit, ⟨hmem, -⟩, hbad⟩
    exact ⟨visit, hmem, hbad⟩
  · rintro ⟨visit, hmem, hkind, hbad⟩
    exact ⟨visit, ⟨hmem, by rw [hkind]; decide⟩, hkind, hbad⟩

end MissingReturnType

/-! ## The three rules -/

namespace Catalogue

/-- On any tree, each of the three rules fails exactly if some node of the tree holds a value of one
of its bad shapes where the rule goes into it. -/
theorem failed_iff_malformed (context : CheckContext) :
    ((∃ fault, LoggedError.rule.check context = .failed fault)
        ↔ ∃ node ∈ context.tree.root.preorder, node.kind = "CallExpression"
            ∧ node.callName? = some "log"
            ∧ (node.callReceiver? = none ∨ node.callReceiver? = some "gs")
            ∧ LoggedError.HasBadArguments node)
      ∧ ((∃ fault, UnusedImport.rule.check context = .failed fault)
        ↔ ∃ node ∈ context.tree.root.preorder, node.kind = "ImportDeclaration"
            ∧ UnusedImport.HasBadSpecifiers node)
      ∧ ((∃ fault, MissingReturnType.rule.check context = .failed fault)
        ↔ ∃ node ∈ context.tree.root.preorder, node.kind = "MethodDefinition"
            ∧ MissingReturnType.HasBadKind node) := by
  rw [← Tree.exists_visit_iff, ← Tree.exists_visit_iff, ← Tree.exists_visit_iff]
  refine ⟨?_, ?_, ?_⟩
  · exact CheckOutcome.exists_ofExcept_eq_failed_iff.trans LoggedError.isSome_error?_check_iff
  · exact CheckOutcome.exists_ofExcept_eq_failed_iff.trans UnusedImport.isSome_error?_check_iff
  · exact CheckOutcome.exists_ofExcept_eq_failed_iff.trans MissingReturnType.isSome_error?_check_iff

/-- A text in place of the arguments stops the log rule, and `null` among the specifiers the import
rule. The type rule is not stopped by a node for the kind of a method. -/
theorem failed_iff_malformed_one_each :
    let call := Node.mk "CallExpression" none
      [("callee", .node (.mk "Identifier" none [("name", .leaf (.str "log"))])),
        ("arguments", .leaf (.str "failed"))]
    let declaration := Node.mk "ImportDeclaration" none [("specifiers", .list [.leaf .null])]
    let method := Node.mk "MethodDefinition" none [("kind", .node (.mk "Identifier" none []))]
    let body := [call, declaration, method].map Field.node
    let context : CheckContext :=
      { tree := ⟨.mk "Program" none [("body", .list body)]⟩, source := "", fileName := "x.ts" }
    (∃ fault, LoggedError.rule.check context = .failed fault)
      ∧ (∃ fault, UnusedImport.rule.check context = .failed fault)
      ∧ ¬∃ fault, MissingReturnType.rule.check context = .failed fault := by
  intro call declaration method body context
  obtain ⟨hlogged, hunused, hmissing⟩ := failed_iff_malformed context
  have hnodes : context.tree.root.preorder
      = [context.tree.root, call, .mk "Identifier" none [("name", .leaf (.str "log"))],
        declaration, method, .mk "Identifier" none []] := rfl
  rw [hnodes] at hlogged hunused hmissing
  refine ⟨hlogged.mpr ⟨call, by simp, rfl, by decide, .inl (by decide), _, rfl, by decide, ?_⟩,
    hunused.mpr ⟨declaration, by simp, rfl, _, rfl, rfl, ?_⟩, ?_⟩
  · rintro ⟨first, rest, h⟩
    exact Field.noConfusion h
  · rintro ⟨nodes, h⟩
    obtain ⟨node, rest, -, hnode, -⟩ := List.map_eq_cons_iff.mp (Field.list.inj h).symm
    exact Field.noConfusion hnode
  · -- the kind of the only method is a node
    rw [hmissing]
    rintro ⟨node, hmem, hkind, hbad⟩
    have hmethod : node = method := by
      fin_cases hmem <;> first | rfl | exact absurd hkind (by decide)
    subst hmethod
    rcases hbad with ⟨items, h⟩ | ⟨entries, h⟩ <;> exact Field.noConfusion (Option.some.inj h)

end Catalogue

end ScriptAdvisor
