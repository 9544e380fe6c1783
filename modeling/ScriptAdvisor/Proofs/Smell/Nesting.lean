import ScriptAdvisor.Proofs.Tree.Preorder
import ScriptAdvisor.Smell.NestedLoop
import ScriptAdvisor.Smell.NestedQuery

/-! # What is reported inside loops

Two rules look for what is inside loops. One walks the tree below every loop and passes over what it
has met before; the other keeps a stack of its own and counts loops on the way down. Both come to
what the loops around a node say.

* `Violation.IsAt` says where a violation at a node is.
* `NestedQuery.check_eq_nested`: the queries reported are those with a loop around them. That each
  of them comes once and in the order of the walk is `NestedQuery.firstVisits_flatMap`.
* `NestedLoop.check_eq_deep`: the loops reported are those with enough loops around them. The count
  that is kept on the stack is theirs by `NestedLoop.loopStack_eq_map`. -/

namespace ScriptAdvisor

/-- A violation is at a visited node: it names the node and starts and ends where the node does,
with columns counted from one. Without a location it is at the first character and has no end. -/
structure Violation.IsAt (violation : Violation) (visit : Visit) : Prop where
  /-- It names the node. -/
  node : violation.node = some visit.index
  /-- It is where the node is. -/
  located : ∀ location, visit.node.loc = some location →
    violation.line = location.startLine ∧ violation.column = location.startColumn + 1
      ∧ violation.endLine = some location.endLine
      ∧ violation.endColumn = some (location.endColumn + 1)
  /-- It is at the first character. -/
  unlocated : visit.node.loc = none →
    violation.line = 1 ∧ violation.column = 1 ∧ violation.endLine = none
      ∧ violation.endColumn = none

theorem RuleInfo.isAt_violationAt (info : RuleInfo) (message : String) (visit : Visit) :
    (info.violationAt message visit).IsAt visit := by
  refine ⟨rfl, fun location hloc => ?_, fun hloc => ?_⟩
  all_goals
    simp only [violationAt, Node.line, Node.column, hloc]
    exact ⟨rfl, rfl, rfl, rfl⟩

theorem not_isCall_of_isLoop {node : Node} (h : node.isLoop = true) : node.isCall = false := by
  rw [Node.isCall, beq_eq_false_iff_ne]
  intro hkind
  rw [Node.isLoop, hkind] at h
  exact absurd h (by decide)

/-! ## Queries -/

namespace NestedQuery

/-! ### Each once -/

section FirstVisits

variable {seen : List Nat} {visit : Visit}

theorem firstVisits_cons_of_mem (h : visit.index ∈ seen) (rest : List Visit) :
    firstVisits seen (visit :: rest) = firstVisits seen rest := by
  rw [firstVisits, if_pos (List.contains_iff_mem.mpr h)]

theorem firstVisits_cons_of_notMem (h : visit.index ∉ seen) (rest : List Visit) :
    firstVisits seen (visit :: rest) = visit :: firstVisits (visit.index :: seen) rest := by
  rw [firstVisits, if_neg fun hmem => h (List.contains_iff_mem.mp hmem)]

/-- Only which steps have been seen matters. -/
theorem firstVisits_congr {seen' : List Nat} (h : ∀ index, index ∈ seen ↔ index ∈ seen')
    (visits : List Visit) : firstVisits seen visits = firstVisits seen' visits := by
  induction visits generalizing seen seen' with
  | nil => rfl
  | cons visit visits ih =>
      by_cases hseen : visit.index ∈ seen
      · rw [firstVisits_cons_of_mem hseen, firstVisits_cons_of_mem ((h _).mp hseen), ih h]
      · rw [firstVisits_cons_of_notMem hseen,
          firstVisits_cons_of_notMem fun hmem => hseen ((h _).mpr hmem)]
        congr 1
        exact ih fun index => by rw [List.mem_cons, List.mem_cons, h]

/-- Of steps in order those are kept that have not been seen. -/
theorem firstVisits_append {front : List Visit}
    (hfront : front.Pairwise fun visit other => visit.index < other.index) (back : List Visit) :
    firstVisits seen (front ++ back)
      = (front.filter fun visit => visit.index ∉ seen)
        ++ firstVisits (front.map (·.index) ++ seen) back := by
  induction front generalizing seen with
  | nil => rfl
  | cons visit front ih =>
      obtain ⟨hlt, hfront⟩ := List.pairwise_cons.mp hfront
      -- a step that is kept has been seen from then on, which takes none of those behind it away
      by_cases hseen : visit.index ∈ seen
      · rw [List.cons_append, firstVisits_cons_of_mem hseen, ih hfront,
          List.filter_cons_of_neg (by simpa using hseen)]
        congr 1
        refine firstVisits_congr (fun index => ?_) back
        rw [List.map_cons, List.cons_append, List.mem_cons, iff_or_self]
        rintro rfl
        exact List.mem_append_right _ hseen
      · rw [List.cons_append, firstVisits_cons_of_notMem hseen, ih hfront,
          List.filter_cons_of_pos (by simpa using hseen), List.cons_append]
        congr 2
        · refine List.filter_congr fun other hother => ?_
          have hne : other.index ≠ visit.index := (hlt other hother).ne'
          simp [hne]
        · refine firstVisits_congr (fun index => ?_) back
          simp only [List.map_cons, List.cons_append, List.mem_cons, List.mem_append]
          exact or_left_comm

end FirstVisits

section Ordered

variable {walk : List Visit}

/-- Two choices from a walk, one behind the other, are the choice of both. -/
theorem filter_append_filter {isFirst isSecond : Visit → Bool}
    (hsorted : walk.Pairwise fun visit other => visit.index < other.index)
    (hlt : ∀ visit ∈ walk, ∀ other ∈ walk, isFirst visit = true → isSecond other = true →
      visit.index < other.index) :
    walk.filter isFirst ++ walk.filter isSecond
      = walk.filter fun visit => isFirst visit || isSecond visit := by
  induction walk with
  | nil => rfl
  | cons visit walk ih =>
      obtain ⟨hbefore, hsorted⟩ := List.pairwise_cons.mp hsorted
      have hrest := ih hsorted fun visit hvisit other hother =>
        hlt visit (List.mem_cons_of_mem _ hvisit) other (List.mem_cons_of_mem _ hother)
      cases hfirst : isFirst visit with
      | true =>
          have hsecond : isSecond visit = false := by
            by_contra h
            exact Nat.lt_irrefl _ (hlt visit List.mem_cons_self visit List.mem_cons_self hfirst
              (by simpa using h))
          rw [List.filter_cons_of_pos hfirst, List.filter_cons_of_neg (by simp [hsecond]),
            List.filter_cons_of_pos (by simp [hfirst]), List.cons_append, hrest]
      | false =>
          rw [List.filter_cons_of_neg (by simp [hfirst])]
          cases hsecond : isSecond visit with
          | false =>
              rw [List.filter_cons_of_neg (by simp [hsecond]),
                List.filter_cons_of_neg (by simp [hfirst, hsecond]), hrest]
          | true =>
              -- nothing of the first choice comes behind this step
              have hnil : walk.filter isFirst = [] := by
                rw [List.filter_eq_nil_iff]
                intro other hother h
                exact Nat.lt_asymm (hbefore other hother)
                  (hlt other (List.mem_cons_of_mem _ hother) visit List.mem_cons_self h hsecond)
              rw [hnil, List.nil_append] at hrest ⊢
              rw [List.filter_cons_of_pos hsecond, List.filter_cons_of_pos (by simp [hsecond]),
                hrest]

/-- Choices from a walk that are nested or apart, each step of them once: these are the steps that
are in any of the choices, in the order of the walk. -/
theorem firstVisits_flatMap {isInside : Visit → Visit → Bool}
    (hsorted : walk.Pairwise fun visit other => visit.index < other.index) {outers : List Visit}
    (hnested : outers.Pairwise fun outer later => ∀ visit ∈ walk, ∀ other ∈ walk,
      isInside outer visit = true → isInside later other = true → isInside outer other = false →
      visit.index < other.index) (seen : List Nat) :
    firstVisits seen (outers.flatMap fun outer => walk.filter (isInside outer))
      = walk.filter fun visit => visit.index ∉ seen ∧ outers.any (isInside · visit) := by
  induction outers generalizing seen with
  | nil => simp [firstVisits]
  | cons outer outers ih =>
      obtain ⟨hfirst, hnested⟩ := List.pairwise_cons.mp hnested
      rw [List.flatMap_cons, firstVisits_append (hsorted.filter _), ih hnested, List.filter_filter]
      -- what the later choices add is not in the first one
      have hseen : ∀ visit ∈ walk, visit.index
          ∈ (walk.filter (isInside outer)).map (·.index) ++ seen
          ↔ isInside outer visit = true ∨ visit.index ∈ seen := by
        intro visit hvisit
        rw [List.mem_append, List.mem_map]
        refine or_congr_left ⟨?_, fun h => ⟨visit, List.mem_filter.mpr ⟨hvisit, h⟩, rfl⟩⟩
        rintro ⟨other, hother, heq⟩
        obtain ⟨hmem, hinside⟩ := List.mem_filter.mp hother
        have hnodup : (walk.map (·.index)).Nodup :=
          List.pairwise_map.mpr (hsorted.imp Nat.ne_of_lt)
        rwa [← List.inj_on_of_nodup_map hnodup hmem hvisit heq]
      rw [filter_append_filter hsorted]
      · refine List.filter_congr fun visit hvisit => ?_
        simp only [hseen visit hvisit, List.any_cons, Bool.or_eq_true]
        by_cases hinside : isInside outer visit = true <;>
          by_cases hmem : visit.index ∈ seen <;> simp [hinside, hmem]
      · intro visit hvisit other hother hin hlater
        simp only [decide_eq_true_eq, hseen other hother, not_or, Bool.and_eq_true] at hin hlater
        obtain ⟨⟨houter, -⟩, hany⟩ := hlater
        obtain ⟨later, hmem, hinside⟩ := List.any_eq_true.mp hany
        exact hfirst later hmem visit hvisit other hother hin.2 hinside (by simpa using houter)

end Ordered

/-! ### The queries inside loops -/

/-- A query inside a loop: a call by the name `query` that has a loop around it. -/
def IsNested (tree : Tree) (visit : Visit) : Prop :=
  visit.node.kind = "CallExpression" ∧ visit.node.callName? = some "query"
    ∧ ∃ outer ∈ tree.ancestors visit, outer.node.kind ∈ loopKinds

instance (tree : Tree) : DecidablePred (IsNested tree) := fun _ =>
  inferInstanceAs (Decidable (_ ∧ _ ∧ _))

variable {tree : Tree}

/-- A step at a query with the given step around it. -/
def isQueryBelow (tree : Tree) (outer visit : Visit) : Bool :=
  (visit.node.isCall && visit.node.callName? == some "query") && tree.isAround outer visit

/-- The queries that the walk from a loop meets. -/
theorem callsOf_walk {loop : Visit} (h : loop ∈ loops tree.visits) :
    callsOf "query" loop.walk = tree.visits.filter (isQueryBelow tree loop) := by
  obtain ⟨hmem, hloop⟩ := List.mem_filter.mp h
  have hcall : loop.node.isCall = false := not_isCall_of_isLoop hloop
  rw [Visit.walk_eq_cons, callsOf, List.filter_cons_of_neg (by simp [hcall]),
    Tree.below_eq_filter hmem, List.filter_filter]
  rfl

/-- The queries below a loop that comes later are below the first one too, or behind all that is
below it. -/
theorem pairwise_loops (tree : Tree) :
    (loops tree.visits).Pairwise fun outer later => ∀ visit ∈ tree.visits, ∀ other ∈ tree.visits,
      isQueryBelow tree outer visit = true → isQueryBelow tree later other = true →
      isQueryBelow tree outer other = false → visit.index < other.index := by
  refine ((Tree.pairwise_index_visits tree).filter _).imp_of_mem ?_
  intro outer later houter hlater hlt visit hvisit other hother hin hlaterIn hout
  have houter := (List.mem_filter.mp houter).1
  have hlater := (List.mem_filter.mp hlater).1
  simp only [isQueryBelow, Bool.and_eq_true] at hin hlaterIn
  rw [isQueryBelow, Bool.and_eq_true_iff.mpr hlaterIn.1, Bool.true_and] at hout
  have hvisitBelow := (Tree.isAround_iff houter hvisit).mp hin.2
  have hotherBelow := (Tree.isAround_iff hlater hother).mp hlaterIn.2
  obtain ⟨before, behind, hsplit⟩ := Tree.exists_isSplit houter
  rcases hsplit.cases hother with hle | hbelow | hbehind
  · have := Tree.lt_index_of_mem_below hotherBelow
    omega
  · rw [(Tree.isAround_iff houter hother).mpr hbelow] at hout
    exact absurd hout (by simp)
  · exact hsplit.below_lt other hbehind visit hvisitBelow

theorem queriesInLoops_eq_filter (tree : Tree) :
    queriesInLoops tree = tree.visits.filter fun visit => IsNested tree visit := by
  have hcalls : (loops tree.visits).flatMap (fun loop => callsOf "query" loop.walk)
      = (loops tree.visits).flatMap fun loop => tree.visits.filter (isQueryBelow tree loop) :=
    List.flatMap_congr fun loop hloop => callsOf_walk hloop
  rw [queriesInLoops, hcalls,
    firstVisits_flatMap (Tree.pairwise_index_visits tree) (pairwise_loops tree)]
  refine List.filter_congr fun visit hvisit => ?_
  rw [decide_eq_decide, List.any_eq_true]
  constructor
  · rintro ⟨-, loop, hloop, hbelow⟩
    obtain ⟨hmem, hkind⟩ := List.mem_filter.mp hloop
    simp only [isQueryBelow, Bool.and_eq_true, Node.isCall, beq_iff_eq] at hbelow
    refine ⟨hbelow.1.1, hbelow.1.2, loop, ?_, List.contains_iff_mem.mp hkind⟩
    exact (Tree.mem_below_iff hmem hvisit).mp ((Tree.isAround_iff hmem hvisit).mp hbelow.2)
  · rintro ⟨hcall, hname, loop, hmem, hkind⟩
    have hloop := (Tree.mem_ancestors hvisit hmem).1
    refine ⟨List.not_mem_nil, loop,
      List.mem_filter.mpr ⟨hloop, List.contains_iff_mem.mpr hkind⟩, ?_⟩
    simp only [isQueryBelow, Bool.and_eq_true, Node.isCall, beq_iff_eq]
    exact ⟨⟨hcall, hname⟩,
      (Tree.isAround_iff hloop hvisit).mpr ((Tree.mem_below_iff hloop hvisit).mpr hmem)⟩

/-- The rule always comes to an end with a list: one violation for each query that has a loop around
it, each of them at its query. They come in the order of the walk, and this takes the nodes of the
tree in pre-order. -/
theorem check_eq_nested (context : CheckContext) :
    let nested := context.tree.visits.filter fun visit => IsNested context.tree visit
    rule.check context = .found (nested.map (info.violationAt message))
      ∧ (∀ visit ∈ nested, (info.violationAt message visit).IsAt visit)
      ∧ context.tree.visits.map (·.node) = context.tree.root.preorder := by
  intro nested
  refine ⟨?_, ?_, context.tree.map_node_visits⟩
  · show CheckOutcome.found ((queriesInLoops context.tree).map _) = _
    rw [queriesInLoops_eq_filter]
  · exact fun visit _ => info.isAt_violationAt message visit

/-- A query in two loops is found once, one in front of them is not found. -/
theorem check_eq_nested_two_loops :
    let query := Node.mk "CallExpression" (some ⟨7, 2, 7, 9⟩)
      [("callee", .node (.mk "Identifier" none [("name", .leaf (.str "query"))]))]
    let loop := fun body => Node.mk "WhileStatement" none [("body", .list body)]
    let inner := loop [.node query]
    let outer := loop [.node inner]
    let context : CheckContext :=
      { tree := ⟨.mk "Program" none [("body", .list [.node query, .node outer])]⟩
        source := "", fileName := "x.ts" }
    ∃ reported, rule.check context = .found reported
      ∧ reported.map (fun violation => (violation.node, violation.line, violation.column))
        = [(some 5, 7, 3)] := by
  intro query loop inner outer context
  obtain ⟨hcheck, -⟩ := check_eq_nested context
  refine ⟨_, hcheck, ?_⟩
  decide +kernel

end NestedQuery

/-! ## Loops -/

namespace NestedLoop

/-- The number of loops around a node. -/
def loopDepth (tree : Tree) (visit : Visit) : Nat :=
  (tree.ancestors visit).countP fun outer => outer.node.isLoop

/-- The number of loops around what has the given parent. -/
def depthBelow (tree : Tree) (parent : Option Nat) : Nat :=
  (climb tree.visits.reverse parent).countP fun outer => outer.node.isLoop

variable {tree : Tree}

theorem depthBelow_index {visit : Visit} (h : visit ∈ tree.visits) :
    depthBelow tree (some visit.index)
      = if visit.node.isLoop then loopDepth tree visit + 1 else loopDepth tree visit := by
  rw [depthBelow, Tree.climb_visits h, List.countP_cons, loopDepth]
  split <;> rfl

/-- A stack whose nodes come with the number of loops around them leads to the loops of the walk,
each with the number of loops around it. -/
theorem loopStack_eq_map (index : Nat) (stack : List (Node × Option Nat))
    (h : ∀ visit ∈ walkStack index stack, visit ∈ tree.visits) :
    loopStack index (stack.map fun entry => (entry.1, depthBelow tree entry.2))
      = ((walkStack index stack).filter fun visit => visit.node.isLoop).map fun visit =>
          (⟨visit.index, visit.node, none⟩, loopDepth tree visit) := by
  fun_induction walkStack index stack with
  | case1 =>
      rw [List.map_nil, loopStack]
      rfl
  | case2 index node parent stack ih =>
      rw [List.forall_mem_cons] at h
      obtain ⟨hmem, h⟩ := h
      have hinner : depthBelow tree (some index)
          = if node.isLoop then depthBelow tree parent + 1 else depthBelow tree parent :=
        depthBelow_index hmem
      have hrest := ih h
      rw [List.map_append, List.map_map] at hrest
      simp only [Function.comp_def, hinner] at hrest
      rw [List.map_cons, loopStack, hrest]
      cases hloop : node.isLoop with
      | true =>
          rw [if_pos rfl,
            List.filter_cons_of_pos (p := fun visit : Visit => visit.node.isLoop) hloop]
          rfl
      | false =>
          rw [if_neg Bool.false_ne_true,
            List.filter_cons_of_neg (p := fun visit : Visit => visit.node.isLoop) (by simp [hloop])]

/-- The loops with at least the given number of loops around them. -/
def deep (tree : Tree) (max : Int) : List Visit :=
  tree.visits.filter fun visit => visit.node.kind ∈ loopKinds ∧ max ≤ loopDepth tree visit

theorem loops_eq_filter (visits : List Visit) :
    loops visits = visits.filter fun visit => visit.node.kind ∈ loopKinds :=
  List.filter_congr fun _ _ => List.contains_eq_mem _ _

theorem deepLoops_eq_map (tree : Tree) (max : Int) :
    deepLoops tree max = (deep tree max).map fun visit =>
      info.violationAt (message (loopDepth tree visit)) visit := by
  have hloops : loopsWithDepth tree = (loops tree.visits).map fun visit =>
      (⟨visit.index, visit.node, none⟩, loopDepth tree visit) := by
    have h := loopStack_eq_map 0 [(tree.root, none)] fun visit (hmem : visit ∈ tree.visits) => hmem
    simp only [List.map_cons, List.map_nil, depthBelow, climb_none, List.countP_nil] at h
    exact h
  rw [deepLoops, hloops, loops_eq_filter, List.filter_map, List.map_map, List.filter_filter, deep]
  refine congrArg _ (List.filter_congr fun visit _ => ?_)
  rw [Function.comp, ← Bool.decide_and, decide_eq_decide]
  exact and_comm

/-- No fewer loops are reported if fewer of them have to be around a loop. -/
theorem deep_sublist {max more : Int} (h : max ≤ more) :
    (deep tree more).Sublist (deep tree max) := by
  refine List.monotone_filter_right _ fun visit hvisit => ?_
  rw [decide_eq_true_eq] at hvisit ⊢
  exact ⟨hvisit.1, h.trans hvisit.2⟩

theorem deep_of_nonpos {max : Int} (h : max ≤ 0) : deep tree max = loops tree.visits := by
  rw [loops_eq_filter]
  refine List.filter_congr fun visit _ => ?_
  rw [decide_eq_decide, and_iff_left]
  exact h.trans (Int.natCast_nonneg _)

/-- The rule reports the loops with enough loops around them, in the order of the walk, and says how
many levels deep each one is. If none has to be around them these are all loops, and if more have to
be, some of the same. -/
theorem check_eq_deep {context : CheckContext} {max : Int}
    (hmax : limit context.options = .ok max) :
    ∃ reported, rule.check context = .found reported
      ∧ reported = (deep context.tree max).map (fun visit =>
          info.violationAt ("Loop nested " ++ toString (loopDepth context.tree visit + 1)
            ++ " levels deep. " ++ "Consider flatMap/map/filter or a lookup table instead.") visit)
      ∧ (max ≤ 0 → reported.map (·.node)
          = (loops context.tree.visits).map fun loop => some loop.index)
      ∧ ∀ options more, limit options = .ok more → max ≤ more →
          ∃ fewer, rule.check { context with options } = .found fewer
            ∧ fewer.Sublist reported := by
  have hcheck {options : Entries Yaml.Value} {least : Int} (h : limit options = .ok least) :
      rule.check { context with options } = .found (deepLoops context.tree least) := by
    show CheckOutcome.ofExcept ((limit options).map _) = _
    rw [h]
    rfl
  refine ⟨_, hcheck hmax, deepLoops_eq_map _ _, fun hle => ?_, fun options more hmore hle =>
    ⟨_, hcheck hmore, ?_⟩⟩
  · rw [deepLoops_eq_map, deep_of_nonpos hle, List.map_map]
    rfl
  · rw [deepLoops_eq_map, deepLoops_eq_map]
    exact (deep_sublist hle).map _

/-- A loop in a loop is two levels deep. -/
theorem check_eq_deep_two_loops :
    let loop := fun body => Node.mk "WhileStatement" none [("body", .list body)]
    let context : CheckContext :=
      { tree := ⟨.mk "Program" none [("body", .list [.node (loop [.node (loop [])])])]⟩
        source := "", fileName := "x.ts", options := [("max_nesting", .int 1)] }
    limit context.options = .ok 1
      ∧ ∃ reported, rule.check context = .found reported
          ∧ reported.map (fun violation => (violation.node, violation.message))
            = [(some 2, "Loop nested 2 levels deep. "
                ++ "Consider flatMap/map/filter or a lookup table instead.")] := by
  intro loop context
  have hlimit : limit context.options = .ok 1 := by
    rw [← Except.toOption_eq_some_iff]
    decide +kernel
  obtain ⟨reported, hcheck, hreported, -⟩ := check_eq_deep hlimit
  refine ⟨hlimit, reported, hcheck, ?_⟩
  rw [hreported]
  decide +kernel

end NestedLoop

end ScriptAdvisor
