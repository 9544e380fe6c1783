import Mathlib.Data.List.Nodup
import ScriptAdvisor.Proofs.Tree.Traversal

/-! # The nodes around a node

A step of a walk names the node around it by its number. Going from parent to parent leads through
all nodes around a node up to the root.

* `Tree.ancestors` lists the steps at the nodes around a node, from the inside out. Its equations
  are `Tree.ancestors_of_parent` and `Tree.ancestors_of_root`.
* `Tree.mem_below_iff`: the walk from a node goes through the nodes that have it around them, and
  through no others.
* `Tree.below_eq_filter`: it does so in the order of the whole walk, in which these steps follow
  each other without a gap (`exists_split_walkStack`). -/

namespace ScriptAdvisor

/-! ## Numbers and parents -/

theorem le_index_of_mem_walkStack {index : Nat} {stack : List (Node × Option Nat)} {visit : Visit}
    (h : visit ∈ walkStack index stack) : index ≤ visit.index := by
  fun_induction walkStack index stack with
  | case1 => exact absurd h List.not_mem_nil
  | case2 index node parent stack ih =>
      rcases List.mem_cons.mp h with rfl | h
      · exact le_rfl
      · exact (Nat.le_succ index).trans (ih h)

/-- The steps of a walk come in the order of their numbers. -/
theorem pairwise_index_walkStack (index : Nat) (stack : List (Node × Option Nat)) :
    (walkStack index stack).Pairwise fun visit other => visit.index < other.index := by
  fun_induction walkStack index stack with
  | case1 => exact .nil
  | case2 index node parent stack ih =>
      exact List.pairwise_cons.mpr ⟨fun _ h => le_index_of_mem_walkStack h, ih⟩

/-- A step is at an entry that the walk started with, or at a child of a step before it. -/
theorem origin_of_mem_walkStack {index : Nat} {stack : List (Node × Option Nat)} {visit : Visit}
    (h : visit ∈ walkStack index stack) :
    (visit.node, visit.parent) ∈ stack
      ∨ ∃ outer ∈ walkStack index stack, visit.parent = some outer.index
          ∧ visit.node ∈ outer.node.children ∧ outer.index < visit.index := by
  fun_induction walkStack index stack with
  | case1 => exact absurd h List.not_mem_nil
  | case2 index node parent stack ih =>
      rcases List.mem_cons.mp h with rfl | h
      · exact .inl List.mem_cons_self
      · rcases ih h with hentry | ⟨outer, houter, hparent, hchild, hlt⟩
        · rcases List.mem_append.mp hentry with hentry | hentry
          · -- a child of the node that comes first
            obtain ⟨child, hchild, heq⟩ := List.mem_map.mp hentry
            obtain ⟨rfl, hparent⟩ := Prod.mk.inj heq
            exact .inr ⟨_, List.mem_cons_self, hparent.symm, hchild, le_index_of_mem_walkStack h⟩
          · exact .inl (List.mem_cons_of_mem _ hentry)
        · exact .inr ⟨outer, List.mem_cons_of_mem _ houter, hparent, hchild, hlt⟩

/-- The parent of a step is one that the walk started with, or a step before it. -/
theorem parent_of_mem_walkStack {index : Nat} {stack : List (Node × Option Nat)} {visit : Visit}
    (h : visit ∈ walkStack index stack) :
    (∃ entry ∈ stack, visit.parent = entry.2)
      ∨ ∃ outer ∈ walkStack index stack, visit.parent = some outer.index
          ∧ outer.index < visit.index := by
  rcases origin_of_mem_walkStack h with hentry | ⟨outer, houter, hparent, -, hlt⟩
  · exact .inl ⟨_, hentry, rfl⟩
  · exact .inr ⟨outer, houter, hparent, hlt⟩

/-! ## The nodes below a node -/

/-- The steps of the walk below a visited node. -/
def Visit.below (visit : Visit) : List Visit :=
  walkStack (visit.index + 1) (visit.node.children.map fun child => (child, some visit.index))

theorem Visit.walk_eq_cons (visit : Visit) :
    visit.walk = ⟨visit.index, visit.node, none⟩ :: visit.below := by
  rw [Visit.walk, Node.walk, walkStack, List.append_nil]
  rfl

/-- The steps below a node follow it. What comes behind them is the walk of nodes further out. -/
theorem exists_split_walkStack {index : Nat} {stack : List (Node × Option Nat)} {visit : Visit}
    (hstack : ∀ entry ∈ stack, ∀ number, entry.2 = some number → number < index)
    (h : visit ∈ walkStack index stack) :
    ∃ before next rest, walkStack index stack
        = before ++ visit :: (visit.below ++ walkStack next rest)
      ∧ ∀ entry ∈ rest, ∀ number, entry.2 = some number → number < visit.index := by
  fun_induction walkStack index stack with
  | case1 => exact absurd h List.not_mem_nil
  | case2 index node parent stack ih =>
      rw [List.forall_mem_cons] at hstack
      obtain ⟨-, hstack⟩ := hstack
      rcases List.mem_cons.mp h with rfl | h
      · -- the node itself comes first, so the rest of the stack is left behind it
        have hsplit := walkStack_append (index + 1)
          (node.children.map fun child => (child, some index)) stack
        exact ⟨[], _, stack, congrArg (_ :: ·) hsplit, hstack⟩
      · obtain ⟨before, next, rest, hsplit, hrest⟩ := ih (fun entry hentry number hnumber => by
          rcases List.mem_append.mp hentry with hchild | hentry
          · obtain ⟨child, -, rfl⟩ := List.mem_map.mp hchild
            obtain rfl := Option.some.inj hnumber
            exact Nat.lt_succ_self _
          · exact (hstack entry hentry number hnumber).trans (Nat.lt_succ_self index)) h
        exact ⟨_ :: before, next, rest, by rw [hsplit, List.cons_append], hrest⟩

/-! ## The nodes around a node -/

/-- Going back through a walk: the step with the number `parent`, then the one with the number of
its parent, and so on. -/
def climb : (back : List Visit) → (parent : Option Nat) → List Visit
  | [], _ => []
  | visit :: back, parent =>
    if parent = some visit.index then visit :: climb back visit.parent else climb back parent

theorem climb_none (back : List Visit) : climb back none = [] := by
  induction back with
  | nil => rfl
  | cons visit back ih => rw [climb, if_neg (by simp), ih]

/-- Steps with other numbers are passed over. -/
theorem climb_append {front : List Visit} {parent : Option Nat}
    (h : ∀ visit ∈ front, parent ≠ some visit.index) (back : List Visit) :
    climb (front ++ back) parent = climb back parent := by
  induction front with
  | nil => rfl
  | cons visit front ih =>
      rw [List.forall_mem_cons] at h
      rw [List.cons_append, climb, if_neg h.1, ih h.2]

/-- In a walk where every parent comes before its child, going back from a step leads to it and then
from its parent on. -/
theorem climb_reverse {walk : List Visit} {visit : Visit}
    (hsorted : walk.Pairwise fun visit other => visit.index < other.index)
    (hparent : ∀ visit ∈ walk, ∀ number, visit.parent = some number → number < visit.index)
    (h : visit ∈ walk) :
    climb walk.reverse (some visit.index) = visit :: climb walk.reverse visit.parent := by
  have hlt := hparent visit h
  obtain ⟨before, behind, rfl⟩ := List.append_of_mem h
  obtain ⟨-, hbehind, -⟩ := List.pairwise_append.mp hsorted
  have hbehind : ∀ other ∈ behind.reverse, visit.index < other.index := fun other hother =>
    List.rel_of_pairwise_cons hbehind (List.mem_reverse.mp hother)
  have hreverse : (before ++ visit :: behind).reverse
      = behind.reverse ++ visit :: before.reverse := by simp
  rw [hreverse, climb_append fun other hother heq =>
      (hbehind other hother).ne (Option.some.inj heq), climb, if_pos rfl,
    climb_append fun other hother heq =>
      Nat.lt_asymm (hlt _ heq) (hbehind other hother), climb, if_neg]
  intro heq
  exact Nat.lt_irrefl _ (hlt _ heq)

namespace Tree

/-- The steps of the walk at the nodes around a node: at its parent, the parent of that, and so on
up to the root. -/
def ancestors (tree : Tree) (visit : Visit) : List Visit :=
  climb tree.visits.reverse visit.parent

section Ancestors

variable {tree : Tree} {visit outer : Visit}

theorem pairwise_index_visits (tree : Tree) :
    tree.visits.Pairwise fun visit other => visit.index < other.index :=
  pairwise_index_walkStack 0 _

/-- A step is at the root, or it names an earlier step as its parent. -/
theorem parent_of_mem_visits (h : visit ∈ tree.visits) :
    visit.parent = none ∨ ∃ outer ∈ tree.visits, visit.parent = some outer.index
      ∧ outer.index < visit.index := by
  rcases parent_of_mem_walkStack h with ⟨entry, hentry, hparent⟩ | hparent
  · obtain rfl := List.mem_singleton.mp hentry
    exact .inl hparent
  · exact .inr hparent

/-- The number of a step names it. -/
theorem eq_of_index_eq (h : visit ∈ tree.visits) (houter : outer ∈ tree.visits)
    (heq : visit.index = outer.index) : visit = outer := by
  have hnodup : (tree.visits.map (·.index)).Nodup :=
    List.pairwise_map.mpr ((pairwise_index_visits tree).imp Nat.ne_of_lt)
  exact List.inj_on_of_nodup_map hnodup h houter heq

theorem ancestors_of_root (hparent : visit.parent = none) : tree.ancestors visit = [] := by
  rw [ancestors, hparent, climb_none]

/-- Going back from a step leads to it and to the nodes around it. -/
theorem climb_visits (h : visit ∈ tree.visits) :
    climb tree.visits.reverse (some visit.index) = visit :: tree.ancestors visit := by
  rw [climb_reverse (pairwise_index_visits tree) ?_ h, ancestors]
  intro other hother number hnumber
  rcases parent_of_mem_visits hother with hnone | ⟨_, -, hsome, hlt⟩
  · exact absurd (hnumber.symm.trans hnone) (by simp)
  · rwa [Option.some.inj (hnumber.symm.trans hsome)]

theorem ancestors_of_parent (houter : outer ∈ tree.visits)
    (hparent : visit.parent = some outer.index) :
    tree.ancestors visit = outer :: tree.ancestors outer := by
  rw [ancestors, hparent, climb_visits houter]

/-- The nodes around a node are visited before it. -/
theorem mem_ancestors (h : visit ∈ tree.visits) (houter : outer ∈ tree.ancestors visit) :
    outer ∈ tree.visits ∧ outer.index < visit.index := by
  induction hindex : visit.index using Nat.strong_induction_on generalizing visit with
  | _ index ih =>
      subst hindex
      rcases parent_of_mem_visits h with hnone | ⟨parent, hmem, hsome, hlt⟩
      · rw [ancestors_of_root hnone] at houter
        exact absurd houter List.not_mem_nil
      · rw [ancestors_of_parent hmem hsome] at houter
        rcases List.mem_cons.mp houter with rfl | houter
        · exact ⟨hmem, hlt⟩
        · obtain ⟨hvisit, hbefore⟩ := ih parent.index hlt hmem houter rfl
          exact ⟨hvisit, hbefore.trans hlt⟩

/-! ### Above and below -/

/-- The walk of a tree around one of its steps: the steps before it, the steps below it, and the
steps behind these, whose parents are behind them too or were visited before. -/
structure IsSplit (tree : Tree) (outer : Visit) (before behind : List Visit) : Prop where
  /-- These are all steps of the walk. -/
  visits_eq : tree.visits = before ++ outer :: (outer.below ++ behind)
  /-- The first part is visited before. -/
  lt_outer : ∀ visit ∈ before, visit.index < outer.index
  /-- The last part is visited after the node. -/
  outer_lt : ∀ visit ∈ behind, outer.index < visit.index
  /-- The last part is visited after the nodes below. -/
  below_lt : ∀ visit ∈ behind, ∀ inner ∈ outer.below, inner.index < visit.index
  /-- The parents of the last part. -/
  parent_behind : ∀ visit ∈ behind, ∀ number, visit.parent = some number →
    number < outer.index ∨ ∃ parent ∈ behind, number = parent.index

theorem exists_isSplit (houter : outer ∈ tree.visits) :
    ∃ before behind, IsSplit tree outer before behind := by
  obtain ⟨before, next, rest, hsplit, hrest⟩ := exists_split_walkStack (by simp) houter
  have hvisits : tree.visits = before ++ outer :: (outer.below ++ walkStack next rest) := hsplit
  have hsorted := pairwise_index_visits tree
  rw [hvisits] at hsorted
  obtain ⟨-, hsorted, hbefore⟩ := List.pairwise_append.mp hsorted
  obtain ⟨houterLt, hsorted⟩ := List.pairwise_cons.mp hsorted
  obtain ⟨-, -, hbelow⟩ := List.pairwise_append.mp hsorted
  refine ⟨before, walkStack next rest, hvisits,
    fun visit hvisit => hbefore visit hvisit outer List.mem_cons_self,
    fun visit hvisit => houterLt visit (List.mem_append_right _ hvisit),
    fun visit hvisit inner hinner => hbelow inner hinner visit hvisit,
    fun visit hvisit number hnumber => ?_⟩
  rcases parent_of_mem_walkStack hvisit with ⟨entry, hentry, hparent⟩ | ⟨parent, hmem, hparent, -⟩
  · exact .inl (hrest entry hentry number (hparent.symm.trans hnumber))
  · exact .inr ⟨parent, hmem, Option.some.inj (hnumber.symm.trans hparent)⟩

/-- A step comes no later than the node, or it is below it, or behind what is below. -/
theorem IsSplit.cases {before behind : List Visit} (hsplit : IsSplit tree outer before behind)
    (h : visit ∈ tree.visits) :
    visit.index ≤ outer.index ∨ visit ∈ outer.below ∨ visit ∈ behind := by
  rw [hsplit.visits_eq] at h
  rcases List.mem_append.mp h with h | h
  · exact .inl (hsplit.lt_outer visit h).le
  · rcases List.mem_cons.mp h with rfl | h
    · exact .inl le_rfl
    · exact .inr (List.mem_append.mp h)

theorem lt_index_of_mem_below (h : visit ∈ outer.below) : outer.index < visit.index :=
  le_index_of_mem_walkStack h

theorem mem_visits_of_mem_below (houter : outer ∈ tree.visits) (h : visit ∈ outer.below) :
    visit ∈ tree.visits := by
  obtain ⟨before, behind, hsplit⟩ := exists_isSplit houter
  rw [hsplit.visits_eq]
  exact List.mem_append_right _ (List.mem_cons_of_mem _ (List.mem_append_left _ h))

/-- What is around a node below is the outer node, or below it too. -/
theorem mem_ancestors_of_mem_below (houter : outer ∈ tree.visits) (h : visit ∈ outer.below) :
    outer ∈ tree.ancestors visit := by
  induction hindex : visit.index using Nat.strong_induction_on generalizing visit with
  | _ index ih =>
      subst hindex
      rcases parent_of_mem_walkStack h with ⟨entry, hentry, hparent⟩ | ⟨parent, hmem, hparent, hlt⟩
      · obtain ⟨child, -, rfl⟩ := List.mem_map.mp hentry
        rw [ancestors_of_parent houter hparent]
        exact List.mem_cons_self
      · rw [ancestors_of_parent (mem_visits_of_mem_below houter hmem) hparent]
        exact List.mem_cons_of_mem _ (ih parent.index hlt hmem rfl)

/-- A child of the outer node, or of a node below it, is below it. -/
theorem mem_below_of_parent (houter : outer ∈ tree.visits) (h : visit ∈ tree.visits)
    {parent : Visit} (hmem : parent = outer ∨ parent ∈ outer.below)
    (hparent : visit.parent = some parent.index) (hlt : parent.index < visit.index) :
    visit ∈ outer.below := by
  have hle : outer.index ≤ parent.index := by
    rcases hmem with rfl | hmem
    · exact le_rfl
    · exact (lt_index_of_mem_below hmem).le
  obtain ⟨before, behind, hsplit⟩ := exists_isSplit houter
  rcases hsplit.cases h with hindex | hbelow | hbehind
  · omega
  · exact hbelow
  · -- a step behind has its parent there or before the outer node
    rcases hsplit.parent_behind visit hbehind parent.index hparent with
      hbefore | ⟨other, hother, heq⟩
    · omega
    · rcases hmem with rfl | hmem
      · have := hsplit.outer_lt other hother
        omega
      · have := hsplit.below_lt other hother parent hmem
        omega

/-- The steps of the walk from a node are those that have it around them. -/
theorem mem_below_iff (houter : outer ∈ tree.visits) (h : visit ∈ tree.visits) :
    visit ∈ outer.below ↔ outer ∈ tree.ancestors visit := by
  refine ⟨mem_ancestors_of_mem_below houter, fun hmem => ?_⟩
  induction hindex : visit.index using Nat.strong_induction_on generalizing visit with
  | _ index ih =>
      subst hindex
      rcases parent_of_mem_visits h with hnone | ⟨parent, hparent, hsome, hlt⟩
      · rw [ancestors_of_root hnone] at hmem
        exact absurd hmem List.not_mem_nil
      · rw [ancestors_of_parent hparent hsome] at hmem
        refine mem_below_of_parent houter h ?_ hsome hlt
        rcases List.mem_cons.mp hmem with rfl | hmem
        · exact .inl rfl
        · exact .inr (ih parent.index hlt hparent hmem rfl)

/-- The walk from a node goes by the number of a step if it is at that node or has it around it. -/
theorem index_mem_map_walk_iff (houter : outer ∈ tree.visits) (h : visit ∈ tree.visits) :
    visit.index ∈ outer.walk.map (·.index) ↔ visit = outer ∨ outer ∈ tree.ancestors visit := by
  rw [Visit.walk_eq_cons, List.map_cons, List.mem_cons, List.mem_map, ← mem_below_iff houter h]
  refine or_congr ⟨eq_of_index_eq h houter, congrArg _⟩ ⟨?_, fun hbelow => ⟨visit, hbelow, rfl⟩⟩
  rintro ⟨inner, hinner, heq⟩
  rwa [← eq_of_index_eq (mem_visits_of_mem_below houter hinner) h heq]

/-- Whether a node is around another. -/
def isAround (tree : Tree) (outer visit : Visit) : Bool :=
  (tree.ancestors visit).any fun other => other.index == outer.index

theorem isAround_iff (houter : outer ∈ tree.visits) (h : visit ∈ tree.visits) :
    tree.isAround outer visit = true ↔ visit ∈ outer.below := by
  rw [mem_below_iff houter h, isAround, List.any_eq_true]
  constructor
  · rintro ⟨other, hother, heq⟩
    rw [eq_of_index_eq houter (mem_ancestors h hother).1 (eq_of_beq heq).symm]
    exact hother
  · intro hmem
    exact ⟨outer, hmem, beq_self_eq_true _⟩

/-- The steps below a node, in the order of the whole walk. -/
theorem below_eq_filter (houter : outer ∈ tree.visits) :
    outer.below = tree.visits.filter (tree.isAround outer) := by
  obtain ⟨before, behind, hsplit⟩ := exists_isSplit houter
  have hmem {visit : Visit} (h : visit ∈ before ++ outer :: (outer.below ++ behind)) :
      tree.isAround outer visit = true ↔ visit ∈ outer.below :=
    isAround_iff houter (hsplit.visits_eq ▸ h)
  have hbefore : ∀ visit ∈ before, ¬tree.isAround outer visit = true := by
    intro visit hvisit haround
    have hbelow := (hmem (List.mem_append_left _ hvisit)).mp haround
    exact Nat.lt_asymm (hsplit.lt_outer visit hvisit) (lt_index_of_mem_below hbelow)
  have houterNot : ¬tree.isAround outer outer = true := fun haround =>
    Nat.lt_irrefl _ (lt_index_of_mem_below ((isAround_iff houter houter).mp haround))
  have hbelow : ∀ visit ∈ outer.below, tree.isAround outer visit = true := fun visit hvisit =>
    (isAround_iff houter (mem_visits_of_mem_below houter hvisit)).mpr hvisit
  have hbehind : ∀ visit ∈ behind, ¬tree.isAround outer visit = true := by
    intro visit hvisit haround
    have hbelow := (hmem (by simp [hvisit])).mp haround
    exact Nat.lt_irrefl _ (hsplit.below_lt visit hvisit visit hbelow)
  rw [hsplit.visits_eq, List.filter_append, List.filter_eq_nil_iff.mpr hbefore, List.nil_append,
    List.filter_cons_of_neg houterNot, List.filter_append, List.filter_eq_self.mpr hbelow,
    List.filter_eq_nil_iff.mpr hbehind, List.append_nil]

end Ancestors

end Tree

end ScriptAdvisor
