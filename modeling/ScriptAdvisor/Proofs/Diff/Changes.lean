import Mathlib.Data.List.Basic
import ScriptAdvisor.Proofs.Diff.Matching

/-! # What changes between two sequences

The changes go through both sequences without a gap, so two sequences between which nothing changes
are the same. Conversely nothing changes between a sequence and itself. That needs an argument of
its own, since lines that occur often do not start a shared stretch: the longest stretch without
such lines is first found at the same place in both, and grows to the whole from there.

* `Leads` says that changes lead from one pair of places to another, `leads_changes` that the
  changes between two sequences lead through the whole.
* `eq_of_changes_equal` and `changes_self` are the two directions. -/

namespace ScriptAdvisor.Diff

/-! ## Changes that follow each other -/

/-- A change is about a stretch of either sequence, and what it says about them is so. -/
structure Change.IsSound (first second : List String) (change : Change) : Prop where
  /-- It is about a stretch of the first sequence. -/
  left_le : change.leftStart ≤ change.leftStop
  /-- That stretch is not past the end. -/
  left_stop : change.leftStop ≤ first.length
  /-- It is about a stretch of the second sequence. -/
  right_le : change.rightStart ≤ change.rightStop
  /-- That stretch is not past the end. -/
  right_stop : change.rightStop ≤ second.length
  /-- What stays is the same in both. -/
  equal : change.kind = .equal → slice first change.leftStart change.leftStop
    = slice second change.rightStart change.rightStop
  /-- Nothing takes the place of what goes. -/
  delete : change.kind = .delete → change.rightStart = change.rightStop
  /-- What is put there takes the place of nothing. -/
  insert : change.kind = .insert → change.leftStart = change.leftStop

/-- Changes that follow each other without a gap, from the places `i` and `j` to the places `k` and
`l`. -/
inductive Leads (first second : List String) :
    (i j : Nat) → List Change → (k l : Nat) → Prop where
  /-- No change. -/
  | nil {i j : Nat} : Leads first second i j [] i j
  /-- A change, and those behind it. -/
  | cons {i j k l : Nat} {change : Change} {rest : List Change} (hleft : change.leftStart = i)
      (hright : change.rightStart = j) (hsound : change.IsSound first second)
      (hrest : Leads first second change.leftStop change.rightStop rest k l) :
      Leads first second i j (change :: rest) k l

section Leads

variable {first second : List String} {i j k l m n : Nat} {front back : List Change}

theorem Leads.append (hfront : Leads first second i j front k l)
    (hback : Leads first second k l back m n) : Leads first second i j (front ++ back) m n := by
  induction hfront with
  | nil => exact hback
  | cons hleft hright hsound _ ih => exact .cons hleft hright hsound (ih hback)

theorem leads_singleton {change : Change} (hsound : change.IsSound first second) :
    Leads first second change.leftStart change.rightStart [change] change.leftStop
      change.rightStop :=
  .cons rfl rfl hsound .nil

theorem Leads.le (h : Leads first second i j front k l) : i ≤ k ∧ j ≤ l := by
  induction h with
  | nil => exact ⟨le_rfl, le_rfl⟩
  | cons hleft hright hsound _ ih =>
      rw [← hleft, ← hright]
      exact ⟨hsound.left_le.trans ih.1, hsound.right_le.trans ih.2⟩

/-- If nothing but equal stretches lies between two pairs of places, the stretches between them are
the same. -/
theorem Leads.slice_eq (h : Leads first second i j front k l)
    (hequal : ∀ change ∈ front, change.kind = .equal) :
    slice first i k = slice second j l := by
  induction h with
  | nil => rw [slice_self, slice_self]
  | cons hleft hright hsound hrest ih =>
      rw [List.forall_mem_cons] at hequal
      rw [← hleft, ← hright, ← slice_append_slice hsound.left_le hrest.le.1,
        ← slice_append_slice hsound.right_le hrest.le.2, hsound.equal hequal.1, ih hequal.2]

/-- What lies between two shared stretches is one change, if it is anything. -/
theorem leads_gap (hleft : i ≤ k) (hright : j ≤ l) (hk : k ≤ first.length)
    (hl : l ≤ second.length) : Leads first second i j (gap i j k l) k l := by
  have hsound (kind : ChangeKind) (hkind : kind ≠ .equal) (hdelete : kind = .delete → j = l)
      (hinsert : kind = .insert → i = k) :
      (⟨kind, i, k, j, l⟩ : Change).IsSound first second :=
    ⟨hleft, hk, hright, hl, fun h => absurd h hkind, hdelete, hinsert⟩
  rw [gap]
  split
  · exact leads_singleton (hsound .replace (by decide) (by simp) (by simp))
  split
  · exact leads_singleton (hsound .delete (by decide) (fun _ => by omega) (by simp))
  split
  · exact leads_singleton (hsound .insert (by decide) (by simp) (fun _ => by omega))
  · obtain rfl : i = k := by omega
    obtain rfl : j = l := by omega
    exact .nil

theorem leads_changesFrom {blocks : List Block} (h : Matches first second i j blocks k l)
    (hk : k ≤ first.length) (hl : l ≤ second.length) :
    Leads first second i j (changesFrom k l i j blocks) k l := by
  induction h with
  | nil hleft hright => exact leads_gap hleft hright hk hl
  | @cons i j k l block rest hleft hright hshared hrest ih =>
      have hbefore := leads_gap hleft hright ((Nat.le_add_right _ _).trans hshared.left_le)
        ((Nat.le_add_right _ _).trans hshared.right_le)
      refine hbefore.append (.cons rfl rfl ?_ (ih hk hl))
      exact ⟨Nat.le_add_right _ _, hshared.left_le, Nat.le_add_right _ _, hshared.right_le,
        fun _ => hshared.slice_eq, nofun, nofun⟩

/-- The changes between two sequences lead through the whole of both. -/
theorem leads_changes (first second : List String) :
    Leads first second 0 0 (changes first second) first.length second.length :=
  leads_changesFrom (matches_blocks first second) le_rfl le_rfl

/-- Sequences between which nothing changes are the same. -/
theorem eq_of_changes_equal (h : ∀ change ∈ changes first second, change.kind = .equal) :
    first = second := by
  have heq := (leads_changes first second).slice_eq h
  rwa [slice_length, slice_length] at heq

end Leads

/-! ## A sequence and itself -/

section Itself

variable {isPopular : String → Bool}

theorem sharedRun_self (back : List String) :
    sharedRun isPopular back back = (back.takeWhile (!isPopular ·)).length :=
  sharedStart_self _

theorem sharedRun_le_left (back seen : List String) :
    sharedRun isPopular back seen ≤ (back.takeWhile (!isPopular ·)).length :=
  sharedStart_le_left _ _

theorem sharedRun_le_right (back seen : List String) :
    sharedRun isPopular back seen ≤ (seen.takeWhile (!isPopular ·)).length :=
  sharedStart_le_right _ _

theorem rowOf_append (back seen front window : List String) :
    rowOf isPopular back seen (front ++ window)
      = rowOf isPopular back seen front ++ rowOf isPopular back (front.reverse ++ seen) window := by
  induction front generalizing seen with
  | nil => rfl
  | cons text front ih =>
      rw [List.cons_append, rowOf, rowOf, ih, List.cons_append, List.reverse_cons,
        List.append_assoc, List.singleton_append]

theorem length_rowOf (back seen window : List String) :
    (rowOf isPopular back seen window).length = window.length := by
  induction window generalizing seen with
  | nil => rfl
  | cons text window ih => rw [rowOf, List.length_cons, List.length_cons, ih]

/-- A number of a row is about some first part of the window. -/
theorem exists_of_mem_rowOf {back seen window : List String} {length : Nat}
    (h : length ∈ rowOf isPopular back seen window) :
    ∃ front, front <+: window ∧ length = sharedRun isPopular back (front.reverse ++ seen) := by
  induction window generalizing seen with
  | nil => exact absurd h List.not_mem_nil
  | cons text window ih =>
      rcases List.mem_cons.mp h with rfl | h
      · exact ⟨[text], ⟨window, rfl⟩, rfl⟩
      · obtain ⟨front, hfront, rfl⟩ := ih h
        refine ⟨text :: front, List.cons_prefix_cons.mpr ⟨rfl, hfront⟩, ?_⟩
        rw [List.reverse_cons, List.append_assoc, List.singleton_append]

theorem betterInRow_append (i j : Nat) (front row : List Nat) (best : Block) :
    betterInRow i j (front ++ row) best
      = betterInRow i (j + front.length) row (betterInRow i j front best) := by
  induction front generalizing j best with
  | nil => rfl
  | cons length front ih =>
      rw [List.cons_append, betterInRow, ih, betterInRow, List.length_cons, Nat.add_right_comm,
        Nat.add_assoc j]

/-- Stretches that are not longer are not better. -/
theorem betterInRow_of_le {i j : Nat} {row : List Nat} {best : Block}
    (h : ∀ length ∈ row, length ≤ best.size) : betterInRow i j row best = best := by
  induction row generalizing j with
  | nil => rfl
  | cons length row ih =>
      rw [List.forall_mem_cons] at h
      rw [betterInRow, if_neg (Nat.not_lt.mpr h.1), ih h.2]

/-- While a sequence is compared with itself the best stretch starts at the same place in both, and
no stretch without popular lines that has been met is longer. `back` are the lines met so far, from
the last one on. -/
structure IsDiagonal (isPopular : String → Bool) (back : List String) (best : Block) : Prop where
  /-- It starts at the same place in both. -/
  left_eq : best.left = best.right
  /-- It is as long as any other. -/
  le_size : ∀ front, front <+: back.reverse →
    (front.reverse.takeWhile (!isPopular ·)).length ≤ best.size

/-- One more line of the sequence. The stretches that end there in the second one are no longer than
those met before, up to the line itself, and no better than what ends at the line from there on. -/
theorem IsDiagonal.betterInRow {line : String} {back rest : List String} {best : Block}
    (h : IsDiagonal isPopular back best) :
    IsDiagonal isPopular (line :: back)
      (betterInRow back.length 0
        (rowOf isPopular (line :: back) [] (back.reverse ++ line :: rest)) best) := by
  let longest := ((line :: back).takeWhile (!isPopular ·)).length
  let better : Block := if best.size < longest
    then ⟨back.length + 1 - longest, back.length + 1 - longest, longest⟩ else best
  -- the row falls into what ends before the line, what ends at it, and what ends behind it
  have hbefore : ∀ length ∈ rowOf isPopular (line :: back) [] back.reverse,
      length ≤ best.size := by
    intro length hmem
    obtain ⟨front, hfront, rfl⟩ := exists_of_mem_rowOf hmem
    rw [List.append_nil]
    exact (sharedRun_le_right _ _).trans (h.le_size front hfront)
  have hbetter : longest ≤ better.size := by
    simp only [better]
    split
    · exact le_rfl
    · exact Nat.le_of_not_lt ‹_›
  have hbehind : ∀ length ∈ rowOf isPopular (line :: back) (line :: back) rest,
      length ≤ better.size := by
    intro length hmem
    obtain ⟨front, -, rfl⟩ := exists_of_mem_rowOf hmem
    exact (sharedRun_le_left _ _).trans hbetter
  have hresult : Diff.betterInRow back.length 0
      (rowOf isPopular (line :: back) [] (back.reverse ++ line :: rest)) best = better := by
    rw [rowOf_append, betterInRow_append, betterInRow_of_le hbefore, List.reverse_reverse,
      List.append_nil, length_rowOf, List.length_reverse, Nat.zero_add, rowOf, sharedRun_self,
      Diff.betterInRow]
    exact betterInRow_of_le hbehind
  rw [hresult]
  constructor
  · -- a better stretch ends at the line in both sequences
    simp only [better]
    split
    · rfl
    · exact h.left_eq
  · intro front hfront
    rw [List.reverse_cons, List.prefix_concat_iff] at hfront
    rcases hfront with rfl | hfront
    · rw [List.reverse_append, List.reverse_reverse]
      exact hbetter
    · refine (h.le_size front hfront).trans ?_
      simp only [better]
      split
      · exact Nat.le_of_lt ‹_›
      · exact le_rfl

theorem left_eq_bestFrom {lines : List String} (back : List String) {rest : List String}
    {best : Block} (hlines : lines = back.reverse ++ rest) (h : IsDiagonal isPopular back best) :
    (bestFrom (lines.map (mark isPopular)) back.length rest (rowOf isPopular back [] lines)
        best).left
      = (bestFrom (lines.map (mark isPopular)) back.length rest (rowOf isPopular back [] lines)
        best).right := by
  induction rest generalizing back best with
  | nil => exact h.left_eq
  | cons line rest ih =>
      rw [bestFrom_cons]
      refine ih (line :: back) (by simp [hlines]) ?_
      rw [hlines]
      exact h.betterInRow

/-- A stretch at the same place in both grows to the whole. -/
theorem extend_self {lines : List String} {block : Block} (heq : block.left = block.right)
    (hle : block.left + block.size ≤ lines.length) :
    extend lines lines block = ⟨0, 0, lines.length⟩ := by
  rw [extend, ← heq, sharedStart_self, sharedStart_self, List.length_reverse, List.length_take,
    List.length_drop, Nat.min_eq_left (by omega), Nat.sub_self]
  congr 1
  omega

/-- The longest stretch that a sequence shares with itself is the whole. -/
theorem longest_self (isPopular : String → Bool) (lines : List String) :
    longest lines (lines.map (mark isPopular)) = ⟨0, 0, lines.length⟩ := by
  have htexts : (lines.map (mark isPopular)).map (·.text) = lines := by
    rw [List.map_map]
    exact List.map_id lines
  have hdiagonal : IsDiagonal isPopular [] ⟨0, 0, 0⟩ := by
    refine ⟨rfl, fun front hfront => ?_⟩
    rw [List.reverse_nil, List.prefix_nil] at hfront
    rw [hfront]
    exact le_rfl
  rw [longest, htexts, List.length_map, ← rowOf_nil [] lines]
  exact extend_self (left_eq_bestFrom [] rfl hdiagonal)
    (isShared_bestFrom [] (isShared_empty lines lines)).left_le

theorem blocksFrom_nil (left right : Nat) : blocksFrom left right [] [] = [] := by
  have hlongest : longest [] [] = ⟨0, 0, 0⟩ := longest_self (fun _ => false) []
  rw [blocksFrom_eq, hlongest, if_neg fun h => Nat.lt_irrefl 0 h.1]

/-- Between a sequence and itself there is one equal stretch, if it has any line. -/
theorem changes_self (lines : List String) :
    changes lines lines
      = if lines = [] then [] else [⟨.equal, 0, lines.length, 0, lines.length⟩] := by
  have hlongest : longest lines (targets lines) = ⟨0, 0, lines.length⟩ :=
    longest_self (isPopularIn lines) lines
  rw [changes, blocks, blocksFrom_eq, hlongest]
  by_cases hlines : lines = []
  · rw [hlines]
    rfl
  · have hpos : 0 < lines.length := List.length_pos_of_ne_nil hlines
    have htargets : (targets lines).length = lines.length := List.length_map _
    simp only [Nat.zero_add, htargets, List.take_zero, blocksFrom_nil, List.nil_append,
      List.drop_length, if_neg hlines]
    rw [if_pos ⟨hpos, le_rfl, le_rfl⟩, List.drop_eq_nil_of_le htargets.le, blocksFrom_nil,
      joinAdjacent, if_pos ⟨rfl, rfl⟩, joinAdjacent, if_neg (by simpa using hpos.ne')]
    simp [changesFrom, gap]

end Itself

end ScriptAdvisor.Diff
