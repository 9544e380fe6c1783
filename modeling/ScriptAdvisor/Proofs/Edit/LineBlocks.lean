import Mathlib.Data.Int.ConditionallyCompleteOrder
import Mathlib.Data.Set.BooleanAlgebra
import Mathlib.Order.CompletePartialOrder
import Mathlib.Order.ConditionallyCompleteLattice.Basic
import ScriptAdvisor.Proofs.Edit.Application

/-! # Edits of separate lines

Edits no two of which share a line replace blocks of lines. An edit is checked against the lines
that are there when its turn comes, but edits further down have left the lines up to its own alone,
so this comes to checking it against the lines of the source.

* `Edit.block` is what an edit puts in place of its lines, `Edit.rebuilt` the lines after edits.
* `Edit.applyTo_rebuilt`: what one more edit does to them, and
  `Edit.LiesWithin.of_isInside_rebuilt`: when it is refused.
* `applyEdits_lineBlocks`: the source after edits, and when they are refused. -/

namespace ScriptAdvisor

namespace Edit

open Text

/-! ## Blocks of lines -/

/-- The numbers of the lines of an edit. -/
def lineRange (edit : Edit) : Set Int := Set.Icc edit.startLine edit.endLine

/-- The lines of an edit are some of the first `count` lines, one of them at least. -/
structure LiesWithin (edit : Edit) (count : Nat) : Prop where
  /-- Lines are counted from one. -/
  one_le : 1 ≤ edit.startLine
  /-- There is a line. -/
  start_le_end : edit.startLine ≤ edit.endLine
  /-- The last of them is there. -/
  end_le : edit.endLine ≤ count

/-- The text an edit puts in place of its lines: the start of the first, the new text, and the rest
of the last. A column behind the end of a line stands for its end. -/
def blockText (edit : Edit) (lines : List (List Char)) : List Char :=
  (lineAt lines edit.startLine).take edit.startColumn.toNat ++ edit.newText.toList
    ++ (lineAt lines edit.endLine).drop edit.endColumn.toNat

/-- The lines an edit puts in place of its own. A deletion that leaves no text leaves no line. -/
def block (edit : Edit) (lines : List (List Char)) : List (List Char) :=
  if edit.kind = .delete ∧ edit.blockText lines = [] then []
  else splitNewlines (edit.blockText lines)

/-- What comes of the line with the given number: the blocks of the edits that start there, and the
line itself if it is in no edit. -/
def lineAfter (lines : List (List Char)) (edits : List Edit) (number : Int) (line : List Char) :
    List (List Char) :=
  (edits.filter fun edit => edit.startLine == number).flatMap (·.block lines)
    ++ if edits.any fun edit => edit.startLine ≤ number && number ≤ edit.endLine then []
      else [line]

/-- What comes of lines the first of which has the given number. -/
def segmentAfter (lines : List (List Char)) (edits : List Edit) (number : Int) :
    List (List Char) → List (List Char)
  | [] => []
  | line :: rest => lineAfter lines edits number line ++ segmentAfter lines edits (number + 1) rest

/-- The lines after edits. -/
def rebuilt (lines : List (List Char)) (edits : List Edit) : List (List Char) :=
  segmentAfter lines edits 1 lines

/-- With columns that are not negative an edit puts its block in place of its lines. -/
theorem newLines_eq_block {edit : Edit} (hstart : 0 ≤ edit.startColumn)
    (hend : 0 ≤ edit.endColumn) (lines : List (List Char)) :
    edit.newLines lines = edit.block lines := by
  have hmerged : edit.merged lines = edit.blockText lines := by
    rw [merged, blockText]
    conv_lhs => rw [← Int.toNat_of_nonneg hstart, ← Int.toNat_of_nonneg hend]
    rw [Slice.upTo_natCast, Slice.startingAt_natCast]
  rw [newLines, block, hmerged]

/-- The block of an edit depends on the lines up to its last one only. -/
theorem block_append {edit : Edit} {front : List (List Char)}
    (hedit : edit.LiesWithin front.length) (back : List (List Char)) :
    edit.block (front ++ back) = edit.block front := by
  have hline : ∀ number : Int, 1 ≤ number → number ≤ front.length →
      lineAt (front ++ back) number = lineAt front number := by
    intro number hone hle
    rw [lineAt, lineAt, List.getElem?_append_left (by omega)]
  have htext : edit.blockText (front ++ back) = edit.blockText front := by
    have hone := hedit.one_le
    have hle := hedit.start_le_end
    have hend := hedit.end_le
    rw [blockText, blockText, hline _ hone (by omega), hline _ (by omega) hend]
  rw [block, block, htext]

/-! ## Lines one by one -/

section Lines

variable {lines segment : List (List Char)} {edits : List Edit} {edit : Edit} {number : Int}
  {line : List Char}

theorem mem_lineRange_iff :
    number ∈ edit.lineRange ↔ edit.startLine ≤ number ∧ number ≤ edit.endLine := Iff.rfl

/-- A line before all edits is copied. -/
theorem lineAfter_eq_self (h : ∀ edit ∈ edits, number < edit.startLine) (line : List Char) :
    lineAfter lines edits number line = [line] := by
  have hnone : edits.filter (fun edit => edit.startLine == number) = [] := by
    refine List.filter_eq_nil_iff.mpr fun edit hedit => ?_
    have := h edit hedit
    simpa using this.ne'
  have hany : edits.any (fun edit => edit.startLine ≤ number && number ≤ edit.endLine) = false := by
    refine List.any_eq_false.mpr fun edit hedit => ?_
    have := h edit hedit
    simp only [Bool.and_eq_true, decide_eq_true_eq]
    omega
  rw [lineAfter, hnone, hany]
  rfl

/-- The line an edit in front of all others starts at gives way to its block. -/
theorem lineAfter_cons_start (hle : edit.startLine ≤ edit.endLine)
    (h : ∀ other ∈ edits, edit.startLine < other.startLine) (line : List Char) :
    lineAfter lines (edit :: edits) edit.startLine line = edit.block lines := by
  have hnone : edits.filter (fun other => other.startLine == edit.startLine) = [] := by
    refine List.filter_eq_nil_iff.mpr fun other hother => ?_
    simpa using (h other hother).ne'
  rw [lineAfter, List.filter_cons_of_pos (by simp), hnone, List.any_cons]
  simp [hle]

/-- The other lines of the edit are gone. -/
theorem lineAfter_cons_inside (hlt : edit.startLine < number) (hle : number ≤ edit.endLine)
    (h : ∀ other ∈ edits, number < other.startLine) (line : List Char) :
    lineAfter lines (edit :: edits) number line = [] := by
  have hnone : edits.filter (fun other => other.startLine == number) = [] := by
    refine List.filter_eq_nil_iff.mpr fun other hother => ?_
    simpa using (h other hother).ne'
  rw [lineAfter, List.filter_cons_of_neg (by simpa using hlt.ne), hnone, List.any_cons]
  simp [hlt.le, hle]

/-- An edit has no effect on lines behind it. -/
theorem lineAfter_cons_behind (hlt : edit.endLine < number) (hle : edit.startLine ≤ edit.endLine)
    (line : List Char) :
    lineAfter lines (edit :: edits) number line = lineAfter lines edits number line := by
  have hne : ¬edit.startLine = number := by omega
  have hout : ¬number ≤ edit.endLine := by omega
  rw [lineAfter, lineAfter, List.filter_cons_of_neg (by simpa using hne), List.any_cons]
  simp [hout]

/-! ## Segments of lines -/

theorem segmentAfter_append (first second : List (List Char)) :
    segmentAfter lines edits number (first ++ second)
      = segmentAfter lines edits number first
        ++ segmentAfter lines edits (number + first.length) second := by
  induction first generalizing number with
  | nil => simp [segmentAfter]
  | cons line first ih =>
      rw [List.cons_append, segmentAfter, segmentAfter, ih, List.append_assoc, List.length_cons]
      congr 3
      omega

/-- Lines before all edits are copied. -/
theorem segmentAfter_eq_self (h : ∀ edit ∈ edits, number + segment.length ≤ edit.startLine) :
    segmentAfter lines edits number segment = segment := by
  induction segment generalizing number with
  | nil => rfl
  | cons line segment ih =>
      simp only [List.length_cons] at h
      rw [segmentAfter, lineAfter_eq_self fun edit hedit => by have := h edit hedit; omega,
        ih fun edit hedit => by have := h edit hedit; omega]
      rfl

/-- The other lines of an edit in front of all others are gone. -/
theorem segmentAfter_cons_inside (hlt : edit.startLine < number)
    (hle : number + segment.length ≤ edit.endLine + 1)
    (h : ∀ other ∈ edits, edit.endLine < other.startLine) :
    segmentAfter lines (edit :: edits) number segment = [] := by
  induction segment generalizing number with
  | nil => rfl
  | cons line segment ih =>
      rw [List.length_cons] at hle
      rw [segmentAfter, lineAfter_cons_inside hlt (by omega)
        (fun other hother => by have := h other hother; omega), ih (by omega) (by omega)]
      rfl

/-- An edit has no effect on lines behind it. -/
theorem segmentAfter_cons_behind (hlt : edit.endLine < number)
    (hle : edit.startLine ≤ edit.endLine) :
    segmentAfter lines (edit :: edits) number segment
      = segmentAfter lines edits number segment := by
  induction segment generalizing number with
  | nil => rfl
  | cons line segment ih =>
      rw [segmentAfter, segmentAfter, lineAfter_cons_behind hlt hle, ih (by omega)]

theorem rebuilt_nil : rebuilt lines [] = lines :=
  segmentAfter_eq_self fun _ h => absurd h List.not_mem_nil

/-! ## One more edit -/

/-- The lines of an edit cut the lines of a source in three. -/
theorem LiesWithin.exists_cut (h : edit.LiesWithin lines.length) :
    ∃ front first inside back, lines = front ++ first :: inside ++ back
      ∧ edit.startLine = front.length + 1
      ∧ edit.endLine = (front ++ first :: inside).length := by
  have hone := h.one_le
  have hle := h.start_le_end
  have hend := h.end_le
  have hstretch : (lines.take edit.endLine.toNat).length = edit.endLine.toNat := by
    rw [List.length_take]
    omega
  have hcut := List.take_append_drop (edit.startLine - 1).toNat (lines.take edit.endLine.toNat)
  have hne : (lines.take edit.endLine.toNat).drop (edit.startLine - 1).toNat ≠ [] := by
    rw [← List.length_pos_iff, List.length_drop, hstretch]
    omega
  obtain ⟨first, inside, hinside⟩ := List.exists_cons_of_ne_nil hne
  rw [hinside] at hcut
  refine ⟨(lines.take edit.endLine.toNat).take (edit.startLine - 1).toNat, first, inside,
    lines.drop edit.endLine.toNat, ?_, ?_, ?_⟩
  · rw [hcut, List.take_append_drop]
  · rw [List.length_take, hstretch]
    omega
  · rw [hcut, hstretch]
    omega

/-- An edit in front of all others: the lines before its own are copied, its own give way to its
block, and those behind it are as without it. -/
theorem segmentAfter_cons_cut {front inside back : List (List Char)} {first : List Char}
    (hstart : edit.startLine = front.length + 1)
    (hend : edit.endLine = (front ++ first :: inside).length)
    (h : ∀ other ∈ edits, edit.endLine < other.startLine) :
    segmentAfter lines (edit :: edits) 1 (front ++ first :: inside ++ back)
      = front ++ edit.block lines
        ++ segmentAfter lines edits (1 + (front ++ first :: inside).length) back := by
  have hcount : (front ++ first :: inside).length = front.length + (inside.length + 1) := by
    rw [List.length_append, List.length_cons]
  have hle : edit.startLine ≤ edit.endLine := by omega
  have hfront : segmentAfter lines (edit :: edits) 1 front = front := by
    refine segmentAfter_eq_self fun other hother => ?_
    rcases List.mem_cons.mp hother with rfl | hother
    · omega
    · have := h other hother
      omega
  have hfirst : lineAfter lines (edit :: edits) (1 + front.length) first = edit.block lines := by
    rw [add_comm, ← hstart]
    exact lineAfter_cons_start hle (fun other hother => hle.trans_lt (h other hother)) first
  have hinside : segmentAfter lines (edit :: edits) (1 + front.length + 1) inside = [] :=
    segmentAfter_cons_inside (by omega) (by omega) h
  rw [segmentAfter_append, segmentAfter_append, segmentAfter, hfront, hfirst, hinside,
    List.append_nil, segmentAfter_cons_behind (by omega) hle]

/-- An edit in front of all edits that were carried out before: its own lines are still those of the
source, and give way to its block. -/
theorem applyTo_rebuilt (hedit : edit.LiesWithin lines.length) (hstart : 0 ≤ edit.startColumn)
    (hend : 0 ≤ edit.endColumn) (hdone : ∀ other ∈ edits, edit.endLine < other.startLine) :
    edit.applyTo (rebuilt lines edits) = .ok (rebuilt lines (edit :: edits)) := by
  obtain ⟨front, first, inside, back, rfl, hfront, hlast⟩ := hedit.exists_cut
  have hwithin : edit.LiesWithin (front ++ first :: inside).length :=
    ⟨hedit.one_le, hedit.start_le_end, hlast.le⟩
  have hcopy : ∀ lines, segmentAfter lines edits 1 (front ++ first :: inside)
      = front ++ first :: inside :=
    fun lines => segmentAfter_eq_self fun other hother => by have := hdone other hother; omega
  -- up to the last line of the edit nothing has changed yet
  rw [rebuilt, rebuilt, segmentAfter_append, hcopy, segmentAfter_cons_cut hfront hlast hdone,
    block_append hwithin]
  generalize segmentAfter _ edits _ back = tail
  have hinside : edit.isInside (front ++ first :: inside ++ tail).length = true := by
    have hone := hwithin.one_le
    have hle := hwithin.start_le_end
    rw [isInside, List.length_append]
    simp only [Bool.and_eq_true, decide_eq_true_eq]
    omega
  have htake : (front ++ first :: inside ++ tail).take (edit.startLine - 1).toNat = front := by
    rw [hfront, List.append_assoc, List.cons_append, take_append_cons]
  have hdrop : (front ++ first :: inside ++ tail).drop edit.endLine.toNat = tail := by
    rw [hlast, Int.toNat_natCast, List.drop_left]
  rw [applyTo, if_pos hinside, htake, hdrop, newLines_eq_block hstart hend, block_append hwithin]

end Lines

/-! ## Edits from the bottom up -/

section Order

variable {lines : List (List Char)} {edits edits' done : List Edit} {edit other : Edit}

/-- An edit that shares no line with another starts at or above it. -/
structure LiesAbove (edit other : Edit) : Prop where
  /-- It does not start further down. -/
  start_le_start : edit.startLine ≤ other.startLine
  /-- They share no line. -/
  disjoint : Disjoint edit.lineRange other.lineRange

/-- An edit ends before one below it that has a line starts. -/
theorem LiesAbove.end_lt_start (h : edit.LiesAbove other)
    (hother : other.startLine ≤ other.endLine) : edit.endLine < other.startLine := by
  by_contra hle
  have hmem : other.startLine ∈ edit.lineRange :=
    mem_lineRange_iff.mpr ⟨h.start_le_start, not_lt.mp hle⟩
  exact Set.disjoint_left.mp h.disjoint hmem (mem_lineRange_iff.mpr ⟨le_rfl, hother⟩)

/-- An edit that is let through after the edits below it has its lines in the source, however many
lines those have left. -/
theorem LiesWithin.of_isInside_rebuilt (hdone : ∀ other ∈ done, other.LiesWithin lines.length)
    (habove : ∀ other ∈ done, edit.LiesAbove other)
    (hinside : edit.isInside (rebuilt lines done).length = true) :
    edit.LiesWithin lines.length := by
  rw [isInside] at hinside
  simp only [Bool.and_eq_true, decide_eq_true_eq] at hinside
  obtain ⟨⟨hone, hle⟩, hend⟩ := hinside
  refine ⟨hone, hle, ?_⟩
  cases done with
  | nil => rwa [rebuilt_nil] at hend
  | cons other done =>
      have hother := hdone other List.mem_cons_self
      have hlt := (habove other List.mem_cons_self).end_lt_start hother.start_le_end
      have hother_le := hother.start_le_end
      have hother_end := hother.end_le
      omega

/-- What was carried out stays below all that is left when one more edit is carried out. -/
theorem liesAbove_cons (hedit : ∀ next ∈ edits, next.LiesAbove edit)
    (habove : ∀ next ∈ edits, ∀ other ∈ done, next.LiesAbove other) :
    ∀ next ∈ edits, ∀ other ∈ edit :: done, next.LiesAbove other := by
  intro next hnext other hother
  rcases List.mem_cons.mp hother with rfl | hother
  · exact hedit next hnext
  · exact habove next hnext other hother

/-- An edit above all edits that were carried out before, when its lines are in the source. -/
theorem applyTo_rebuilt_of_liesAbove (hedit : edit.LiesWithin lines.length)
    (hcolumns : 0 ≤ edit.startColumn ∧ 0 ≤ edit.endColumn)
    (hdone : ∀ other ∈ done, other.LiesWithin lines.length)
    (habove : ∀ other ∈ done, edit.LiesAbove other) :
    edit.applyTo (rebuilt lines done) = .ok (rebuilt lines (edit :: done)) :=
  applyTo_rebuilt hedit hcolumns.1 hcolumns.2 fun other hother =>
    (habove other hother).end_lt_start (hdone other hother).start_le_end

/-- Edits from the bottom up, above all edits that were carried out before, when the lines of all
are in the source. -/
theorem applyInOrder_rebuilt (hwithin : ∀ edit ∈ edits, edit.LiesWithin lines.length)
    (hcolumns : ∀ edit ∈ edits, 0 ≤ edit.startColumn ∧ 0 ≤ edit.endColumn)
    (horder : edits.Pairwise fun edit other => other.LiesAbove edit)
    (hdone : ∀ other ∈ done, other.LiesWithin lines.length)
    (habove : ∀ edit ∈ edits, ∀ other ∈ done, edit.LiesAbove other) :
    applyInOrder (rebuilt lines done) edits = .ok (rebuilt lines (edits.reverse ++ done)) := by
  induction edits generalizing done with
  | nil => rfl
  | cons edit edits ih =>
      rw [List.forall_mem_cons] at hwithin hcolumns habove
      rw [List.pairwise_cons] at horder
      have hstep := applyTo_rebuilt_of_liesAbove hwithin.1 hcolumns.1 hdone habove.1
      have hrest := ih hwithin.2 hcolumns.2 horder.2
        (List.forall_mem_cons.mpr ⟨hwithin.1, hdone⟩) (liesAbove_cons horder.1 habove.2)
      rw [applyInOrder_cons_of_ok hstep, List.reverse_cons, List.append_assoc]
      exact hrest

/-- One edit whose lines are not in the source, and the edits are refused. -/
theorem applyInOrder_rebuilt_error (hoff : ∃ edit ∈ edits, ¬edit.LiesWithin lines.length)
    (hcolumns : ∀ edit ∈ edits, 0 ≤ edit.startColumn ∧ 0 ≤ edit.endColumn)
    (horder : edits.Pairwise fun edit other => other.LiesAbove edit)
    (hdone : ∀ other ∈ done, other.LiesWithin lines.length)
    (habove : ∀ edit ∈ edits, ∀ other ∈ done, edit.LiesAbove other) :
    ∃ error, applyInOrder (rebuilt lines done) edits = .error error := by
  induction edits generalizing done with
  | nil =>
      obtain ⟨edit, hedit, -⟩ := hoff
      exact absurd hedit List.not_mem_nil
  | cons edit edits ih =>
      rw [List.forall_mem_cons] at hcolumns habove
      rw [List.pairwise_cons] at horder
      by_cases hedit : edit.LiesWithin lines.length
      · have hstep := applyTo_rebuilt_of_liesAbove hedit hcolumns.1 hdone habove.1
        have hoff_rest : ∃ edit ∈ edits, ¬edit.LiesWithin lines.length := by
          obtain ⟨other, hother, hother_off⟩ := hoff
          rcases List.mem_cons.mp hother with rfl | hother
          · exact absurd hedit hother_off
          · exact ⟨other, hother, hother_off⟩
        rw [applyInOrder_cons_of_ok hstep]
        exact ih hoff_rest hcolumns.2 horder.2 (List.forall_mem_cons.mpr ⟨hedit, hdone⟩)
          (liesAbove_cons horder.1 habove.2)
      · have hinside : edit.isInside (rebuilt lines done).length ≠ true := fun hinside =>
          hedit (.of_isInside_rebuilt hdone habove.1 hinside)
        rw [applyInOrder, applyTo, if_neg hinside]
        exact ⟨_, rfl⟩

/-- Edits that share no line are applied from the bottom up. -/
theorem pairwise_bottomUp_liesAbove
    (h : edits.Pairwise fun edit other => Disjoint edit.lineRange other.lineRange) :
    (bottomUp edits).Pairwise fun edit other => other.LiesAbove edit := by
  have hdisjoint := (bottomUp_perm edits).symm.pairwise h fun h => h.symm
  refine ((pairwise_bottomUp edits).and hdisjoint).imp fun {edit other} hpair => ?_
  exact ⟨(Prod.Lex.toLex_le_toLex.mp hpair.1).elim le_of_lt fun h => h.1.le, hpair.2.symm⟩

/-- Edits that share no line can be listed in any order. -/
theorem rebuilt_perm (lines : List (List Char)) (hperm : edits.Perm edits')
    (hle : ∀ edit ∈ edits, edit.startLine ≤ edit.endLine)
    (h : edits.Pairwise fun edit other => Disjoint edit.lineRange other.lineRange) :
    rebuilt lines edits = rebuilt lines edits' := by
  -- at most one of the edits starts at a line
  have hfilter : ∀ number : Int, edits.filter (fun edit => edit.startLine == number)
      = edits'.filter fun edit => edit.startLine == number := by
    intro number
    have hnone : (edits.filter fun edit => edit.startLine == number).Pairwise
        fun _ _ => False := by
      refine (h.filter _).imp_of_mem fun {edit other} hedit hother hdisjoint => ?_
      rw [List.mem_filter, beq_iff_eq] at hedit hother
      have hedit_mem : number ∈ edit.lineRange :=
        mem_lineRange_iff.mpr ⟨hedit.2.le, hedit.2 ▸ hle edit hedit.1⟩
      have hother_mem : number ∈ other.lineRange :=
        mem_lineRange_iff.mpr ⟨hother.2.le, hother.2 ▸ hle other hother.1⟩
      exact Set.disjoint_left.mp hdisjoint hedit_mem hother_mem
    exact (hperm.filter _).eq_of_pairwise (fun _ _ _ _ h => h.elim) hnone
      ((hperm.filter _).pairwise hnone fun h => h)
  have hline : ∀ number line, lineAfter lines edits number line
      = lineAfter lines edits' number line := by
    intro number line
    rw [lineAfter, lineAfter, hfilter, hperm.any_eq]
  have hsegment : ∀ number segment, segmentAfter lines edits number segment
      = segmentAfter lines edits' number segment := by
    intro number segment
    induction segment generalizing number with
    | nil => rfl
    | cons line segment ih => rw [segmentAfter, segmentAfter, hline, ih]
  exact hsegment 1 lines

end Order

end Edit

open Text

/-- Edits that share no line and whose lines are all in the source put their blocks in place of
their lines. -/
theorem applyEdits_of_liesWithin (source : String) {edits : List Edit}
    (hcolumns : ∀ edit ∈ edits, 0 ≤ edit.startColumn ∧ 0 ≤ edit.endColumn)
    (hdisjoint : edits.Pairwise fun edit other => Disjoint edit.lineRange other.lineRange)
    (hwithin : ∀ edit ∈ edits, edit.LiesWithin (splitNewlines source.toList).length) :
    applyEdits source edits = .ok (String.ofList (joinNewlines
      (Edit.rebuilt (splitNewlines source.toList) edits))) := by
  have hperm := Edit.bottomUp_perm edits
  have hrun : Edit.applyInOrder (Edit.rebuilt (splitNewlines source.toList) [])
      (Edit.bottomUp edits)
      = .ok (Edit.rebuilt (splitNewlines source.toList) ((Edit.bottomUp edits).reverse ++ [])) :=
    Edit.applyInOrder_rebuilt (fun edit hedit => hwithin edit (hperm.mem_iff.mp hedit))
    (fun edit hedit => hcolumns edit (hperm.mem_iff.mp hedit))
    (Edit.pairwise_bottomUp_liesAbove hdisjoint) (fun _ h => absurd h List.not_mem_nil)
    (fun _ _ _ h => absurd h List.not_mem_nil)
  have hall := Edit.rebuilt_perm (splitNewlines source.toList)
    ((List.reverse_perm (Edit.bottomUp edits)).trans hperm).symm
    (fun edit hedit => (hwithin edit hedit).start_le_end) hdisjoint
  rw [Edit.rebuilt_nil, List.append_nil, ← hall] at hrun
  rw [applyEdits_eq, hrun]
  rfl

/-- Edits that share no line are refused if the lines of one are not in the source. -/
theorem applyEdits_of_not_liesWithin (source : String) {edits : List Edit}
    (hcolumns : ∀ edit ∈ edits, 0 ≤ edit.startColumn ∧ 0 ≤ edit.endColumn)
    (hdisjoint : edits.Pairwise fun edit other => Disjoint edit.lineRange other.lineRange)
    (hoff : ∃ edit ∈ edits, ¬edit.LiesWithin (splitNewlines source.toList).length) :
    ∃ error, applyEdits source edits = .error error := by
  have hperm := Edit.bottomUp_perm edits
  obtain ⟨edit, hedit, hedit_off⟩ := hoff
  have hrun : ∃ error, Edit.applyInOrder (Edit.rebuilt (splitNewlines source.toList) [])
      (Edit.bottomUp edits) = .error error :=
    Edit.applyInOrder_rebuilt_error ⟨edit, hperm.mem_iff.mpr hedit, hedit_off⟩
      (fun edit hedit => hcolumns edit (hperm.mem_iff.mp hedit))
      (Edit.pairwise_bottomUp_liesAbove hdisjoint) (fun _ h => absurd h List.not_mem_nil)
      (fun _ _ _ h => absurd h List.not_mem_nil)
  rw [Edit.rebuilt_nil] at hrun
  obtain ⟨error, hrun⟩ := hrun
  rw [applyEdits_eq, hrun]
  exact ⟨error, rfl⟩

/-- Edits that share no line are refused exactly if the lines of one of them are not in the source.
Otherwise they put their blocks in place of their lines and leave the other lines, and in both cases
it does not matter in which order they are listed. -/
theorem applyEdits_lineBlocks (source : String) (edits : List Edit)
    (hcolumns : ∀ edit ∈ edits, 0 ≤ edit.startColumn ∧ 0 ≤ edit.endColumn)
    (hdisjoint : edits.Pairwise fun edit other => Disjoint edit.lineRange other.lineRange) :
    ((∃ error, applyEdits source edits = .error error)
        ↔ ∃ edit ∈ edits, ¬edit.LiesWithin (splitNewlines source.toList).length)
      ∧ ((∀ edit ∈ edits, edit.LiesWithin (splitNewlines source.toList).length) →
        applyEdits source edits = .ok (String.ofList (joinNewlines
          (Edit.rebuilt (splitNewlines source.toList) edits))))
      ∧ ∀ edits', edits'.Perm edits →
        (applyEdits source edits').toOption = (applyEdits source edits).toOption := by
  have hcases : (∀ edit ∈ edits, edit.LiesWithin (splitNewlines source.toList).length)
      ∨ ∃ edit ∈ edits, ¬edit.LiesWithin (splitNewlines source.toList).length := by
    by_contra hneither
    rw [not_or, not_exists] at hneither
    exact hneither.1 fun edit hedit => by_contra fun hoff => hneither.2 edit ⟨hedit, hoff⟩
  refine ⟨⟨?_, applyEdits_of_not_liesWithin source hcolumns hdisjoint⟩,
    applyEdits_of_liesWithin source hcolumns hdisjoint, ?_⟩
  · rintro ⟨error, herror⟩
    rcases hcases with hwithin | hoff
    · rw [applyEdits_of_liesWithin source hcolumns hdisjoint hwithin] at herror
      exact absurd herror nofun
    · exact hoff
  · intro edits' hperm
    have hcolumns' : ∀ edit ∈ edits', 0 ≤ edit.startColumn ∧ 0 ≤ edit.endColumn :=
      fun edit hedit => hcolumns edit (hperm.mem_iff.mp hedit)
    have hdisjoint' : edits'.Pairwise fun edit other => Disjoint edit.lineRange other.lineRange :=
      hperm.symm.pairwise hdisjoint fun h => h.symm
    rcases hcases with hwithin | ⟨edit, hedit, hoff⟩
    · rw [applyEdits_of_liesWithin source hcolumns hdisjoint hwithin,
        applyEdits_of_liesWithin source hcolumns' hdisjoint'
          (fun edit hedit => hwithin edit (hperm.mem_iff.mp hedit)),
        Edit.rebuilt_perm _ hperm.symm (fun edit hedit => (hwithin edit hedit).start_le_end)
          hdisjoint]
    · obtain ⟨error, herror⟩ :=
        applyEdits_of_not_liesWithin source hcolumns hdisjoint ⟨edit, hedit, hoff⟩
      obtain ⟨error', herror'⟩ := applyEdits_of_not_liesWithin source hcolumns' hdisjoint'
        ⟨edit, hperm.mem_iff.mpr hedit, hoff⟩
      rw [herror, herror']
      rfl

/-- The deletion of a whole line removes it, and an edit above it makes two lines of one. -/
theorem applyEdits_lineBlocks_removed_line :
    let edits : List Edit :=
      [⟨.replace, 1, 0, 1, 9, "", "X\nY", ""⟩, ⟨.delete, 3, 0, 3, 1, "", "", ""⟩]
    (∀ edit ∈ edits, 0 ≤ edit.startColumn ∧ 0 ≤ edit.endColumn)
      ∧ (edits.Pairwise fun edit other => Disjoint edit.lineRange other.lineRange)
      ∧ applyEdits "a\nb\nc\nd" edits = .ok "X\nY\nb\nd" := by
  intro edits
  have hcolumns : ∀ edit ∈ edits, 0 ≤ edit.startColumn ∧ 0 ≤ edit.endColumn := by decide
  have hdisjoint : edits.Pairwise fun edit other => Disjoint edit.lineRange other.lineRange := by
    refine List.pairwise_pair.mpr (Set.disjoint_left.mpr fun number hfirst hsecond => ?_)
    exact absurd (hsecond.1.trans hfirst.2) (by decide)
  have hwithin : ∀ edit ∈ edits, edit.LiesWithin (splitNewlines "a\nb\nc\nd".toList).length := by
    simp only [edits, List.forall_mem_cons]
    exact ⟨⟨by decide, by decide, by decide⟩, ⟨by decide, by decide, by decide⟩, by simp⟩
  obtain ⟨-, hresult, -⟩ := applyEdits_lineBlocks "a\nb\nc\nd" edits hcolumns hdisjoint
  refine ⟨hcolumns, hdisjoint, ?_⟩
  rw [hresult hwithin]
  decide

end ScriptAdvisor
