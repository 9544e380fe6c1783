import Mathlib.Algebra.Order.Ring.Int
import Mathlib.Data.List.Pairwise
import Mathlib.Data.Nat.Cast.Order.Ring
import ScriptAdvisor.Proofs.Edit.Application
import ScriptAdvisor.Proofs.Except
import ScriptAdvisor.Proofs.Text.LineBreak

/-! # The order in which edits are listed

Edits are sorted by their starts, and those with the same start keep the order in which they are
listed. Edits that do not overlap can share a start all the same: one without a stretch may stand
where the stretch of another starts. Applied last, it puts its text before the new text of the
other. Applied first, it moves the stretch of the other away from its columns, and the other takes
in what was inserted instead.

* `Edit.bottomUp_congr`: only the listing order of edits with the same start has an effect.
* `Edit.IsAtStartOf.exists_left`: what two edits with the same start come to in either order.
* `Edit.Independent.exists_descending`: from the order of the starts to a descending order.
* `applyEdits_listingOrder`: when the listing order of edits that do not overlap has no effect. -/

namespace ScriptAdvisor

namespace Edit

open Text

/-! ## Edits with the same start -/

section SameStart

variable {edits edits' : List Edit}

/-- Edits with the same start are applied in the order in which they are listed. -/
theorem filter_bottomUp (edits : List Edit) (place : Int ×ₗ Int) :
    (bottomUp edits).filter (fun edit => edit.start = place)
      = edits.filter fun edit => edit.start = place := by
  have htied : (edits.filter fun edit => edit.start = place).Pairwise
      fun edit other => edit.startsNotBefore other = true := by
    refine List.pairwise_of_forall_mem_list fun edit hedit other hother => ?_
    rw [List.mem_filter, decide_eq_true_eq] at hedit hother
    rw [startsNotBefore_iff, hedit.2, hother.2]
  have hsub : (edits.filter fun edit => edit.start = place).Sublist (bottomUp edits) :=
    List.sublist_mergeSort startsNotBefore_trans startsNotBefore_total htied List.filter_sublist
  have hfilter := hsub.filter fun edit => edit.start = place
  rw [List.filter_filter] at hfilter
  simp only [Bool.and_self] at hfilter
  exact (hfilter.eq_of_length ((bottomUp_perm edits).filter _).length_eq.symm).symm

/-- The first of edits in the order of their starts has the last start. -/
theorem start_le_head {edit : Edit}
    (h : (edit :: edits).Pairwise fun edit other => other.start ≤ edit.start) :
    ∀ other ∈ edit :: edits, other.start ≤ edit.start :=
  List.forall_mem_cons.mpr ⟨le_rfl, (List.pairwise_cons.mp h).1⟩

/-- Edits in the order of their starts are the same if those at each place are. -/
theorem eq_of_filter_start_eq (hedits : edits.Pairwise fun edit other => other.start ≤ edit.start)
    (hedits' : edits'.Pairwise fun edit other => other.start ≤ edit.start)
    (h : ∀ place, edits.filter (fun edit => edit.start = place)
      = edits'.filter fun edit => edit.start = place) : edits = edits' := by
  induction edits generalizing edits' with
  | nil =>
      cases edits' with
      | nil => rfl
      | cons edit edits' =>
          have hnone := h edit.start
          rw [List.filter_nil, List.filter_cons_of_pos (by simp)] at hnone
          exact absurd hnone nofun
  | cons edit edits ih =>
      have hmem : ∀ other ∈ edits', other ∈ edit :: edits := by
        intro other hother
        have hfilter : other ∈ (edit :: edits).filter fun edit => edit.start = other.start := by
          rw [h]
          exact List.mem_filter.mpr ⟨hother, decide_eq_true rfl⟩
        exact (List.mem_filter.mp hfilter).1
      have hedit : edit ∈ edits'.filter fun other => other.start = edit.start := by
        rw [← h]
        exact List.mem_filter.mpr ⟨List.mem_cons_self, decide_eq_true rfl⟩
      cases edits' with
      | nil => exact absurd (List.mem_filter.mp hedit).1 List.not_mem_nil
      | cons edit' edits' =>
          -- both lists begin with the edits at the last start
          have hstart : edit'.start = edit.start :=
            le_antisymm (start_le_head hedits _ (hmem _ List.mem_cons_self))
              (start_le_head hedits' _ (List.mem_filter.mp hedit).1)
          have hheads := h edit.start
          rw [List.filter_cons_of_pos (by simp), List.filter_cons_of_pos (by simpa using hstart),
            List.cons.injEq] at hheads
          obtain ⟨rfl, htails⟩ := hheads
          have hrest : edits = edits' := by
            refine ih hedits.of_cons hedits'.of_cons fun place => ?_
            by_cases hplace : edit.start = place
            · rw [← hplace]
              exact htails
            · have hall := h place
              rwa [List.filter_cons_of_neg (by simpa using hplace),
                List.filter_cons_of_neg (by simpa using hplace)] at hall
          rw [hrest]

/-- Only the order among edits with the same start has an effect. -/
theorem bottomUp_congr (h : ∀ place, edits.filter (fun edit => edit.start = place)
    = edits'.filter fun edit => edit.start = place) : bottomUp edits = bottomUp edits' := by
  refine eq_of_filter_start_eq (pairwise_bottomUp edits) (pairwise_bottomUp edits') fun place => ?_
  rw [filter_bottomUp, filter_bottomUp, h]

/-- Edits that are listed in the order of their starts are applied in this order. -/
theorem applyEdits_of_pairwise (source : String)
    (h : edits.Pairwise fun edit other => other.start ≤ edit.start) :
    applyEdits source edits
      = (applyInOrder (splitNewlines source.toList) edits).map
          fun lines => String.ofList (joinNewlines lines) := by
  have hsame : bottomUp edits = edits :=
    List.mergeSort_of_pairwise (h.imp fun h => (startsNotBefore_iff _ _).mpr h)
  rw [applyEdits_eq, hsame]

end SameStart

/-! ## Independent edits -/

/-- Edits that fit a text and do not overlap. One without a stretch may stand at an end of the
stretch of another, but no two of them at one place. -/
structure Independent (text : List Char) (edits : List Edit) : Prop where
  /-- Every edit fits the text. -/
  fits : ∀ edit ∈ edits, edit.Fits text
  /-- Of two edits one ends before the other starts. -/
  apart : edits.Pairwise fun edit other => edit.stop ≤ other.start ∨ other.stop ≤ edit.start
  /-- No two edits without a stretch stand at one place. -/
  distinct : edits.Pairwise fun edit other =>
    ¬(edit.start = edit.stop ∧ other.start = other.stop ∧ edit.start = other.start)

/-- An edit without a stretch stands where the stretch of another starts. -/
structure IsAtStartOf (point edit : Edit) : Prop where
  /-- The first has no stretch. -/
  start_eq_stop : point.start = point.stop
  /-- They start at the same place. -/
  start_eq_start : point.start = edit.start
  /-- The other one has a stretch. -/
  start_lt_stop : edit.start < edit.stop

/-- Edits from the last to the first, each of which ends before the one before it starts. -/
def Descending (edits : List Edit) : Prop :=
  edits.Pairwise fun edit other => other.stop ≤ edit.start

section Independent

variable {text : List Char} {edits edits' : List Edit} {edit point : Edit}

theorem Independent.perm (h : Independent text edits) (hperm : edits.Perm edits') :
    Independent text edits' where
  fits := fun edit hedit => h.fits edit (hperm.mem_iff.mpr hedit)
  apart := hperm.pairwise h.apart Or.symm
  distinct := hperm.pairwise h.distinct fun hne ⟨hother, hedit, hstart⟩ =>
    hne ⟨hedit, hother, hstart.symm⟩

theorem Independent.of_cons (h : Independent text (edit :: edits)) : Independent text edits where
  fits := (List.forall_mem_cons.mp h.fits).2
  apart := h.apart.of_cons
  distinct := h.distinct.of_cons

end Independent

/-! ## Edits behind which the text has changed -/

section Descending

variable {text : List Char} {edits : List Edit} {edit : Edit}

/-- What stands before an edit that fits a text, and its stretch, are there in every start of the
text that reaches behind it. -/
theorem Fits.exists_cut_take (hfits : edit.Fits text) :
    ∃ a b, EndsAt a edit.startLine edit.startColumn
      ∧ EndsAt (a ++ b) edit.endLine edit.endColumn
      ∧ text.take (edit.replacement text).start = a
      ∧ ∀ count, (edit.replacement text).stop ≤ count →
        text.take count = a ++ b ++ (text.take count).drop (edit.replacement text).stop := by
  obtain ⟨a, b, c, htext, ha, hb, hstart, hstop⟩ := hfits.exists_cut
  refine ⟨a, b, ha, hb, ?_, fun count hcount => ?_⟩
  · rw [hstart, htext, List.append_assoc, List.take_left]
  · have hfront : text.take (edit.replacement text).stop = a ++ b := by
      rw [hstop, htext, List.take_left]
    conv_lhs => rw [← List.take_append_drop (edit.replacement text).stop (text.take count)]
    rw [List.take_take, Nat.min_eq_left hcount, hfront]

/-- An edit puts its new text in place of its stretch when all changes lie behind it. -/
theorem Fits.applyTo_take (hfits : edit.Fits text) (hkeeps : edit.KeepsLine) {count : Nat}
    (hcount : (edit.replacement text).stop ≤ count) (changed : List Char) :
    edit.applyTo (splitNewlines (text.take count ++ changed))
      = .ok (splitNewlines (text.take (edit.replacement text).start ++ (edit.newText.toList
          ++ ((text.take count).drop (edit.replacement text).stop ++ changed)))) := by
  obtain ⟨a, b, ha, hb, hfront, hcut⟩ := hfits.exists_cut_take
  conv_lhs => rw [hcut count hcount, List.append_assoc (a ++ b)]
  rw [hfront, hkeeps.applyTo_splitNewlines ha hb, List.append_assoc a]

/-- Descending edits put something in place of the text from `floor` to `count`, whatever stands
behind it. -/
theorem Descending.exists_applyInOrder (h : Descending edits)
    (hfits : ∀ edit ∈ edits, edit.Fits text) (hkeeps : ∀ edit ∈ edits, edit.KeepsLine)
    {floor count : Nat} (hle : floor ≤ count)
    (hfloor : ∀ edit ∈ edits, floor ≤ (edit.replacement text).start)
    (hcount : ∀ edit ∈ edits, (edit.replacement text).stop ≤ count) :
    ∃ middle, ∀ changed, applyInOrder (splitNewlines (text.take count ++ changed)) edits
      = .ok (splitNewlines (text.take floor ++ (middle ++ changed))) := by
  induction edits generalizing count with
  | nil =>
      refine ⟨(text.take count).drop floor, fun changed => ?_⟩
      have hcut := List.take_append_drop floor (text.take count)
      rw [List.take_take, Nat.min_eq_left hle] at hcut
      rw [applyInOrder, ← List.append_assoc, hcut]
  | cons edit edits ih =>
      rw [List.forall_mem_cons] at hfits hkeeps hfloor hcount
      rw [Descending, List.pairwise_cons] at h
      obtain ⟨middle, hmiddle⟩ := ih h.2 hfits.2 hkeeps.2 hfloor.1 hfloor.2 fun other hother =>
        (hfits.2 other hother).stop.offset_le_offset (h.1 other hother)
      refine ⟨middle ++ (edit.newText.toList
        ++ (text.take count).drop (edit.replacement text).stop), fun changed => ?_⟩
      rw [applyInOrder_cons_of_ok (hfits.1.applyTo_take hkeeps.1 hcount.1 changed), hmiddle,
        List.append_assoc middle, List.append_assoc edit.newText.toList]

end Descending

/-! ## An edit that takes in what was inserted at its start -/

section Overwriting

variable {text a b inserted : List Char} {edit : Edit}

/-- The place at which the start of a text ends, in the text. -/
theorem endsAt_holdsPlace_append {line column : Int} (h : EndsAt a line column) (c : List Char) :
    HoldsPlace (a ++ c) line column ∧ offset (a ++ c) line column = a.length := by
  obtain ⟨front, last, hsplit, rfl, rfl⟩ := h
  obtain ⟨first, back, hback⟩ := List.exists_cons_of_ne_nil (splitNewlines_ne_nil c)
  have hcut := splitNewlines_append hsplit hback
  have hline : lineAt (splitNewlines (a ++ c)) (front.length + 1) = last ++ first := by
    rw [hcut, lineAt_append_cons]
  refine ⟨⟨by omega, ?_, by omega, ?_⟩, ?_⟩
  · rw [hcut, List.length_append, List.length_cons]
    omega
  · rw [hline, List.length_append]
    omega
  · rw [offset_eq_of_cut hcut, ← hsplit, joinNewlines_splitNewlines]

theorem endsAt_line_eq {line column : Int} (h : EndsAt a line column) :
    line = a.count '\n' + 1 := by
  obtain ⟨front, last, hsplit, rfl, rfl⟩ := h
  have hcount := length_splitNewlines a
  rw [hsplit, List.length_append, List.length_singleton] at hcount
  omega

/-- Lines that have ended do not change when a text grows. -/
theorem lineAt_splitNewlines_append {number : Int} (hone : 1 ≤ number)
    (hlt : number < (splitNewlines text).length) (c : List Char) :
    lineAt (splitNewlines (text ++ c)) number = lineAt (splitNewlines text) number := by
  obtain ⟨front, last, hsplit⟩ := List.eq_nil_or_concat (splitNewlines text)
    |>.resolve_left (splitNewlines_ne_nil text)
  rw [List.concat_eq_append] at hsplit
  rw [hsplit, List.length_append, List.length_singleton] at hlt
  rw [splitNewlines_append_left hsplit, hsplit, lineAt, lineAt,
    List.getElem?_append_left (by omega), List.getElem?_append_left (by omega)]

/-- An edit with its last column moved to the end of the line of a text, if it lies behind it. -/
def clampedTo (edit : Edit) (text : List Char) : Edit :=
  { edit with
    endColumn := min edit.endColumn (lineAt (splitNewlines text) edit.endLine).length }

/-- A text that holds the start of an edit, and has its last line, has room for the clamped edit. -/
theorem clampedTo_fits (hstart : HoldsPlace text edit.startLine edit.startColumn)
    (hle : edit.start ≤ edit.stop) (hzero : 0 ≤ edit.endColumn)
    (hend : edit.endLine ≤ (splitNewlines text).length) : (edit.clampedTo text).Fits text := by
  have hone := hstart.one_le
  have hcolumn := hstart.column_le
  have hplaces := Prod.Lex.toLex_le_toLex.mp hle
  simp only at hplaces
  refine ⟨hstart, ⟨?_, hend, ?_, min_le_right _ _⟩, Prod.Lex.toLex_le_toLex.mpr ?_⟩
  · show 1 ≤ edit.endLine
    rcases hplaces with hlt | ⟨heq, -⟩ <;> omega
  · exact le_min hzero (Int.natCast_nonneg _)
  · rcases hplaces with hlt | ⟨heq, hcolumns⟩
    · exact .inl hlt
    · exact .inr ⟨heq, le_min hcolumns (heq ▸ hcolumn)⟩

/-- An edit and the clamped one do the same to a longer text, unless the line it ends in is the
last one of the shorter text, and goes on. -/
theorem applyTo_clampedTo (hone : 1 ≤ edit.endLine) (hzero : 0 ≤ edit.endColumn)
    (h : edit.endLine < (splitNewlines text).length
      ∨ edit.endColumn ≤ (lineAt (splitNewlines text) edit.endLine).length) (c : List Char) :
    (edit.clampedTo text).applyTo (splitNewlines (text ++ c))
      = edit.applyTo (splitNewlines (text ++ c)) := by
  have hrest : Slice.startingAt (lineAt (splitNewlines (text ++ c)) edit.endLine)
        (min edit.endColumn (lineAt (splitNewlines text) edit.endLine).length)
      = Slice.startingAt (lineAt (splitNewlines (text ++ c)) edit.endLine) edit.endColumn := by
    rcases h with hlt | hle
    · rw [lineAt_splitNewlines_append hone hlt, ← Int.toNat_of_nonneg hzero, ← Nat.cast_min,
        Slice.startingAt_natCast, Slice.startingAt_natCast]
      by_cases hcolumn : edit.endColumn.toNat ≤ (lineAt (splitNewlines text) edit.endLine).length
      · rw [Nat.min_eq_left hcolumn]
      · rw [Nat.min_eq_right (by omega), List.drop_length, List.drop_of_length_le (by omega)]
    · rw [min_eq_left hle]
  have hmerged : (edit.clampedTo text).merged (splitNewlines (text ++ c))
      = edit.merged (splitNewlines (text ++ c)) := by
    unfold merged
    simp only [clampedTo]
    rw [hrest]
  have hnew : (edit.clampedTo text).newLines (splitNewlines (text ++ c))
      = edit.newLines (splitNewlines (text ++ c)) := by
    unfold newLines
    rw [hmerged]
    rfl
  unfold applyTo
  rw [hnew]
  rfl

/-- Text that is inserted somewhere before the end of a text leaves the last line of the text there
and as long as it was, or adds a line behind it. -/
theorem endsAt_inserted {line column : Int} (h : EndsAt (a ++ b) line column)
    (inserted : List Char) :
    line ≤ (splitNewlines (a ++ inserted ++ b)).length
      ∧ (line < (splitNewlines (a ++ inserted ++ b)).length
        ∨ column ≤ (lineAt (splitNewlines (a ++ inserted ++ b)) line).length) := by
  have hline := endsAt_line_eq h
  have hlength := length_splitNewlines (a ++ inserted ++ b)
  simp only [List.count_append] at hline hlength
  refine ⟨by omega, ?_⟩
  by_cases hinserted : '\n' ∈ inserted
  · have hpos := List.count_pos_iff.mpr hinserted
    exact .inl (by omega)
  · refine .inr ?_
    obtain ⟨front, last, ha⟩ := List.eq_nil_or_concat (splitNewlines a)
      |>.resolve_left (splitNewlines_ne_nil a)
    rw [List.concat_eq_append] at ha
    obtain ⟨first, back, hb⟩ := List.exists_cons_of_ne_nil (splitNewlines_ne_nil b)
    have hbefore := splitNewlines_append ha hb
    have hafter := splitNewlines_append
      (splitNewlines_append ha (splitNewlines_eq_singleton hinserted)) hb
    obtain ⟨front', last', hsplit, rfl, rfl⟩ := h
    rw [hsplit] at hbefore
    rcases List.eq_nil_or_concat back with rfl | ⟨inner, end', rfl⟩
    · -- the text inserted is on the last line
      obtain ⟨rfl, hlast⟩ := List.append_inj' hbefore rfl
      rw [hafter, lineAt_append_cons, List.cons.inj hlast |>.1]
      simp only [List.length_append]
      omega
    · rw [List.concat_eq_append] at hbefore hafter
      rw [← List.cons_append, ← List.append_assoc] at hbefore hafter
      obtain ⟨rfl, hlast⟩ := List.append_inj' hbefore rfl
      have hcount : (front ++ (last ++ first) :: inner).length
          = (front ++ (last ++ inserted ++ first) :: inner).length := by
        rw [List.length_append, List.length_append, List.length_cons, List.length_cons]
      rw [hafter, hcount, lineAt_append_cons, List.cons.inj hlast |>.1]

/-- An edit at whose start text was inserted puts its new text in place of some of it and of its
stretch; what is left of both does not depend on the text behind. -/
theorem exists_applyTo_inserted (hkeeps : edit.KeepsLine)
    (ha : EndsAt a edit.startLine edit.startColumn)
    (hb : EndsAt (a ++ b) edit.endLine edit.endColumn) (hle : edit.start ≤ edit.stop)
    (inserted : List Char) :
    ∃ left, ∀ c, edit.applyTo (splitNewlines (a ++ inserted ++ b ++ c))
      = .ok (splitNewlines (a ++ edit.newText.toList ++ (left ++ c))) := by
  obtain ⟨hstart, hoffset⟩ := endsAt_holdsPlace_append ha (inserted ++ b)
  rw [← List.append_assoc] at hstart hoffset
  obtain ⟨hend, hroom⟩ := endsAt_inserted hb inserted
  have hone : 1 ≤ edit.endLine := by
    have := endsAt_line_eq hb
    omega
  have hzero : 0 ≤ edit.endColumn := by
    obtain ⟨-, last, -, -, hcolumn⟩ := hb
    omega
  obtain ⟨a', taken, left, htext, ha', htaken, hcut, -⟩ :=
    (clampedTo_fits hstart hle hzero hend).exists_cut
  have hlength : a'.length = a.length := hcut.symm.trans hoffset
  obtain ⟨rfl, -⟩ := List.append_inj
    (show a' ++ (taken ++ left) = a ++ (inserted ++ b) by
      rw [← List.append_assoc, ← htext, List.append_assoc]) hlength
  refine ⟨left, fun c => ?_⟩
  rw [htext] at ha' htaken
  have hclamped : (edit.clampedTo (a' ++ taken ++ left)).KeepsLine := hkeeps
  rw [← applyTo_clampedTo hone hzero hroom, htext, List.append_assoc (a' ++ taken)]
  exact hclamped.applyTo_splitNewlines ha' htaken (left ++ c)

end Overwriting

/-! ## Two edits with the same start -/

section Pair

variable {text : List Char} {edits : List Edit} {edit point : Edit}

theorem applyInOrder_append_of_ok {lines lines' : List (List Char)}
    (h : applyInOrder lines edits = .ok lines') (rest : List Edit) :
    applyInOrder lines (edits ++ rest) = applyInOrder lines' rest := by
  induction edits generalizing lines with
  | nil =>
      obtain rfl := Except.ok.inj h
      rfl
  | cons edit edits ih =>
      rw [applyInOrder] at h
      obtain ⟨next, hnext, hrest⟩ := Except.bind_eq_ok_iff.mp h
      rw [List.cons_append, applyInOrder_cons_of_ok hnext]
      exact ih hrest

/-- Two edits have the same effect in either order, wherever their stretches are still untouched. -/
def Commutes (text : List Char) (point edit : Edit) : Prop :=
  ∀ count changed, (edit.replacement text).stop ≤ count →
    applyInOrder (splitNewlines (text.take count ++ changed)) [point, edit]
      = applyInOrder (splitNewlines (text.take count ++ changed)) [edit, point]

/-- What two edits with the same start come to: when the one without a stretch comes last, its text
stands before that of the other. When it comes first, it is the other's turn to find its stretch in
the changed text, and something is `left` behind its new text. -/
theorem IsAtStartOf.exists_left (h : point.IsAtStartOf edit) (hfits : edit.Fits text)
    (hpoint : point.KeepsLine) (hkeeps : edit.KeepsLine) :
    ∃ left, ∀ count changed, (edit.replacement text).stop ≤ count →
      ∃ behind, applyInOrder (splitNewlines (text.take count ++ changed)) [point, edit]
          = .ok (splitNewlines (text.take (edit.replacement text).start
            ++ (edit.newText.toList ++ left ++ behind)))
        ∧ applyInOrder (splitNewlines (text.take count ++ changed)) [edit, point]
          = .ok (splitNewlines (text.take (edit.replacement text).start
            ++ (point.newText.toList ++ edit.newText.toList ++ behind))) := by
  obtain ⟨a, b, ha, hb, hfront, hcut⟩ := hfits.exists_cut_take
  have hplaces := Prod.mk.inj (toLex_inj.mp h.start_eq_start)
  have hpoint_stop := Prod.mk.inj (toLex_inj.mp h.start_eq_stop)
  have hpoint_start : EndsAt a point.startLine point.startColumn := by
    rw [hplaces.1, hplaces.2]
    exact ha
  have hpoint_end : EndsAt (a ++ []) point.endLine point.endColumn := by
    rw [← hpoint_stop.1, ← hpoint_stop.2, List.append_nil]
    exact hpoint_start
  obtain ⟨left, hleft⟩ :=
    exists_applyTo_inserted hkeeps ha hb hfits.start_le_stop point.newText.toList
  refine ⟨left, fun count changed hcount => ?_⟩
  rw [hfront, hcut count hcount, List.append_assoc (a ++ b)]
  generalize (text.take count).drop (edit.replacement text).stop ++ changed = behind
  refine ⟨behind, ?_, ?_⟩
  · have hfirst := hpoint.applyTo_splitNewlines hpoint_start hpoint_end (b ++ behind)
    have hsecond := hleft behind
    rw [List.append_nil, ← List.append_assoc, ← List.append_assoc] at hfirst
    rw [applyInOrder_cons_of_ok hfirst, applyInOrder_cons_of_ok hsecond, List.append_assoc a,
      ← List.append_assoc edit.newText.toList]
    rfl
  · have hfirst := hkeeps.applyTo_splitNewlines ha hb behind
    have hsecond := hpoint.applyTo_splitNewlines hpoint_start hpoint_end
      (edit.newText.toList ++ behind)
    rw [List.append_nil, ← List.append_assoc] at hsecond
    rw [applyInOrder_cons_of_ok hfirst, applyInOrder_cons_of_ok hsecond, ← List.append_assoc,
      ← List.append_assoc, ← List.append_assoc]
    rfl

/-- Edits with the same start commute if they do on the text itself. -/
theorem commutes_iff (h : point.IsAtStartOf edit) (source : String)
    (hfits : edit.Fits source.toList) (hpoint : point.KeepsLine)
    (hkeeps : edit.KeepsLine) :
    Commutes source.toList point edit
      ↔ applyEdits source [point, edit] = applyEdits source [edit, point] := by
  have hwhole : source.toList.take source.toList.length ++ [] = source.toList := by
    rw [List.append_nil, List.take_length]
  have hlength := hfits.stop.offset_le_length
  obtain ⟨left, hleft⟩ := h.exists_left hfits hpoint hkeeps
  rw [applyEdits_of_pairwise source (List.pairwise_pair.mpr h.start_eq_start.ge),
    applyEdits_of_pairwise source (List.pairwise_pair.mpr h.start_eq_start.le)]
  constructor
  · intro hcommutes
    have hrun := hcommutes source.toList.length [] hlength
    rw [hwhole] at hrun
    rw [hrun]
  · intro happly count changed hcount
    obtain ⟨behind, hfirst, hsecond⟩ := hleft source.toList.length [] hlength
    rw [hwhole] at hfirst hsecond
    rw [hfirst, hsecond] at happly
    simp only [Except.map, joinNewlines_splitNewlines, Except.ok.injEq, String.ofList_inj,
      List.append_cancel_left_eq, List.append_cancel_right_eq] at happly
    obtain ⟨behind', hfirst', hsecond'⟩ := hleft count changed hcount
    rw [hfirst', hsecond', happly]

end Pair

/-! ## From the order of the starts to a descending order -/

section Rearranging

variable {text : List Char} {edits edits' : List Edit} {edit point : Edit}

/-- All edits end before the first of them starts, unless it is one without a stretch at the start
of the second one, and then they end before the second one starts. -/
theorem Independent.head_cases (h : Independent text (edit :: edits))
    (horder : (edit :: edits).Pairwise fun edit other => other.start ≤ edit.start) :
    (∀ other ∈ edits, other.stop ≤ edit.start)
      ∨ ∃ other rest, edits = other :: rest ∧ edit.IsAtStartOf other
          ∧ (∀ next ∈ rest, next.stop ≤ other.start) := by
  cases edits with
  | nil => exact .inl fun _ hother => absurd hother List.not_mem_nil
  | cons other rest =>
      have hfits := List.forall_mem_cons.mp h.fits
      have hstretch := hfits.1.start_le_stop
      have hother_stretch := (List.forall_mem_cons.mp hfits.2).1.start_le_stop
      have hapart := List.pairwise_cons.mp h.apart
      have hother_start := (List.pairwise_cons.mp horder).1 other List.mem_cons_self
      have hrest_start := (List.pairwise_cons.mp horder.of_cons).1
      by_cases hstop : other.stop ≤ edit.start
      · refine .inl (List.forall_mem_cons.mpr ⟨hstop, fun next hnext => ?_⟩)
        rcases hapart.1 next (List.mem_cons_of_mem _ hnext) with hbefore | hbehind
        · -- all three would start at one place, and two of them have no stretch
          have hstart : edit.start ≤ other.start :=
            hstretch.trans (hbefore.trans (hrest_start next hnext))
          have heq : other.start = edit.start := le_antisymm hother_start hstart
          refine absurd ⟨?_, ?_, heq.symm⟩
            ((List.pairwise_cons.mp h.distinct).1 other List.mem_cons_self)
          · exact le_antisymm hstretch (hbefore.trans ((hrest_start next hnext).trans hother_start))
          · exact le_antisymm hother_stretch (hstop.trans hstart)
        · exact hbehind
      · refine .inr ⟨other, rest, rfl, ?_, fun next hnext => ?_⟩
        · have hbefore := (hapart.1 other List.mem_cons_self).resolve_right hstop
          exact ⟨le_antisymm hstretch (hbefore.trans hother_start),
            le_antisymm (hstretch.trans hbefore) hother_start,
            hother_start.trans_lt (not_le.mp hstop)⟩
        · have hlt : next.start < other.stop :=
            (hrest_start next hnext).trans_lt (hother_start.trans_lt (not_le.mp hstop))
          exact ((List.pairwise_cons.mp hapart.2).1 next hnext).resolve_left (not_le.mpr hlt)

/-- Descending edits are in the order of their starts. -/
theorem Descending.pairwise_start (h : Descending edits) (hfits : ∀ edit ∈ edits, edit.Fits text) :
    edits.Pairwise fun edit other => other.start ≤ edit.start :=
  h.imp_of_mem fun _ hother hle => (hfits _ hother).start_le_stop.trans hle

/-- Independent edits can be listed in one descending order only. -/
theorem Descending.eq_of_perm (h : Descending edits) (h' : Descending edits')
    (hind : Independent text edits) (hperm : edits.Perm edits') : edits = edits' := by
  have hsymm : Std.Symm fun edit other : Edit =>
      ¬(edit.start = edit.stop ∧ other.start = other.stop ∧ edit.start = other.start) :=
    ⟨fun _ _ hnot ⟨hother, hedit, hstart⟩ => hnot ⟨hedit, hother, hstart.symm⟩⟩
  refine hperm.eq_of_pairwise (fun edit other hedit hother hle hle' => ?_) h h'
  have hother_mem := hperm.mem_iff.mpr hother
  have hstretch := (hind.fits edit hedit).start_le_stop
  have hother_stretch := (hind.fits other hother_mem).start_le_stop
  by_contra hne
  refine hind.distinct.forall hedit hother_mem hne ⟨?_, ?_, ?_⟩
  · exact le_antisymm hstretch (hle'.trans (hother_stretch.trans hle))
  · exact le_antisymm hother_stretch (hle.trans (hstretch.trans hle'))
  · exact le_antisymm (hstretch.trans hle') (hother_stretch.trans hle)

/-- Edits that end before another starts end there in the text, too. -/
theorem replacement_stop_le_start (hfits : ∀ edit ∈ edits, edit.Fits text)
    (hstops : ∀ other ∈ edits, other.stop ≤ edit.start) :
    ∀ other ∈ edits, (other.replacement text).stop ≤ (edit.replacement text).start :=
  fun other hother => (hfits other hother).stop.offset_le_offset (hstops other hother)

/-- The edits of a list that start at the same place commute. -/
def TiesCommute (text : List Char) (edits : List Edit) : Prop :=
  ∀ point ∈ edits, ∀ edit ∈ edits, point.IsAtStartOf edit → Commutes text point edit

theorem TiesCommute.of_cons (h : TiesCommute text (edit :: edits)) : TiesCommute text edits :=
  fun point hpoint edit hedit =>
    h point (List.mem_cons_of_mem _ hpoint) edit (List.mem_cons_of_mem _ hedit)

/-- Two edits that commute change places in front of edits that come to the same. -/
theorem Commutes.applyInOrder_cons_cons (h : Commutes text point edit)
    (hat : point.IsAtStartOf edit) (hfits : edit.Fits text) (hpoint : point.KeepsLine)
    (hkeeps : edit.KeepsLine)
    (hrest : ∀ changed, applyInOrder
        (splitNewlines (text.take (edit.replacement text).start ++ changed)) edits
      = applyInOrder (splitNewlines (text.take (edit.replacement text).start ++ changed)) edits')
    {count : Nat} (hcount : (edit.replacement text).stop ≤ count) (changed : List Char) :
    applyInOrder (splitNewlines (text.take count ++ changed)) (point :: edit :: edits)
      = applyInOrder (splitNewlines (text.take count ++ changed)) (edit :: point :: edits') := by
  obtain ⟨left, hleft⟩ := hat.exists_left hfits hpoint hkeeps
  obtain ⟨behind, -, hsecond⟩ := hleft count changed hcount
  have hfirst := (h count changed hcount).trans hsecond
  have hrun := applyInOrder_append_of_ok hfirst edits
  have hrun' := applyInOrder_append_of_ok hsecond edits'
  rw [hrest, ← hrun'] at hrun
  exact hrun

/-- Independent edits in the order of their starts have a descending order, to the same effect if
those with the same start commute. -/
theorem Independent.exists_descending (h : Independent text edits)
    (hkeeps : ∀ edit ∈ edits, edit.KeepsLine)
    (horder : edits.Pairwise fun edit other => other.start ≤ edit.start) :
    ∃ descending, descending.Perm edits ∧ Descending descending
      ∧ (TiesCommute text edits →
        ∀ count changed, (∀ edit ∈ edits, (edit.replacement text).stop ≤ count) →
          applyInOrder (splitNewlines (text.take count ++ changed)) edits
            = applyInOrder (splitNewlines (text.take count ++ changed)) descending) := by
  -- an edit without a stretch and the one it stands at the start of are taken together
  induction hlength : edits.length using Nat.strong_induction_on generalizing edits with
  | _ length ih =>
      cases edits with
      | nil => exact ⟨[], .nil, .nil, fun _ _ _ _ => rfl⟩
      | cons edit edits =>
          have hfits := List.forall_mem_cons.mp h.fits
          rw [List.forall_mem_cons] at hkeeps
          rw [List.length_cons] at hlength
          rcases h.head_cases horder with hstops | ⟨other, rest, rfl, hat, hstops⟩
          · obtain ⟨descending, hperm, hdescending, hrun⟩ :=
              ih edits.length (by omega) h.of_cons hkeeps.2 horder.of_cons rfl
            refine ⟨edit :: descending, hperm.cons edit, List.pairwise_cons.mpr ⟨?_, hdescending⟩,
              fun hcommutes count changed hcount => ?_⟩
            · exact fun other hother => hstops other (hperm.mem_iff.mp hother)
            · have hstep := hfits.1.applyTo_take hkeeps.1 (List.forall_mem_cons.mp hcount).1 changed
              rw [applyInOrder_cons_of_ok hstep, applyInOrder_cons_of_ok hstep]
              exact hrun hcommutes.of_cons _ _ (replacement_stop_le_start hfits.2 hstops)
          · rw [List.forall_mem_cons] at hfits hkeeps
            rw [List.length_cons] at hlength
            obtain ⟨descending, hperm, hdescending, hrun⟩ :=
              ih rest.length (by omega) h.of_cons.of_cons hkeeps.2.2 horder.of_cons.of_cons rfl
            have hstart : edit.stop ≤ other.start := (hat.start_eq_stop ▸ hat.start_eq_start).le
            have hbehind : ∀ next ∈ descending, next.stop ≤ other.start :=
              fun next hnext => hstops next (hperm.mem_iff.mp hnext)
            refine ⟨other :: edit :: descending,
              (List.Perm.swap edit other descending).trans ((hperm.cons other).cons edit),
              List.pairwise_cons.mpr ⟨List.forall_mem_cons.mpr ⟨hstart, hbehind⟩,
                List.pairwise_cons.mpr ⟨?_, hdescending⟩⟩,
              fun hcommutes count changed hcount => ?_⟩
            · rw [hat.start_eq_start]
              exact hbehind
            · have hmem : other ∈ edit :: other :: rest := List.mem_cons_of_mem _ List.mem_cons_self
              refine (hcommutes edit List.mem_cons_self other hmem hat).applyInOrder_cons_cons hat
                hfits.2.1 hkeeps.1 hkeeps.2.1 (fun changed => ?_) (hcount other hmem) changed
              exact hrun hcommutes.of_cons.of_cons _ _ (replacement_stop_le_start hfits.2.2 hstops)

/-- In a descending order an edit without a stretch comes right after the one at the start of which
it stands. -/
theorem Descending.exists_split (h : Descending edits) (hind : Independent text edits)
    (hat : point.IsAtStartOf edit) (hpoint : point ∈ edits) (hedit : edit ∈ edits) :
    ∃ front back, edits = front ++ edit :: point :: back := by
  induction edits with
  | nil => exact absurd hedit List.not_mem_nil
  | cons first rest ih =>
      have hfirst := List.pairwise_cons.mp h
      have hne : point ≠ edit := by
        rintro rfl
        exact hat.start_lt_stop.ne hat.start_eq_stop
      rcases List.mem_cons.mp hedit with rfl | hedit_rest
      · have hpoint_rest := (List.mem_cons.mp hpoint).resolve_left hne
        cases rest with
        | nil => exact absurd hpoint_rest List.not_mem_nil
        | cons other rest =>
            rcases List.mem_cons.mp hpoint_rest with rfl | hpoint_rest
            · exact ⟨[], rest, rfl⟩
            · -- the edit in between would be one without a stretch at the same place
              have hother := (hind.of_cons.fits other List.mem_cons_self).start_le_stop
              have hstop := hfirst.1 other List.mem_cons_self
              have hstop_point := (List.pairwise_cons.mp hfirst.2).1 point hpoint_rest
              rw [← hat.start_eq_start] at hstop
              rw [← hat.start_eq_stop] at hstop_point
              refine absurd ⟨?_, hat.start_eq_stop, ?_⟩
                ((List.pairwise_cons.mp hind.of_cons.distinct).1 point hpoint_rest)
              · exact le_antisymm hother (hstop.trans hstop_point)
              · exact le_antisymm (hother.trans hstop) hstop_point
      · rcases List.mem_cons.mp hpoint with rfl | hpoint_rest
        · have hstop := hfirst.1 edit hedit_rest
          rw [hat.start_eq_start] at hstop
          exact absurd hat.start_lt_stop (not_lt.mpr hstop)
        · obtain ⟨front, back, hsplit⟩ := ih hfirst.2 hind.of_cons hpoint_rest hedit_rest
          exact ⟨first :: front, back, by rw [hsplit, List.cons_append]⟩

/-- Among descending edits the one without a stretch may come before the other, too. -/
theorem Descending.pairwise_start_swap {front back : List Edit}
    (h : Descending (front ++ edit :: point :: back))
    (hfits : ∀ next ∈ front ++ edit :: point :: back, next.Fits text)
    (hat : point.IsAtStartOf edit) :
    (front ++ point :: edit :: back).Pairwise fun edit other => other.start ≤ edit.start := by
  have horder := h.pairwise_start hfits
  rw [← List.pairwise_map (f := Edit.start) (R := fun start start' => start' ≤ start)] at horder ⊢
  simpa only [List.map_append, List.map_cons, hat.start_eq_start] using horder

/-- Two edits that can change places among descending edits commute: the edits around them do not
hide what they come to. -/
theorem Descending.commutes_of_applyEdits_eq {source : String} {front back : List Edit}
    (h : Descending (front ++ edit :: point :: back))
    (hfits : ∀ next ∈ front ++ edit :: point :: back, next.Fits source.toList)
    (hkeeps : ∀ next ∈ front ++ edit :: point :: back, next.KeepsLine)
    (hat : point.IsAtStartOf edit)
    (heq : applyEdits source (front ++ edit :: point :: back)
      = applyEdits source (front ++ point :: edit :: back)) :
    Commutes source.toList point edit := by
  rw [applyEdits_of_pairwise source (h.pairwise_start hfits),
    applyEdits_of_pairwise source (h.pairwise_start_swap hfits hat)] at heq
  simp only [List.forall_mem_append, List.forall_mem_cons] at hfits hkeeps
  obtain ⟨hfront, hpair, hcross⟩ := List.pairwise_append.mp h
  obtain ⟨hedit, hback⟩ := List.pairwise_cons.mp hpair
  obtain ⟨left, hleft⟩ := hat.exists_left hfits.2.1 hkeeps.2.2.1 hkeeps.2.1
  -- the edits that are applied first leave the text up to the end of the stretch
  obtain ⟨behind, hbehind⟩ := Descending.exists_applyInOrder hfront hfits.1 hkeeps.1
    hfits.2.1.stop.offset_le_length
    (fun next hnext => hfits.2.1.stop.offset_le_offset (hcross next hnext edit List.mem_cons_self))
    (fun next hnext => (hfits.1 next hnext).stop.offset_le_length)
  have hfirst := hbehind []
  rw [List.take_length, List.append_nil, List.append_nil] at hfirst
  obtain ⟨rest, hcrossed, hsettled⟩ := hleft _ behind le_rfl
  -- and those that are applied last keep all that the two come to
  obtain ⟨before, hlast⟩ := Descending.exists_applyInOrder hback.of_cons hfits.2.2.2 hkeeps.2.2.2
    (Nat.zero_le _) (fun _ _ => Nat.zero_le _)
    (replacement_stop_le_start hfits.2.2.2 (List.forall_mem_cons.mp hedit).2)
  have hrun : applyInOrder (splitNewlines source.toList) (front ++ edit :: point :: back)
      = .ok (splitNewlines (source.toList.take 0
          ++ (before ++ (point.newText.toList ++ edit.newText.toList ++ rest)))) := by
    rw [applyInOrder_append_of_ok hfirst, ← hlast]
    exact applyInOrder_append_of_ok hsettled back
  have hrun' : applyInOrder (splitNewlines source.toList) (front ++ point :: edit :: back)
      = .ok (splitNewlines (source.toList.take 0
          ++ (before ++ (edit.newText.toList ++ left ++ rest)))) := by
    rw [applyInOrder_append_of_ok hfirst, ← hlast]
    exact applyInOrder_append_of_ok hcrossed back
  rw [hrun, hrun'] at heq
  simp only [Except.map, joinNewlines_splitNewlines, Except.ok.injEq, String.ofList_inj,
    List.append_cancel_left_eq, List.append_cancel_right_eq] at heq
  intro count changed hcount
  obtain ⟨rest', hcrossed', hsettled'⟩ := hleft count changed hcount
  rw [hcrossed', hsettled', heq]

/-- Independent edits have a descending order, to the same effect if those with the same start
commute. -/
theorem Independent.exists_descending_applyEdits {source : String}
    (h : Independent source.toList edits) (hkeeps : ∀ edit ∈ edits, edit.KeepsLine) :
    ∃ descending, descending.Perm edits ∧ Descending descending
      ∧ (TiesCommute source.toList edits →
        applyEdits source edits = applyEdits source descending) := by
  have hperm := bottomUp_perm edits
  have hmem := fun edit => hperm.mem_iff (a := edit)
  obtain ⟨descending, hdescending_perm, hdescending, hrun⟩ :=
    (h.perm hperm.symm).exists_descending (fun edit hedit => hkeeps edit ((hmem edit).mp hedit))
      (pairwise_bottomUp edits)
  refine ⟨descending, hdescending_perm.trans hperm, hdescending, fun hties => ?_⟩
  have horder := hdescending.pairwise_start fun edit hedit =>
    h.fits edit ((hdescending_perm.trans hperm).mem_iff.mp hedit)
  have hties_sorted : TiesCommute source.toList (bottomUp edits) :=
    fun point hpoint edit hedit => hties point ((hmem point).mp hpoint) edit ((hmem edit).mp hedit)
  have hall := hrun hties_sorted source.toList.length [] fun edit hedit =>
    (h.fits edit ((hmem edit).mp hedit)).stop.offset_le_length
  rw [List.append_nil, List.take_length] at hall
  rw [applyEdits_of_pairwise source horder, applyEdits_eq, hall]

/-- If the listing order of independent edits has no effect, those with the same start commute. -/
theorem Independent.tiesCommute_of_perm {source : String} (h : Independent source.toList edits)
    (hkeeps : ∀ edit ∈ edits, edit.KeepsLine)
    (hall : ∀ edits', edits'.Perm edits → applyEdits source edits' = applyEdits source edits) :
    TiesCommute source.toList edits := by
  intro point hpoint edit hedit hat
  obtain ⟨descending, hperm, hdescending, -⟩ := h.exists_descending_applyEdits hkeeps
  obtain ⟨front, back, rfl⟩ := hdescending.exists_split (h.perm hperm.symm) hat
    (hperm.mem_iff.mpr hpoint) (hperm.mem_iff.mpr hedit)
  -- the two can change places
  have hswap : (front ++ point :: edit :: back).Perm edits :=
    ((List.Perm.swap edit point back).append_left front).trans hperm
  exact hdescending.commutes_of_applyEdits_eq (h.perm hperm.symm).fits
    (fun next hnext => hkeeps next (hperm.mem_iff.mp hnext)) hat
    ((hall _ hperm).trans (hall _ hswap).symm)

/-- If those with the same start commute, the listing order of independent edits has no effect. -/
theorem TiesCommute.applyEdits_perm {source : String} (hties : TiesCommute source.toList edits)
    (h : Independent source.toList edits) (hkeeps : ∀ edit ∈ edits, edit.KeepsLine)
    (hperm : edits'.Perm edits) : applyEdits source edits' = applyEdits source edits := by
  have hmem := fun edit => hperm.mem_iff (a := edit)
  have hties' : TiesCommute source.toList edits' :=
    fun point hpoint edit hedit => hties point ((hmem point).mp hpoint) edit ((hmem edit).mp hedit)
  obtain ⟨descending, hdescending_perm, hdescending, hrun⟩ :=
    h.exists_descending_applyEdits hkeeps
  obtain ⟨descending', hdescending_perm', hdescending', hrun'⟩ :=
    (h.perm hperm.symm).exists_descending_applyEdits
      fun edit hedit => hkeeps edit ((hmem edit).mp hedit)
  have hsame : descending = descending' :=
    hdescending.eq_of_perm hdescending' (h.perm hdescending_perm.symm)
      (hdescending_perm.trans (hdescending_perm'.trans hperm).symm)
  rw [hrun hties, hsame, hrun' hties']

end Rearranging

end Edit

/-- It has no effect in which order edits are listed as long as those that start at one place stay
in their order. For independent edits that remove no line it has no effect at all exactly if it has
none on any two of them of which one, without a stretch, stands at the start of the other. -/
theorem applyEdits_listingOrder (source : String) (edits : List Edit) :
    (∀ edits' : List Edit, (∀ place, edits'.filter (fun edit => edit.start = place)
        = edits.filter fun edit => edit.start = place) →
      applyEdits source edits' = applyEdits source edits)
      ∧ (Edit.Independent source.toList edits → (∀ edit ∈ edits, edit.KeepsLine) →
        ((∀ edits' : List Edit, edits'.Perm edits →
            applyEdits source edits' = applyEdits source edits)
          ↔ ∀ point ∈ edits, ∀ edit ∈ edits, point.IsAtStartOf edit →
            applyEdits source [point, edit] = applyEdits source [edit, point])) := by
  refine ⟨fun edits' hfilter => ?_, fun hind hkeeps => ⟨fun hall => ?_, fun hties => ?_⟩⟩
  · rw [applyEdits_eq, applyEdits_eq, Edit.bottomUp_congr hfilter]
  · intro point hpoint edit hedit hat
    have hcommutes := hind.tiesCommute_of_perm hkeeps hall point hpoint edit hedit hat
    exact (Edit.commutes_iff hat source (hind.fits edit hedit) (hkeeps point hpoint)
      (hkeeps edit hedit)).mp hcommutes
  · intro edits' hperm
    have hcommute : Edit.TiesCommute source.toList edits := by
      intro point hpoint edit hedit hat
      exact (Edit.commutes_iff hat source (hind.fits edit hedit) (hkeeps point hpoint)
        (hkeeps edit hedit)).mpr (hties point hpoint edit hedit hat)
    exact hcommute.applyEdits_perm hind hkeeps hperm

/-- Listed before the edit at whose start it stands, an insertion is overwritten. -/
theorem applyEdits_listingOrder_overwritten :
    let point : Edit := ⟨.insert, 1, 1, 1, 1, "", "X", ""⟩
    let edit : Edit := ⟨.replace, 1, 1, 1, 2, "", "Y", ""⟩
    Edit.Independent "abc".toList [point, edit]
      ∧ (∀ next ∈ [point, edit], next.KeepsLine)
      ∧ applyEdits "abc" [point, edit] = .ok "aYbc" ∧ applyEdits "abc" [edit, point] = .ok "aXYc"
      ∧ ¬∀ edits' : List Edit, edits'.Perm [point, edit] →
          applyEdits "abc" edits' = applyEdits "abc" [point, edit] := by
  intro point edit
  have hat : point.IsAtStartOf edit := ⟨by decide, by decide, by decide⟩
  have hind : Edit.Independent "abc".toList [point, edit] := by
    refine ⟨?_, by decide, by decide⟩
    simp only [List.forall_mem_cons]
    refine ⟨?_, ?_, by simp⟩ <;>
      exact ⟨⟨by decide, by decide, by decide, by decide⟩,
        ⟨by decide, by decide, by decide, by decide⟩, by decide⟩
  have hkeeps : ∀ next ∈ [point, edit], next.KeepsLine := fun next hnext =>
    Edit.keepsLine_of_kind_ne ((by decide : ∀ next ∈ [point, edit], next.kind ≠ .delete) next hnext)
  have hfirst : applyEdits "abc" [point, edit] = .ok "aYbc" := by
    rw [Edit.applyEdits_of_pairwise _ (by decide)]
    decide
  have hsecond : applyEdits "abc" [edit, point] = .ok "aXYc" := by
    rw [Edit.applyEdits_of_pairwise _ (by decide)]
    decide
  obtain ⟨-, hiff⟩ := applyEdits_listingOrder "abc" [point, edit]
  refine ⟨hind, hkeeps, hfirst, hsecond, fun hall => ?_⟩
  have hties := (hiff hind hkeeps).mp hall point List.mem_cons_self edit
    (List.mem_cons_of_mem _ List.mem_cons_self) hat
  rw [hfirst, hsecond] at hties
  exact absurd hties (by decide)

end ScriptAdvisor
