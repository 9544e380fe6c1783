import ScriptAdvisor.Proofs.Edit.Replacement
import ScriptAdvisor.Proofs.Text.Place

/-! # Applying edits replaces stretches of the text

Edits are applied line by line and from the bottom up. For edits whose stretches lie in the text and
do not overlap this comes to replacing all stretches of the text at once, whatever the order in
which the edits are listed and however many lines their new texts have.

* `Edit.Separate` says that edits lie in a text and do not overlap.
* `Edit.KeepsLine.applyTo_splitNewlines`: one edit replaces the text between its places.
* `applyEdits_eq_replaced`: edits that are separate replace their stretches. -/

namespace ScriptAdvisor

namespace Edit

open Text

/-! ## The stretch of an edit -/

/-- The place an edit starts at. -/
def start (edit : Edit) : Int ×ₗ Int := place edit.startLine edit.startColumn

/-- The place an edit ends at. -/
def stop (edit : Edit) : Int ×ₗ Int := place edit.endLine edit.endColumn

/-- The replacement that an edit stands for in a text. -/
def replacement (text : List Char) (edit : Edit) : Replacement :=
  { start := offset text edit.startLine edit.startColumn
    stop := offset text edit.endLine edit.endColumn, newText := edit.newText.toList }

/-- The text after the replacements that edits stand for. -/
def replaced (text : List Char) (edits : List Edit) : List Char :=
  Replacement.carryOut (edits.map (replacement text)) 0 text

/-- The places of an edit are in a text, and it does not end before it starts. -/
structure Fits (edit : Edit) (text : List Char) : Prop where
  /-- The place it starts at is in the text. -/
  start : HoldsPlace text edit.startLine edit.startColumn
  /-- The place it ends at is in the text. -/
  stop : HoldsPlace text edit.endLine edit.endColumn
  /-- It does not end before it starts. -/
  start_le_stop : edit.start ≤ edit.stop

/-- Edits that fit a text, no two of which start at one place and each of which ends before the next
one starts. -/
structure Separate (text : List Char) (edits : List Edit) : Prop where
  /-- Every edit fits the text. -/
  fits : ∀ edit ∈ edits, edit.Fits text
  /-- No two start at one place. -/
  distinct : edits.Pairwise fun edit other => edit.start ≠ other.start
  /-- An edit that starts before another ends before it, too. -/
  apart : ∀ edit ∈ edits, ∀ other ∈ edits, edit.start < other.start → edit.stop ≤ other.start

/-! ## One edit -/

theorem lineAt_append_cons (front : List (List Char)) (line : List Char)
    (back : List (List Char)) : lineAt (front ++ line :: back) (front.length + 1) = line := by
  have hindex : ((front.length : Int) + 1 - 1).toNat = front.length := by omega
  rw [lineAt, hindex, List.getElem?_append_right le_rfl, Nat.sub_self]
  rfl

/-- The lines before the one behind `front`. -/
theorem take_append_cons (front : List (List Char)) (line : List Char) (back : List (List Char)) :
    (front ++ line :: back).take ((front.length : Int) + 1 - 1).toNat = front := by
  have hcount : ((front.length : Int) + 1 - 1).toNat = front.length := by omega
  rw [hcount, List.take_left]

/-- The lines behind the one behind `front`. -/
theorem drop_append_cons (front : List (List Char)) (line : List Char) (back : List (List Char)) :
    (front ++ line :: back).drop ((front.length : Int) + 1).toNat = back := by
  have hcount : ((front.length : Int) + 1).toNat = front.length + 1 := by omega
  rw [hcount, List.drop_length_add_append, List.drop_succ_cons, List.drop_zero]

theorem upTo_length_append (a b : List Char) : Slice.upTo (a ++ b) a.length = a := by
  rw [Slice.upTo_natCast, List.take_left]

theorem startingAt_length_append (a b : List Char) : Slice.startingAt (a ++ b) a.length = b := by
  rw [Slice.startingAt_natCast, List.drop_left]

/-- An edit that leaves text on its line, whatever stands behind it: only a deletion from the first
column on can remove a line, and only with no new text. -/
def KeepsLine (edit : Edit) : Prop :=
  edit.kind = .delete → edit.newText.toList ≠ [] ∨ edit.startColumn ≠ 0

theorem keepsLine_of_kind_ne {edit : Edit} (hkind : edit.kind ≠ .delete) : edit.KeepsLine :=
  fun hdelete => absurd hdelete hkind

/-- One edit puts its new text in place of the text `b` between its places. -/
theorem KeepsLine.applyTo_splitNewlines {edit : Edit} (hkeeps : edit.KeepsLine) {a b : List Char}
    (ha : EndsAt a edit.startLine edit.startColumn)
    (hb : EndsAt (a ++ b) edit.endLine edit.endColumn) (c : List Char) :
    edit.applyTo (splitNewlines (a ++ b ++ c))
      = .ok (splitNewlines (a ++ edit.newText.toList ++ c)) := by
  obtain ⟨front, first, hfront, hstartLine, hstartColumn⟩ := ha
  obtain ⟨front', last, hfront', hendLine, hendColumn⟩ := hb
  obtain ⟨rest, back, hrest⟩ := List.exists_cons_of_ne_nil (splitNewlines_ne_nil c)
  obtain ⟨inner, back', hinner⟩ := List.exists_cons_of_ne_nil (splitNewlines_ne_nil (b ++ c))
  -- the lines, seen from the start of the edit and from its end
  have hlines : splitNewlines (a ++ b ++ c) = front ++ (first ++ inner) :: back' := by
    rw [List.append_assoc]
    exact splitNewlines_append hfront hinner
  have hlines' : splitNewlines (a ++ b ++ c) = front' ++ (last ++ rest) :: back :=
    splitNewlines_append hfront' hrest
  have hle : front.length ≤ front'.length := by
    have hlength := congrArg List.length (hfront'.symm.trans (splitNewlines_append_left hfront b))
    have hpos := List.length_pos_iff.mpr (splitNewlines_ne_nil (first ++ b))
    simp only [List.length_append, List.length_cons, List.length_nil] at hlength
    omega
  have hinside : edit.isInside (splitNewlines (a ++ b ++ c)).length = true := by
    rw [isInside, hlines', List.length_append, List.length_cons, hstartLine, hendLine]
    simp only [Bool.and_eq_true, decide_eq_true_eq]
    omega
  have hmerged : edit.merged (splitNewlines (a ++ b ++ c))
      = first ++ edit.newText.toList ++ rest := by
    rw [merged, hstartLine, hstartColumn, hendLine, hendColumn]
    conv_lhs => enter [1, 1]; rw [hlines, lineAt_append_cons, upTo_length_append]
    rw [hlines', lineAt_append_cons, startingAt_length_append]
  have htake : (splitNewlines (a ++ b ++ c)).take (edit.startLine - 1).toNat = front := by
    rw [hlines, hstartLine, take_append_cons]
  have hdrop : (splitNewlines (a ++ b ++ c)).drop edit.endLine.toNat = back := by
    rw [hlines', hendLine, drop_append_cons]
  have hkept : ¬(edit.kind = .delete ∧ edit.merged (splitNewlines (a ++ b ++ c)) = []) := by
    rintro ⟨hdelete, hnothing⟩
    rw [hmerged, List.append_eq_nil_iff, List.append_eq_nil_iff] at hnothing
    rcases hkeeps hdelete with hnew | hcolumn
    · exact hnew hnothing.1.2
    · rw [hstartColumn, hnothing.1.1] at hcolumn
      exact hcolumn rfl
  rw [applyTo, if_pos hinside, newLines, if_neg hkept, htake, hdrop, hmerged]
  rw [List.append_assoc a, splitNewlines_append_left hfront, ← List.append_assoc first,
    splitNewlines_append_right hrest, List.append_assoc front]

theorem applyTo_splitNewlines {edit : Edit} (hkind : edit.kind ≠ .delete) {a b : List Char}
    (ha : EndsAt a edit.startLine edit.startColumn)
    (hb : EndsAt (a ++ b) edit.endLine edit.endColumn) (c : List Char) :
    edit.applyTo (splitNewlines (a ++ b ++ c))
      = .ok (splitNewlines (a ++ edit.newText.toList ++ c)) :=
  (keepsLine_of_kind_ne hkind).applyTo_splitNewlines ha hb c

/-! ## Edits from the bottom up -/

/-- An edit that fits a text cuts it in three: the text before its start, its stretch, and the text
behind its end. -/
theorem Fits.exists_cut {edit : Edit} {text : List Char} (h : edit.Fits text) :
    ∃ a b c, text = a ++ b ++ c ∧ EndsAt a edit.startLine edit.startColumn
      ∧ EndsAt (a ++ b) edit.endLine edit.endColumn
      ∧ (edit.replacement text).start = a.length
      ∧ (edit.replacement text).stop = (a ++ b).length := by
  set first := offset text edit.startLine edit.startColumn with hfirst
  set last := offset text edit.endLine edit.endColumn with hlast
  have hle : first ≤ last := h.start.offset_le_offset h.start_le_stop
  have hlength : last ≤ text.length := h.stop.offset_le_length
  have hstretch : text.take first ++ (text.take last).drop first = text.take last := by
    rw [← Nat.min_eq_left hle, ← List.take_take, Nat.min_eq_left hle, List.take_append_drop]
  refine ⟨text.take first, (text.take last).drop first, text.drop last, ?_, ?_, ?_, ?_, ?_⟩
  · rw [hstretch, List.take_append_drop]
  · exact h.start.endsAt_take
  · rw [hstretch]
    exact h.stop.endsAt_take
  · rw [List.length_take, Nat.min_eq_left (hle.trans hlength)]
    rfl
  · rw [hstretch, List.length_take, Nat.min_eq_left hlength]
    rfl

/-- An edit in front of all edits that were carried out before: it still finds its places, and joins
the replacements. -/
theorem applyTo_replaced {text : List Char} {edit : Edit} (hkind : edit.kind ≠ .delete)
    (hfits : edit.Fits text) {done : List Edit}
    (hdone : ∀ other ∈ done, edit.start < other.start ∧ edit.stop ≤ other.start) :
    edit.applyTo (splitNewlines (replaced text done))
      = .ok (splitNewlines (replaced text (edit :: done))) := by
  obtain ⟨a, b, c, htext, ha, hb, hstart, hstop⟩ := hfits.exists_cut
  have hstarts : ∀ r ∈ done.map (replacement text), (edit.replacement text).start < r.start := by
    intro r hr
    obtain ⟨other, hother, rfl⟩ := List.mem_map.mp hr
    exact hfits.start.offset_lt_offset (hdone other hother).1
  have hstops : ∀ r ∈ done.map (replacement text), (edit.replacement text).stop ≤ r.start := by
    intro r hr
    obtain ⟨other, hother, rfl⟩ := List.mem_map.mp hr
    exact hfits.stop.offset_le_offset (hdone other hother).2
  -- up to the end of the edit nothing has changed yet
  have hbefore : replaced text done
      = a ++ b ++ Replacement.carryOut (done.map (replacement text)) (a ++ b).length c := by
    have hcopy : ∀ r ∈ done.map (replacement text), 0 + (a ++ b).length ≤ r.start := by
      rw [Nat.zero_add, ← hstop]
      exact hstops
    have h := Replacement.carryOut_append_of_le hcopy c
    rw [← htext, Nat.zero_add] at h
    exact h
  have hafter : replaced text (edit :: done)
      = a ++ edit.newText.toList
        ++ Replacement.carryOut (done.map (replacement text)) (a ++ b).length c := by
    have h := Replacement.carryOut_cons hstart hstop hstarts hstops c
    rw [← htext] at h
    exact h
  rw [hbefore, hafter]
  exact applyTo_splitNewlines hkind ha hb _

theorem applyInOrder_cons_of_ok {edit : Edit} {lines lines' : List (List Char)}
    (h : edit.applyTo lines = .ok lines') (edits : List Edit) :
    applyInOrder lines (edit :: edits) = applyInOrder lines' edits := by
  rw [applyInOrder, h]
  rfl

/-- Edits from the last to the first, in front of all edits that were carried out before. -/
theorem applyInOrder_replaced {text : List Char} {edits done : List Edit}
    (hkinds : ∀ edit ∈ edits, edit.kind ≠ .delete) (hfits : ∀ edit ∈ edits, edit.Fits text)
    (hedits : edits.Pairwise fun edit other => other.start < edit.start ∧ other.stop ≤ edit.start)
    (hdone : ∀ edit ∈ edits, ∀ other ∈ done,
      edit.start < other.start ∧ edit.stop ≤ other.start) :
    applyInOrder (splitNewlines (replaced text done)) edits
      = .ok (splitNewlines (replaced text (edits.reverse ++ done))) := by
  -- what was carried out lies behind all that is left, and grows by one edit in each step
  induction edits generalizing done with
  | nil => rfl
  | cons edit edits ih =>
      rw [List.forall_mem_cons] at hkinds hfits hdone
      rw [List.pairwise_cons] at hedits
      have hnext : ∀ next ∈ edits, ∀ other ∈ edit :: done,
          next.start < other.start ∧ next.stop ≤ other.start := by
        intro next hmem other hother
        rcases List.mem_cons.mp hother with rfl | hother
        · exact hedits.1 next hmem
        · exact hdone.2 next hmem other hother
      have hrest := ih hkinds.2 hfits.2 hedits.2 hnext
      rw [applyInOrder_cons_of_ok (applyTo_replaced hkinds.1 hfits.1 hdone.1), List.reverse_cons,
        List.append_assoc]
      exact hrest

/-! ## The order of application -/

theorem startsNotBefore_iff (edit other : Edit) :
    edit.startsNotBefore other = true ↔ other.start ≤ edit.start := by
  rw [startsNotBefore, start, start, Prod.Lex.toLex_le_toLex]
  simp

theorem startsNotBefore_trans (edit other third : Edit) :
    edit.startsNotBefore other = true → other.startsNotBefore third = true →
      edit.startsNotBefore third = true := by
  simp only [startsNotBefore_iff]
  exact fun h h' => h'.trans h

theorem startsNotBefore_total (edit other : Edit) :
    (edit.startsNotBefore other || other.startsNotBefore edit) = true := by
  rw [Bool.or_eq_true, startsNotBefore_iff, startsNotBefore_iff]
  exact le_total _ _

theorem bottomUp_perm (edits : List Edit) : (bottomUp edits).Perm edits := List.mergeSort_perm _ _

/-- No edit is applied before one that starts behind it. -/
theorem pairwise_bottomUp (edits : List Edit) :
    (bottomUp edits).Pairwise fun edit other => other.start ≤ edit.start :=
  (List.pairwise_mergeSort startsNotBefore_trans startsNotBefore_total edits).imp
    fun h => (startsNotBefore_iff _ _).mp h

/-- Edits that do not overlap are applied from the last start to the first. -/
theorem Separate.pairwise_bottomUp {text : List Char} {edits : List Edit}
    (h : Separate text edits) :
    (bottomUp edits).Pairwise fun edit other =>
      other.start < edit.start ∧ other.stop ≤ edit.start := by
  have hperm := bottomUp_perm edits
  have hdistinct : (bottomUp edits).Pairwise fun edit other => edit.start ≠ other.start :=
    hperm.symm.pairwise h.distinct Ne.symm
  have hboth := (Edit.pairwise_bottomUp edits).and hdistinct
  refine hboth.imp_of_mem fun {edit other} hedit hother hpair => ?_
  have hlt : other.start < edit.start := lt_of_le_of_ne hpair.1 (Ne.symm hpair.2)
  exact ⟨hlt, h.apart other (hperm.mem_iff.mp hother) edit (hperm.mem_iff.mp hedit) hlt⟩

/-- Separate edits can be listed in any order. -/
theorem Separate.replaced_perm {text : List Char} {edits edits' : List Edit}
    (h : Separate text edits) (hperm : edits.Perm edits') :
    replaced text edits = replaced text edits' := by
  refine Replacement.carryOut_perm (hperm.map _) ?_ 0 text
  rw [List.pairwise_map]
  refine h.distinct.imp_of_mem fun {edit other} hedit hother hne => ?_
  rcases lt_or_gt_of_ne hne with hlt | hlt
  · exact ((h.fits edit hedit).start.offset_lt_offset hlt).ne
  · exact ((h.fits other hother).start.offset_lt_offset hlt).ne'

end Edit

open Text

theorem applyEdits_eq (source : String) (edits : List Edit) :
    applyEdits source edits
      = (Edit.applyInOrder (splitNewlines source.toList) (Edit.bottomUp edits)).map
          fun lines => String.ofList (joinNewlines lines) := by
  unfold applyEdits applyEditsToText
  cases Edit.applyInOrder (splitNewlines source.toList) (Edit.bottomUp edits) <;> rfl

/-- Edits other than deletions that lie in the source and do not overlap replace their stretches:
the result is the source with the new text of every edit in place of its stretch and every other
character copied, in whatever order the edits are listed. -/
theorem applyEdits_eq_replaced (source : String) (edits : List Edit)
    (hkinds : ∀ edit ∈ edits, edit.kind ≠ .delete) (hseparate : Edit.Separate source.toList edits) :
    applyEdits source edits = .ok (String.ofList (Edit.replaced source.toList edits)) := by
  have hperm : (Edit.bottomUp edits).Perm edits := List.mergeSort_perm _ _
  have hrun : Edit.applyInOrder (splitNewlines (Edit.replaced source.toList []))
      (Edit.bottomUp edits)
      = .ok (splitNewlines (Edit.replaced source.toList ((Edit.bottomUp edits).reverse ++ []))) :=
    Edit.applyInOrder_replaced (fun edit hedit => hkinds edit (hperm.mem_iff.mp hedit))
      (fun edit hedit => hseparate.fits edit (hperm.mem_iff.mp hedit))
      hseparate.pairwise_bottomUp (fun _ _ _ hother => absurd hother List.not_mem_nil)
  have hnone : Edit.replaced source.toList [] = source.toList := Replacement.carryOut_nil _ _
  have hall : Edit.replaced source.toList (Edit.bottomUp edits).reverse
      = Edit.replaced source.toList edits :=
    (hseparate.replaced_perm ((List.reverse_perm _).trans hperm).symm).symm
  rw [hnone, List.append_nil, hall] at hrun
  rw [applyEdits, applyEditsToText, hrun]
  show Except.ok (String.ofList (joinNewlines (splitNewlines (Edit.replaced source.toList edits))))
    = _
  rw [joinNewlines_splitNewlines]

/-- Three edits listed out of order: one joins two lines, one inserts a line feed between them and
one that starts behind it on the same line. -/
theorem applyEdits_eq_replaced_joined_lines :
    Edit.Separate "ab\ncd\nef".toList
        [⟨.insert, 2, 1, 2, 1, "", "X\nY", ""⟩, ⟨.replace, 2, 2, 3, 1, "", "Z", ""⟩,
          ⟨.move, 1, 1, 2, 0, "", "-", ""⟩]
      ∧ applyEdits "ab\ncd\nef"
          [⟨.insert, 2, 1, 2, 1, "", "X\nY", ""⟩, ⟨.replace, 2, 2, 3, 1, "", "Z", ""⟩,
            ⟨.move, 1, 1, 2, 0, "", "-", ""⟩]
        = .ok "a-cX\nYdZf" := by
  have hseparate : Edit.Separate "ab\ncd\nef".toList
      [⟨.insert, 2, 1, 2, 1, "", "X\nY", ""⟩, ⟨.replace, 2, 2, 3, 1, "", "Z", ""⟩,
        ⟨.move, 1, 1, 2, 0, "", "-", ""⟩] := by
    refine ⟨?_, by decide, by decide⟩
    simp only [List.forall_mem_cons]
    refine ⟨?_, ?_, ?_, by simp⟩ <;>
      exact ⟨⟨by decide, by decide, by decide, by decide⟩,
        ⟨by decide, by decide, by decide, by decide⟩, by decide⟩
  refine ⟨hseparate, ?_⟩
  rw [applyEdits_eq_replaced _ _ (by decide) hseparate]
  decide

end ScriptAdvisor
