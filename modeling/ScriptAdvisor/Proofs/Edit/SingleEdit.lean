import ScriptAdvisor.Proofs.Edit.Application
import ScriptAdvisor.Proofs.Text.Feed
import ScriptAdvisor.Proofs.Text.LineBreak
import ScriptAdvisor.Text.Search

/-! # One edit alone

Most suggestions have a single edit. Its effect on a text is known in three cases.

* `applyEdits_singleton_of_endsAt`: an edit that is no deletion puts its new text in place of the
  stretch between its places.
* `applyEdits_singleton_isPrefix`: what stands before the first line of an edit stays.
* `applyEdits_delete`: deleting the first characters of a line takes the stretch
  `Text.removedSpan` away, which holds a line feed, too, when no character of the line is left.
* `Text.covers_removedSpan` and `Text.eq_offset_of_covers_removedSpan` say which places of a text
  this stretch covers. -/

namespace ScriptAdvisor

open Text

/-- There is no order to find for one edit. -/
theorem applyEdits_singleton (source : String) (edit : Edit) :
    applyEdits source [edit]
      = (edit.applyTo (splitNewlines source.toList)).map fun lines =>
          String.ofList (joinNewlines lines) := by
  rw [applyEdits, applyEditsToText, Edit.bottomUp, List.mergeSort_singleton, Edit.applyInOrder]
  cases edit.applyTo (splitNewlines source.toList) with
  | error fault => rfl
  | ok lines => rfl

/-- An edit that is no deletion puts its new text in place of the stretch `b` between its places. -/
theorem applyEdits_singleton_of_endsAt {source : String} {edit : Edit}
    (hkind : edit.kind ≠ .delete) {a b c : List Char} (hsource : source.toList = a ++ b ++ c)
    (ha : EndsAt a edit.startLine edit.startColumn)
    (hb : EndsAt (a ++ b) edit.endLine edit.endColumn) :
    applyEdits source [edit] = .ok (String.ofList (a ++ edit.newText.toList ++ c)) := by
  rw [applyEdits_singleton, hsource, Edit.applyTo_splitNewlines hkind ha hb]
  show Except.ok (String.ofList (joinNewlines (splitNewlines _))) = _
  rw [joinNewlines_splitNewlines]

/-! ## Before the edit -/

/-- A start of the source that ends before the first line of an edit is a start of the result. -/
theorem applyEdits_singleton_isPrefix {source after : String} {edit : Edit}
    (h : applyEdits source [edit] = .ok after) {start : List Char}
    (hstart : start <+: source.toList) (hcount : start.count '\n' + 1 < edit.startLine) :
    start <+: after.toList := by
  rw [applyEdits_singleton, Edit.applyTo] at h
  split at h
  · obtain rfl := Except.ok.inj h
    set front := (splitNewlines source.toList).take (edit.startLine - 1).toNat with hfront
    -- the lines before the edit are copied, and `start` ends on one of them
    have hkept : start <+: joinNewlines front := isPrefix_joinNewlines_take hstart (by omega)
    have hsome : front ≠ [] := by
      have hpos : 0 < (edit.startLine - 1).toNat := by omega
      rw [hfront, Ne, List.take_eq_nil_iff]
      exact not_or.mpr ⟨hpos.ne', splitNewlines_ne_nil _⟩
    rw [String.toList_ofList, List.append_assoc]
    exact hkept.trans (joinNewlines_isPrefix hsome _)
  · contradiction

/-- No line that an edit puts in has a line feed. -/
theorem Edit.newline_notMem_newLines {edit : Edit} {lines : List (List Char)} {line : List Char}
    (h : line ∈ edit.newLines lines) : '\n' ∉ line := by
  rw [newLines] at h
  split at h
  · contradiction
  · exact newline_notMem_of_mem_splitNewlines h

/-- The pieces before the first line of an edit stay. -/
theorem getElem?_splitNewlines_of_applyEdits {source after : String} {edit : Edit}
    (h : applyEdits source [edit] = .ok after) {count : Nat} (hcount : count + 1 < edit.startLine) :
    (splitNewlines after.toList)[count]? = (splitNewlines source.toList)[count]? := by
  rw [applyEdits_singleton, Edit.applyTo] at h
  split at h
  · rename_i hinside
    obtain rfl := Except.ok.inj h
    set lines := splitNewlines source.toList with hlines
    simp only [Edit.isInside, Bool.and_eq_true, decide_eq_true_eq] at hinside
    have hfront : count < (lines.take (edit.startLine - 1).toNat).length := by
      rw [List.length_take]
      omega
    have hfeeds : ∀ piece ∈ lines.take (edit.startLine - 1).toNat ++ edit.newLines lines
        ++ lines.drop edit.endLine.toNat, '\n' ∉ piece := by
      intro piece hpiece
      rw [List.mem_append, List.mem_append] at hpiece
      rcases hpiece with (hpiece | hpiece) | hpiece
      · exact newline_notMem_of_mem_splitNewlines (List.mem_of_mem_take hpiece)
      · exact Edit.newline_notMem_newLines hpiece
      · exact newline_notMem_of_mem_splitNewlines (List.mem_of_mem_drop hpiece)
    have hsome : lines.take (edit.startLine - 1).toNat ++ edit.newLines lines
        ++ lines.drop edit.endLine.toNat ≠ [] := by
      rw [List.append_assoc]
      exact List.append_ne_nil_of_left_ne_nil
        (List.ne_nil_of_length_pos (Nat.zero_lt_of_lt hfront)) _
    rw [String.toList_ofList, splitNewlines_joinNewlines hsome hfeeds, List.append_assoc,
      List.getElem?_append_left hfront, List.getElem?_take_of_lt]
    omega
  · contradiction

/-- An edit further down puts no word in here. -/
theorem applyEdits_singleton_ne_insertion {source : String} {edit : Edit}
    {start word rest : List Char} (hsource : source.toList = start ++ rest)
    (hcount : start.count '\n' + 1 < edit.startLine) (hfeed : '\n' ∉ word) (hword : word ≠ []) :
    applyEdits source [edit] ≠ .ok (String.ofList (start ++ (word ++ rest))) := by
  intro hafter
  have hkept := getElem?_splitNewlines_of_applyEdits hafter hcount
  obtain ⟨front, last, hstart, hlength⟩ := exists_splitNewlines_eq_append start
  obtain ⟨first, back, hrest⟩ := List.exists_cons_of_ne_nil (splitNewlines_ne_nil rest)
  have hnew : splitNewlines (word ++ rest) = (word ++ first) :: back := by
    have hfirst : '\n' ∉ word ++ first := by
      rw [List.mem_append]
      exact not_or.mpr ⟨hfeed,
        newline_notMem_of_mem_splitNewlines (by rw [hrest]; exact List.mem_cons_self)⟩
    rw [splitNewlines_append_right hrest, splitNewlines_eq_singleton hfirst]
    rfl
  -- the piece into which the word is put would be longer than it is
  rw [String.toList_ofList, hsource, splitNewlines_append hstart hnew,
    splitNewlines_append hstart hrest, ← hlength] at hkept
  simp [hword] at hkept

/-! ## Deleting the start of a line -/

namespace Text

/-- The stretch that is gone after the first `width` characters of a line are deleted: these
characters and, if none of the line are left, a line feed with them. This is the one behind the line
or, for the last line, the one before it. -/
def removedSpan (text : List Char) (line : Int) (width : Nat) : Span :=
  let start := offset text line 0
  let length := (Edit.lineAt (splitNewlines text) line).length
  if width < length then ⟨start, start + width⟩
  else if line < (splitNewlines text).length then ⟨start, start + length + 1⟩
  else ⟨start - 1, start + length⟩

/-- A text without one of its stretches. -/
def without (text : List Char) (span : Span) : List Char :=
  text.take span.start ++ text.drop span.stop

theorem without_append (a b c : List Char) :
    without (a ++ (b ++ c)) ⟨a.length, a.length + b.length⟩ = a ++ c := by
  rw [without, List.take_left, List.drop_length_add_append, List.drop_left]

theorem joinNewlines_cons_eq_append (line : List Char) (back : List (List Char)) :
    joinNewlines (line :: back) = line ++ joinNewlines ([] :: back) := by
  have h := joinNewlines_append_cons [] line [] back
  rwa [List.append_nil, List.nil_append, List.nil_append, joinNewlines_singleton] at h

/-- The text before a line: the lines `front`, each with a line feed behind it. -/
def before (front : List (List Char)) : List Char := joinNewlines (front ++ [[]])

@[simp] theorem before_nil : before [] = [] := by
  rw [before, List.nil_append, joinNewlines_singleton]

theorem before_of_ne_nil {front : List (List Char)} (hfront : front ≠ []) :
    before front = joinNewlines front ++ ['\n'] := by
  obtain ⟨init, last, rfl⟩ := List.eq_nil_or_concat front |>.resolve_left hfront
  have h := joinNewlines_append_cons init last [] [[]]
  rw [List.append_nil, joinNewlines_cons [] (List.cons_ne_nil _ _), joinNewlines_singleton] at h
  rw [before, List.concat_eq_append, List.append_assoc]
  exact h

theorem joinNewlines_append_eq (front : List (List Char)) (line : List Char)
    (back : List (List Char)) :
    joinNewlines (front ++ line :: back) = before front ++ (line ++ joinNewlines ([] :: back)) := by
  have h := joinNewlines_append_cons front [] line back
  rwa [List.nil_append, joinNewlines_cons_eq_append line] at h

section Pieces

variable {text line : List Char} {front back : List (List Char)}

/-- The text around the start of a line. -/
theorem eq_append_of_pieces (h : splitNewlines text = front ++ line :: back) :
    text = before front ++ (line ++ joinNewlines ([] :: back)) := by
  rw [← joinNewlines_append_eq, ← h, joinNewlines_splitNewlines]

theorem offset_of_pieces (h : splitNewlines text = front ++ line :: back) :
    offset text (front.length + 1) 0 = (before front).length :=
  offset_eq_of_cut (show splitNewlines text = front ++ ([] ++ line) :: back from h)

/-- The start of the line goes, the rest of it stays. -/
theorem without_start (h : splitNewlines text = front ++ line :: back) {width : Nat}
    (hwidth : width ≤ line.length) :
    without text ⟨(before front).length, (before front).length + width⟩
      = joinNewlines (front ++ line.drop width :: back) := by
  have hlength : (line.take width).length = width := List.length_take_of_le hwidth
  have htext : text
      = before front ++ (line.take width ++ (line.drop width ++ joinNewlines ([] :: back))) := by
    rw [← List.append_assoc (line.take width), List.take_append_drop]
    exact eq_append_of_pieces h
  have hwithout := without_append (before front) (line.take width)
    (line.drop width ++ joinNewlines ([] :: back))
  rw [hlength, ← htext] at hwithout
  rw [hwithout, joinNewlines_append_eq]

/-- The line goes, and the line feed behind it. -/
theorem without_inner {next : List Char} (h : splitNewlines text = front ++ line :: next :: back) :
    without text ⟨(before front).length, (before front).length + line.length + 1⟩
      = joinNewlines (front ++ next :: back) := by
  have hback : joinNewlines ([] :: next :: back) = '\n' :: joinNewlines (next :: back) :=
    joinNewlines_cons [] (List.cons_ne_nil _ _)
  have htext : text = before front ++ ((line ++ ['\n']) ++ joinNewlines (next :: back)) := by
    rw [List.append_assoc, List.singleton_append, ← hback]
    exact eq_append_of_pieces h
  have hwithout := without_append (before front) (line ++ ['\n']) (joinNewlines (next :: back))
  rw [List.length_append, List.length_singleton, ← Nat.add_assoc, ← htext] at hwithout
  rw [hwithout, joinNewlines_append_eq, ← joinNewlines_cons_eq_append]

/-- The last line goes, and the line feed before it, if there is one. -/
theorem without_last (h : splitNewlines text = front ++ [line]) :
    without text ⟨(before front).length - 1, (before front).length + line.length⟩
      = joinNewlines front := by
  have htext := eq_append_of_pieces h
  rw [joinNewlines_singleton, List.append_nil] at htext
  by_cases hfront : front = []
  · -- it is the only line
    rw [hfront, before_nil, List.nil_append] at htext
    rw [htext, hfront, before_nil, List.length_nil, Nat.zero_add, without, List.drop_length]
    rfl
  · have htext' : text = joinNewlines front ++ (('\n' :: line) ++ []) := by
      rw [htext, before_of_ne_nil hfront, List.append_nil, List.append_assoc]
      rfl
    have hwithout := without_append (joinNewlines front) ('\n' :: line) []
    have hstop : (joinNewlines front ++ ['\n']).length + line.length
        = (joinNewlines front).length + ('\n' :: line).length := by
      rw [List.length_append, List.length_singleton, List.length_cons]
      omega
    rw [← htext', List.append_nil] at hwithout
    rw [before_of_ne_nil hfront, hstop, List.length_append, List.length_singleton,
      Nat.add_sub_cancel]
    exact hwithout

/-- A line of a text, and the lines around it. -/
theorem HoldsPlace.exists_pieces {number : Int} (h : HoldsPlace text number 0) :
    ∃ front line back, splitNewlines text = front ++ line :: back ∧ number = front.length + 1 := by
  obtain ⟨front, a, line, back, hcut, hnumber, hcolumn⟩ := h.exists_cut
  obtain rfl : a = [] := List.eq_nil_of_length_eq_zero (by omega)
  exact ⟨front, line, back, hcut, hnumber⟩

/-- The stretch that is gone, by the pieces around the line. -/
theorem removedSpan_of_pieces (h : splitNewlines text = front ++ line :: back) (width : Nat) :
    removedSpan text (front.length + 1) width
      = if width < line.length then ⟨(before front).length, (before front).length + width⟩
        else if back ≠ [] then
          ⟨(before front).length, (before front).length + line.length + 1⟩
        else ⟨(before front).length - 1, (before front).length + line.length⟩ := by
  have hlast : (front.length : Int) + 1 < (front ++ line :: back).length ↔ back ≠ [] := by
    rw [← List.length_pos_iff, List.length_append, List.length_cons]
    omega
  rw [removedSpan, offset_of_pieces h, h, Edit.lineAt_append_cons]
  simp only [hlast]

/-- What the text becomes when a line loses its first `width` characters, and goes when it has no
others. -/
theorem without_removedSpan (h : splitNewlines text = front ++ line :: back) (width : Nat) :
    without text (removedSpan text (front.length + 1) width)
      = joinNewlines
          (front ++ (if line.drop width = [] then [] else [line.drop width]) ++ back) := by
  rw [removedSpan_of_pieces h]
  by_cases hwidth : width < line.length
  · have hleft : line.drop width ≠ [] := by
      rw [Ne, List.drop_eq_nil_iff]
      omega
    rw [if_pos hwidth, if_neg hleft, List.append_assoc, List.singleton_append]
    exact without_start h hwidth.le
  · have hgone : line.drop width = [] := by
      rw [List.drop_eq_nil_iff]
      omega
    rw [if_neg hwidth, if_pos hgone, List.append_nil]
    cases back with
    | cons next back =>
        rw [if_pos (List.cons_ne_nil next back)]
        exact without_inner h
    | nil =>
        rw [if_neg (fun h => h rfl), List.append_nil]
        exact without_last h

end Pieces

/-! ## The places that are deleted -/

/-- A stretch covers a place. -/
def Span.Covers (span : Span) (place : Nat) : Prop := span.start ≤ place ∧ place < span.stop

/-- Two stretches cover no place in common. -/
def Span.Apart (span other : Span) : Prop := ∀ place, span.Covers place → ¬other.Covers place

theorem offset_natCast (text : List Char) (number : Int) (column : Nat) :
    offset text number column = offset text number 0 + column := by
  rw [offset, offset, Int.toNat_natCast, Int.toNat_zero, Nat.add_zero]

/-- The columns that are deleted. -/
theorem covers_removedSpan {text : List Char} {number : Int} {width column : Nat}
    (hwidth : column < width)
    (hcolumn : column < (Edit.lineAt (splitNewlines text) number).length) :
    (removedSpan text number width).Covers (offset text number column) := by
  rw [offset_natCast, removedSpan]
  split
  · exact ⟨Nat.le_add_right _ _, Nat.add_lt_add_left hwidth _⟩
  · split
    · constructor
      · exact Nat.le_add_right _ _
      · simp only
        omega
    · constructor
      · simp only
        omega
      · simp only
        omega

/-- The line feed behind a line. -/
theorem getElem?_behind {text line next : List Char} {front back : List (List Char)}
    (h : splitNewlines text = front ++ line :: next :: back) :
    text[(before front).length + line.length]? = some '\n' := by
  rw [eq_append_of_pieces h, ← List.append_assoc, ← List.length_append,
    List.getElem?_append_right le_rfl, Nat.sub_self, joinNewlines_cons [] (List.cons_ne_nil _ _)]
  rfl

/-- The line feed before a line. -/
theorem getElem?_before {text line : List Char} {front back : List (List Char)}
    (h : splitNewlines text = front ++ line :: back) (hfront : front ≠ []) :
    text[(joinNewlines front).length]? = some '\n' := by
  rw [eq_append_of_pieces h, before_of_ne_nil hfront, List.append_assoc,
    List.getElem?_append_right le_rfl, Nat.sub_self]
  rfl

/-- Besides columns only a line feed is deleted. It stands next to the line, all columns of which
are deleted then. -/
theorem eq_offset_of_covers_removedSpan {text : List Char} {number : Int}
    (hline : HoldsPlace text number 0) {width place : Nat}
    (h : (removedSpan text number width).Covers place) :
    (∃ column : Nat, column < width ∧ column < (Edit.lineAt (splitNewlines text) number).length
        ∧ place = offset text number column)
      ∨ text[place]? = some '\n' ∧ (Edit.lineAt (splitNewlines text) number).length ≤ width
        ∧ (place = offset text number 0 + (Edit.lineAt (splitNewlines text) number).length
          ∨ place + 1 = offset text number 0) := by
  obtain ⟨front, line, back, hcut, rfl⟩ := hline.exists_pieces
  have hoffset := offset_of_pieces hcut
  have hcolumn : ∀ column : Nat, offset text (front.length + 1) column
      = (before front).length + column := by
    intro column
    rw [offset_natCast, hoffset]
  simp only [hcolumn, hoffset, hcut, Edit.lineAt_append_cons]
  set start := (before front).length with hstart
  -- a place between the ends of the line is a column
  have hinside : start ≤ place → place < start + line.length → place < start + width →
      ∃ column : Nat, column < width ∧ column < line.length ∧ place = start + column := by
    intro hfirst hlast hwidth
    exact ⟨place - start, by omega, by omega, by omega⟩
  rw [removedSpan_of_pieces hcut] at h
  split at h
  · obtain ⟨hfirst, hlast⟩ := h
    simp only at hfirst hlast
    exact .inl (hinside hfirst (by omega) hlast)
  · split at h
    · obtain ⟨hfirst, hlast⟩ := h
      simp only at hfirst hlast
      rcases Nat.lt_or_eq_of_le (show place ≤ start + line.length by omega) with hlt | rfl
      · exact .inl (hinside hfirst hlt (by omega))
      · obtain ⟨next, back, rfl⟩ := List.exists_cons_of_ne_nil ‹back ≠ []›
        exact .inr ⟨getElem?_behind hcut, by omega, .inl rfl⟩
    · obtain ⟨hfirst, hlast⟩ := h
      simp only at hfirst hlast
      by_cases hbefore : start ≤ place
      · exact .inl (hinside hbefore hlast (by omega))
      · have hfront : front ≠ [] := by
          rintro rfl
          exact hbefore (Nat.zero_le _)
        rw [before_of_ne_nil hfront, List.length_append, List.length_singleton] at hstart
        have hplace : place = (joinNewlines front).length := by omega
        rw [hplace]
        exact .inr ⟨getElem?_before hcut hfront, by omega, .inr hstart.symm⟩

end Text

/-- Deleting the first `width` characters of a line takes a stretch out of the source. -/
theorem applyEdits_delete {source : String} {edit : Edit} {line : Int} {width : Nat}
    (hkind : edit.kind = .delete) (hnewText : edit.newText = "")
    (hstart : edit.startLine = line) (hstartColumn : edit.startColumn = 0)
    (hend : edit.endLine = line) (hendColumn : edit.endColumn = width)
    (hline : HoldsPlace source.toList line 0) :
    applyEdits source [edit]
      = .ok (String.ofList (without source.toList (removedSpan source.toList line width))) := by
  obtain ⟨front, piece, back, hcut, hnumber⟩ := hline.exists_pieces
  set lines := splitNewlines source.toList with hlines
  have hpiece : '\n' ∉ piece.drop width := by
    have hmem : piece ∈ splitNewlines source.toList := by simp [← hlines, hcut]
    exact fun h => newline_notMem_of_mem_splitNewlines hmem (List.mem_of_mem_drop h)
  have hinside : edit.isInside lines.length = true := by
    rw [Edit.isInside, hstart, hend, hnumber, hcut, List.length_append, List.length_cons]
    simp only [Bool.and_eq_true, decide_eq_true_eq]
    omega
  have hmerged : edit.merged lines = piece.drop width := by
    have hnone : Slice.upTo piece 0 = [] := Slice.upTo_natCast piece 0
    rw [Edit.merged, hstart, hend, hstartColumn, hendColumn, hnewText, hnumber, hcut,
      Edit.lineAt_append_cons, hnone, Slice.startingAt_natCast]
    rfl
  -- a deletion that takes the whole line leaves no empty one
  have hnew : edit.newLines lines
      = if piece.drop width = [] then [] else [piece.drop width] := by
    rw [Edit.newLines, hmerged, splitNewlines_eq_singleton hpiece]
    simp only [hkind, true_and]
  have htake : lines.take (edit.startLine - 1).toNat = front := by
    rw [hcut, hstart, hnumber, Edit.take_append_cons]
  have hdrop : lines.drop edit.endLine.toNat = back := by
    rw [hcut, hend, hnumber, Edit.drop_append_cons]
  rw [applyEdits_singleton, ← hlines, Edit.applyTo, if_pos hinside, htake, hdrop, hnew, hnumber,
    without_removedSpan hcut]
  rfl

end ScriptAdvisor
