import ScriptAdvisor.Proofs.Edit.OneLine

/-! # What an edit quotes is what it replaces

A suggestion quotes the text that an edit replaces. The quotation is put together from the lines of
the source, and the edit is applied to its pieces between line feeds, of which there may be one
more. Where line feeds are the only line breaks both cut the source at the same two places, and
columns behind the end of a line mean its end to both.

* `Text.HoldsSpan` says which places can be asked for, and `Text.StandsBetween` which text stands
  between two places.
* `AdviceRequest.standsBetween_spanText`: the quotation stands between the places.
* `applyEdits_singleton_of_standsBetween`: an edit puts its new text there.
* `AdviceRequest.applyEdits_spanText` puts this together. -/

namespace ScriptAdvisor

open Text

/-! ## Columns behind the end of a line -/

namespace Slice

variable {α : Type _} (items : List α) (index : Int)

/-- The place that an index denotes denotes itself. -/
theorem upTo_position : upTo items (position items.length index) = upTo items index :=
  upTo_natCast items _

theorem startingAt_position :
    startingAt items (position items.length index) = startingAt items index :=
  startingAt_natCast items _

end Slice

namespace Edit

/-- The edit with the columns that its own columns denote on their lines. -/
def withinLines (edit : Edit) (lines : List (List Char)) : Edit :=
  { edit with
    startColumn := Slice.position (lineAt lines edit.startLine).length edit.startColumn
    endColumn := Slice.position (lineAt lines edit.endLine).length edit.endColumn }

theorem merged_withinLines (edit : Edit) (lines : List (List Char)) :
    (edit.withinLines lines).merged lines = edit.merged lines := by
  simp only [merged, withinLines, Slice.upTo_position, Slice.startingAt_position]

/-- An edit does the same with these columns. -/
theorem applyTo_withinLines (edit : Edit) (lines : List (List Char)) :
    (edit.withinLines lines).applyTo lines = edit.applyTo lines := by
  rw [applyTo, newLines, merged_withinLines]
  rfl

end Edit

/-! ## The text between two places -/

namespace Text

/-- The lines of a stretch are lines of a text, and its columns are not negative and, on a single
line, in order. They may lie behind the end of their line. -/
structure HoldsSpan (text : List Char) (startLine startColumn endLine endColumn : Int) : Prop where
  /-- Lines are counted from one. -/
  one_le : 1 ≤ startLine
  /-- It does not end on an earlier line. -/
  startLine_le : startLine ≤ endLine
  /-- It ends on a line of the text. -/
  endLine_le : endLine ≤ (lines text).length
  /-- Columns are counted from zero. -/
  startColumn_nonneg : 0 ≤ startColumn
  /-- So is the one it ends at. -/
  endColumn_nonneg : 0 ≤ endColumn
  /-- On a single line it does not end at an earlier column. -/
  startColumn_le : startLine = endLine → startColumn ≤ endColumn

/-- The column that a column denotes on a line of a text. -/
def columnOn (text : List Char) (line column : Int) : Int :=
  Slice.position (Edit.lineAt (splitNewlines text) line).length column

/-- A stretch stands in a text between two places, with `front` before it and `back` behind it. -/
structure StandsBetween (text front stretch back : List Char)
    (startLine startColumn endLine endColumn : Int) : Prop where
  /-- These three make up the text. -/
  text_eq : text = front ++ stretch ++ back
  /-- It starts at the one place. -/
  start : EndsAt front startLine (columnOn text startLine startColumn)
  /-- It ends at the other. -/
  stop : EndsAt (front ++ stretch) endLine (columnOn text endLine endColumn)

variable {text : List Char} {front inner back : List (List Char)}

/-- What stands before a column of a piece ends at the column which that denotes. -/
theorem endsAt_upTo {line : List Char} (h : splitNewlines text = front ++ line :: back)
    (column : Int) :
    EndsAt (joinNewlines (front ++ [Slice.upTo line column])) (front.length + 1)
      (columnOn text (front.length + 1) column) := by
  have hcut : splitNewlines text
      = front ++ (Slice.upTo line column ++ Slice.startingAt line column) :: back := by
    rw [Slice.upTo_append_startingAt, h]
  have hcolumn : columnOn text (front.length + 1) column = (Slice.upTo line column).length := by
    rw [columnOn, h, Edit.lineAt_append_cons, Slice.upTo,
      List.length_take_of_le (Slice.position_le _ _)]
  rw [hcolumn]
  exact endsAt_of_cut hcut

/-- A stretch of one piece. -/
theorem standsBetween_of_piece {line : List Char} (h : splitNewlines text = front ++ line :: back)
    {start stop : Nat} (hle : start ≤ stop) :
    StandsBetween text (joinNewlines (front ++ [line.take start])) (Slice.between line start stop)
      (joinNewlines (line.drop stop :: back)) (front.length + 1) start (front.length + 1) stop := by
  have hfront : joinNewlines (front ++ [line.take start]) ++ Slice.between line start stop
      = joinNewlines (front ++ [line.take stop]) := by
    rw [← Slice.take_append_between line hle, joinNewlines_append_cons, joinNewlines_singleton]
  refine ⟨?_, ?_, ?_⟩
  · rw [hfront, ← joinNewlines_append_cons, List.take_append_drop, ← h, joinNewlines_splitNewlines]
  · rw [← Slice.upTo_natCast]
    exact endsAt_upTo h start
  · rw [hfront, ← Slice.upTo_natCast]
    exact endsAt_upTo h stop

/-- A stretch from one piece to a later one. -/
theorem standsBetween_of_pieces {first last : List Char}
    (h : splitNewlines text = front ++ first :: (inner ++ last :: back))
    (startColumn endColumn : Int) :
    StandsBetween text (joinNewlines (front ++ [Slice.upTo first startColumn]))
      (joinNewlines (Slice.startingAt first startColumn :: inner
        ++ [Slice.upTo last endColumn]))
      (joinNewlines (Slice.startingAt last endColumn :: back)) (front.length + 1) startColumn
      ((front ++ first :: inner).length + 1) endColumn := by
  have hlast : splitNewlines text = (front ++ first :: inner) ++ last :: back := by
    rw [h, List.append_assoc, List.cons_append]
  have hfront : joinNewlines (front ++ [Slice.upTo first startColumn])
        ++ joinNewlines (Slice.startingAt first startColumn :: inner
          ++ [Slice.upTo last endColumn])
      = joinNewlines ((front ++ first :: inner) ++ [Slice.upTo last endColumn]) := by
    rw [List.cons_append, ← joinNewlines_append_cons, Slice.upTo_append_startingAt,
      List.append_assoc, List.cons_append]
  refine ⟨?_, endsAt_upTo h startColumn, ?_⟩
  · rw [hfront, ← joinNewlines_append_cons, Slice.upTo_append_startingAt, ← hlast,
      joinNewlines_splitNewlines]
  · rw [hfront]
    exact endsAt_upTo hlast endColumn

end Text

/-! ## Quotations -/

namespace AdviceRequest

variable {request : AdviceRequest}

/-- The quotation from one line to a later one. -/
theorem spanText_of_getElem?_of_lt {count last : Nat} (hlt : count < last)
    {line line' : List Char} (hline : request.lines[count]? = some line)
    (hline' : request.lines[last]? = some line') (startColumn endColumn : Int) :
    request.spanText (count + 1 : Nat) startColumn (last + 1 : Nat) endColumn
      = joinNewlines (Slice.startingAt line startColumn
          :: (request.lines.take last).drop (count + 1) ++ [Slice.upTo line' endColumn]) := by
  have hlast : last < request.lines.length := (List.getElem?_eq_some_iff.mp hline').1
  have hinside : (0 : Int) < (count + 1 : Nat) ∧ ((count + 1 : Nat) : Int) ≤ (last + 1 : Nat)
      ∧ ((last + 1 : Nat) : Int) ≤ request.lines.length := by omega
  have hne : ((count + 1 : Nat) : Int) ≠ (last + 1 : Nat) := by omega
  rw [spanText, if_pos hinside, if_neg hne, lineAt_of_getElem? hline, lineAt_of_getElem? hline',
    Int.toNat_natCast, Int.toNat_natCast, Nat.add_sub_cancel]

/-- A quotation is the text that stands between its two places. -/
theorem standsBetween_spanText (hfeeds : BreaksByFeeds request.source.toList)
    {startLine startColumn endLine endColumn : Int}
    (h : HoldsSpan request.source.toList startLine startColumn endLine endColumn) :
    ∃ front back, StandsBetween request.source.toList front
      (request.spanText startLine startColumn endLine endColumn) back
      startLine startColumn endLine endColumn := by
  have hone := h.one_le
  have hle := h.startLine_le
  have hlines : endLine ≤ request.lines.length := h.endLine_le
  obtain ⟨count, rfl⟩ : ∃ count : Nat, startLine = (count + 1 : Nat) :=
    ⟨(startLine - 1).toNat, by omega⟩
  obtain ⟨last, rfl⟩ : ∃ last : Nat, endLine = (last + 1 : Nat) :=
    ⟨(endLine - 1).toNat, by omega⟩
  have hlast : last < request.lines.length := by omega
  have hgetLast : request.lines[last]? = some request.lines[last] := List.getElem?_eq_getElem hlast
  -- the lines are the first pieces, and as many as are needed
  obtain ⟨more, hmore⟩ := lines_isPrefix hfeeds
  have hall : splitNewlines request.source.toList
      = request.lines.take last
        ++ request.lines[last] :: (request.lines.drop (last + 1) ++ more) := by
    rw [← hmore, ← List.cons_append, ← List.append_assoc, ← eq_take_append_cons_drop hgetLast]
    rfl
  have hnumber : ((request.lines.take last).length : Int) + 1 = (last + 1 : Nat) := by
    rw [List.length_take_of_le hlast.le, Nat.cast_succ]
  rcases Nat.lt_or_eq_of_le (show count ≤ last by omega) with hlt | rfl
  · -- the stretch starts on an earlier line
    have hgetCount : (request.lines.take last)[count]? = some request.lines[count] := by
      rw [List.getElem?_take_of_lt hlt, List.getElem?_eq_getElem]
    have hbefore := eq_take_append_cons_drop hgetCount
    rw [List.take_take, Nat.min_eq_left hlt.le] at hbefore
    have hpieces : splitNewlines request.source.toList
        = request.lines.take count ++ request.lines[count]
          :: ((request.lines.take last).drop (count + 1) ++ request.lines[last]
            :: (request.lines.drop (last + 1) ++ more)) := by
      rw [hall]
      conv_lhs => rw [hbefore, List.append_assoc, List.cons_append]
    have hstands := standsBetween_of_pieces hpieces startColumn endColumn
    rw [← hbefore, hnumber, List.length_take_of_le (hlt.trans hlast).le, ← Nat.cast_succ] at hstands
    rw [spanText_of_getElem?_of_lt hlt (List.getElem?_eq_getElem (hlt.trans hlast)) hgetLast]
    exact ⟨_, _, hstands⟩
  · -- it starts on the same line
    obtain ⟨start, hstart⟩ := Int.eq_ofNat_of_zero_le h.startColumn_nonneg
    obtain ⟨stop, hstop⟩ := Int.eq_ofNat_of_zero_le h.endColumn_nonneg
    have hcolumns : start ≤ stop := by
      have hcolumn := h.startColumn_le rfl
      omega
    have hstands := standsBetween_of_piece hall hcolumns
    rw [hnumber] at hstands
    rw [spanText_of_getElem? hgetLast, hstart, hstop]
    exact ⟨_, _, hstands⟩

end AdviceRequest

/-- An edit that is no deletion puts its new text in place of the stretch that stands between its
places, also where its columns lie behind the end of a line. -/
theorem applyEdits_singleton_of_standsBetween {source : String} {edit : Edit}
    (hkind : edit.kind ≠ .delete) {front stretch back : List Char}
    (h : StandsBetween source.toList front stretch back edit.startLine edit.startColumn edit.endLine
      edit.endColumn) :
    applyEdits source [edit] = .ok (String.ofList (front ++ edit.newText.toList ++ back)) := by
  have hsame : applyEdits source [edit.withinLines (splitNewlines source.toList)]
      = applyEdits source [edit] := by
    rw [applyEdits_singleton, applyEdits_singleton, Edit.applyTo_withinLines]
  have hwithin : (edit.withinLines (splitNewlines source.toList)).kind ≠ .delete := hkind
  rw [← hsame]
  exact applyEdits_singleton_of_endsAt hwithin h.text_eq h.start h.stop

/-- Where line feeds are the only line breaks, a quotation is cut from the source where an edit
between the same places, other than a deletion, puts its new text: what stands before and behind it
stays. This holds for all lines of the source and all columns in order, those behind the end of a
line included. So an edit that puts the quotation back leaves the source as it is. -/
theorem AdviceRequest.applyEdits_spanText (request : AdviceRequest)
    (hfeeds : BreaksByFeeds request.source.toList) (startLine startColumn endLine endColumn : Int)
    (hspan : HoldsSpan request.source.toList startLine startColumn endLine endColumn) :
    let quoted := request.spanText startLine startColumn endLine endColumn
    let edit := fun (kind : EditKind) (oldText newText description : String) =>
      Edit.mk kind startLine startColumn endLine endColumn oldText newText description
    ∃ front back, request.source.toList = front ++ quoted ++ back
      ∧ ∀ kind : EditKind, kind ≠ .delete → ∀ oldText description : String,
        (∀ newText, applyEdits request.source [edit kind oldText newText description]
            = .ok (String.ofList (front ++ newText.toList ++ back)))
          ∧ applyEdits request.source [edit kind oldText (String.ofList quoted) description]
            = .ok request.source := by
  intro quoted edit
  obtain ⟨front, back, hstands⟩ := standsBetween_spanText hfeeds hspan
  refine ⟨front, back, hstands.text_eq, fun kind hkind oldText description => ?_⟩
  have hnew : ∀ newText, applyEdits request.source [edit kind oldText newText description]
      = .ok (String.ofList (front ++ newText.toList ++ back)) :=
    fun newText => applyEdits_singleton_of_standsBetween hkind hstands
  refine ⟨hnew, ?_⟩
  rw [hnew, String.toList_ofList, ← hstands.text_eq, String.ofList_toList]

/-- A stretch from a column behind the end of the first line to one behind the end of the last one
of three lines, in a source that ends in a line feed. -/
theorem AdviceRequest.applyEdits_spanText_behind_ends :
    let request : AdviceRequest := ⟨default, "ab\n\ncd\n", "x.js"⟩
    BreaksByFeeds request.source.toList
      ∧ HoldsSpan request.source.toList 1 5 3 9
      ∧ request.spanText 1 5 3 9 = "\n\ncd".toList
      ∧ ∃ front back, request.source.toList = front ++ "\n\ncd".toList ++ back
        ∧ applyEdits request.source [⟨.replace, 1, 5, 3, 9, "", "-", ""⟩]
          = .ok (String.ofList (front ++ "-".toList ++ back))
        ∧ applyEdits request.source [⟨.replace, 1, 5, 3, 9, "", "\n\ncd", ""⟩]
          = .ok request.source := by
  intro request
  have hfeeds : BreaksByFeeds request.source.toList := by decide
  have hspan : HoldsSpan request.source.toList 1 5 3 9 :=
    ⟨by decide, by decide, by decide, by decide, by decide, by decide⟩
  have hquoted : request.spanText 1 5 3 9 = "\n\ncd".toList := by decide
  obtain ⟨front, back, htext, hedits⟩ := request.applyEdits_spanText hfeeds 1 5 3 9 hspan
  obtain ⟨hnew, hback⟩ := hedits .replace (by decide) "" ""
  rw [hquoted] at htext hback
  exact ⟨hfeeds, hspan, hquoted, front, back, htext, hnew "-", hback⟩

end ScriptAdvisor
