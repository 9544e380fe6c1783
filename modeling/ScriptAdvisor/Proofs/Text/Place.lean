import Mathlib.Algebra.GroupWithZero.Nat
import Mathlib.Data.Prod.Lex
import Mathlib.Tactic.Conv
import Mathlib.Tactic.Set
import ScriptAdvisor.Suggestion.Apply

/-! # Places in a text

A place in a text is named in two ways: by a line and a column, or by the number of characters
before it. The two are tied together by the pieces between the line feeds.

* `splitNewlines_append_left` and `splitNewlines_append_right` say how the pieces of a text change
  when text is added behind or in front.
* `EndsAt` says that a text ends at a line and a column, which is to say that this place follows it
  wherever it is the start of a longer text.
* `offset` counts the characters before a place. `endsAt_take_offset` says that cutting there leaves
  a text that ends at the place, and `offset_lt_offset` that it respects the order of places. -/

namespace ScriptAdvisor.Text

/-! ## Lists cut at an item -/

section

variable {α : Type _} {items : List α} {count : Nat} {item : α}

theorem eq_take_append_cons_drop (h : items[count]? = some item) :
    items = items.take count ++ item :: items.drop (count + 1) := by
  obtain ⟨hcount, rfl⟩ := List.getElem?_eq_some_iff.mp h
  rw [List.getElem_cons_drop, List.take_append_drop]

theorem length_take_of_getElem? (h : items[count]? = some item) :
    (items.take count).length = count :=
  List.length_take_of_le (List.getElem?_eq_some_iff.mp h).1.le

end

/-! ## The pieces of a longer text -/

@[simp] theorem splitNewlines_newline (text : List Char) :
    splitNewlines ('\n' :: text) = [] :: splitNewlines text := by
  rw [splitNewlines, if_pos rfl]

theorem splitNewlines_cons {c : Char} (hc : c ≠ '\n') (text : List Char) :
    splitNewlines (c :: text) = consFirst c (splitNewlines text) := by
  rw [splitNewlines, if_neg hc]

/-- No piece holds a line feed. -/
theorem newline_notMem_of_mem_splitNewlines {text piece : List Char}
    (h : piece ∈ splitNewlines text) : '\n' ∉ piece := by
  induction text generalizing piece with
  | nil =>
      obtain rfl : piece = [] := by simpa [splitNewlines] using h
      exact List.not_mem_nil
  | cons c text ih =>
      by_cases hc : c = '\n'
      · rw [hc, splitNewlines_newline, List.mem_cons] at h
        rcases h with rfl | h
        · exact List.not_mem_nil
        · exact ih h
      · obtain ⟨first, rest, htext⟩ := List.exists_cons_of_ne_nil (splitNewlines_ne_nil text)
        rw [splitNewlines_cons hc, htext, consFirst, List.mem_cons] at h
        rcases h with rfl | h
        · have hfirst : '\n' ∉ first := ih (by rw [htext]; exact List.mem_cons_self)
          exact List.not_mem_cons_of_ne_of_not_mem (Ne.symm hc) hfirst
        · exact ih (by rw [htext]; exact List.mem_cons_of_mem _ h)

/-- A text without line feeds is its only piece. -/
theorem splitNewlines_eq_singleton {text : List Char} (h : '\n' ∉ text) :
    splitNewlines text = [text] := by
  induction text with
  | nil => rfl
  | cons c text ih =>
      rw [List.mem_cons, not_or] at h
      rw [splitNewlines_cons (Ne.symm h.1), ih h.2, consFirst]

/-- Text in front of a text only changes its first piece. -/
theorem splitNewlines_append_right {b first : List Char} {back : List (List Char)}
    (h : splitNewlines b = first :: back) (a : List Char) :
    splitNewlines (a ++ b) = splitNewlines (a ++ first) ++ back := by
  induction a with
  | nil =>
      have hfirst : '\n' ∉ first :=
        newline_notMem_of_mem_splitNewlines (by rw [h]; exact List.mem_cons_self)
      rw [List.nil_append, List.nil_append, splitNewlines_eq_singleton hfirst, h]
      rfl
  | cons c a ih =>
      by_cases hc : c = '\n'
      · rw [hc, List.cons_append, List.cons_append, splitNewlines_newline, splitNewlines_newline,
          ih, List.cons_append]
      · rw [List.cons_append, List.cons_append, splitNewlines_cons hc, splitNewlines_cons hc, ih]
        obtain ⟨piece, rest, ha⟩ := List.exists_cons_of_ne_nil (splitNewlines_ne_nil (a ++ first))
        rw [ha]
        rfl

/-- Text behind a text only changes its last piece. -/
theorem splitNewlines_append_left {a last : List Char} {front : List (List Char)}
    (h : splitNewlines a = front ++ [last]) (b : List Char) :
    splitNewlines (a ++ b) = front ++ splitNewlines (last ++ b) := by
  induction a generalizing front last with
  | nil =>
      -- the one piece of the empty text is `last`
      obtain ⟨rfl, hlast⟩ := List.append_eq_singleton_iff.mp (Eq.symm h) |>.resolve_right (by simp)
      obtain rfl : last = [] := by simpa using hlast
      rfl
  | cons c a ih =>
      by_cases hc : c = '\n'
      · rw [hc, splitNewlines_newline] at h
        cases front with
        | nil => exact absurd (List.cons.inj h).2 (splitNewlines_ne_nil a)
        | cons piece front =>
            obtain ⟨rfl, ha⟩ := List.cons.inj h
            rw [hc, List.cons_append, splitNewlines_newline, ih ha, List.cons_append]
      · obtain ⟨piece, rest, ha⟩ := List.exists_cons_of_ne_nil (splitNewlines_ne_nil a)
        rw [splitNewlines_cons hc, ha, consFirst] at h
        cases front with
        | nil =>
            obtain ⟨rfl, rfl⟩ := List.cons.inj h
            have hb : splitNewlines (a ++ b) = [] ++ splitNewlines (piece ++ b) := ih ha
            rw [List.cons_append, splitNewlines_cons hc, hb, List.nil_append, List.nil_append,
              List.cons_append, splitNewlines_cons hc]
        | cons piece' front =>
            obtain ⟨rfl, rfl⟩ := List.cons.inj h
            have hb : splitNewlines (a ++ b) = piece :: front ++ splitNewlines (last ++ b) := ih ha
            rw [List.cons_append, splitNewlines_cons hc, hb]
            rfl

/-- Where two texts meet, the last piece of the one and the first of the other become one. -/
theorem splitNewlines_append {a b last first : List Char} {front back : List (List Char)}
    (ha : splitNewlines a = front ++ [last]) (hb : splitNewlines b = first :: back) :
    splitNewlines (a ++ b) = front ++ (last ++ first) :: back := by
  have hlast : '\n' ∉ last :=
    newline_notMem_of_mem_splitNewlines (show last ∈ splitNewlines a by simp [ha])
  have hfirst : '\n' ∉ first :=
    newline_notMem_of_mem_splitNewlines (show first ∈ splitNewlines b by simp [hb])
  have hmeet : '\n' ∉ last ++ first := by
    rw [List.mem_append]
    exact not_or.mpr ⟨hlast, hfirst⟩
  rw [splitNewlines_append_left ha, splitNewlines_append_right hb, splitNewlines_eq_singleton hmeet]
  rfl

/-! ## Lines joined again -/

/-- Lines joined behind a cut inside one of them. -/
theorem joinNewlines_append_cons (front : List (List Char)) (a b : List Char)
    (back : List (List Char)) :
    joinNewlines (front ++ (a ++ b) :: back)
      = joinNewlines (front ++ [a]) ++ joinNewlines (b :: back) := by
  induction front with
  | nil =>
      cases back with
      | nil => rw [List.nil_append, List.nil_append, joinNewlines_singleton, joinNewlines_singleton,
          joinNewlines_singleton]
      | cons line back =>
          rw [List.nil_append, List.nil_append, joinNewlines_cons _ (List.cons_ne_nil line back),
            joinNewlines_cons _ (List.cons_ne_nil line back), joinNewlines_singleton,
            List.append_assoc]
  | cons line front ih =>
      rw [List.cons_append, List.cons_append, joinNewlines_cons _ (by simp),
        joinNewlines_cons _ (by simp), ih, List.append_assoc, List.cons_append]

/-- Every line but the last takes one character more than it has. -/
theorem length_joinNewlines_append (front : List (List Char)) (last : List Char) :
    (joinNewlines (front ++ [last])).length
      = (front.map fun line => line.length + 1).sum + last.length := by
  induction front with
  | nil => rw [List.nil_append, joinNewlines_singleton, List.map_nil, List.sum_nil, Nat.zero_add]
  | cons line front ih =>
      rw [List.cons_append, joinNewlines_cons _ (by simp), List.length_append, List.length_cons, ih,
        List.map_cons, List.sum_cons]
      omega

/-- Lines without line feeds are the pieces of the text that joins them. -/
theorem splitNewlines_joinNewlines_append {front : List (List Char)} {last : List Char}
    (hfront : ∀ line ∈ front, '\n' ∉ line) (hlast : '\n' ∉ last) :
    splitNewlines (joinNewlines (front ++ [last])) = front ++ [last] := by
  induction front with
  | nil => rw [List.nil_append, joinNewlines_singleton, splitNewlines_eq_singleton hlast]
  | cons line front ih =>
      have hline : '\n' ∉ line := hfront line List.mem_cons_self
      have hrest := ih fun other hother => hfront other (List.mem_cons_of_mem _ hother)
      rw [List.cons_append, joinNewlines_cons _ (by simp),
        splitNewlines_append_right (splitNewlines_newline _), List.append_nil,
        splitNewlines_eq_singleton hline, hrest]
      rfl

/-! ## Places by line and column -/

/-- A text holds the place at a line and a column: the line is there, and the column is not behind
its end. -/
structure HoldsPlace (text : List Char) (line column : Int) : Prop where
  /-- Lines are counted from one. -/
  one_le : 1 ≤ line
  /-- The line is one of the lines of the text. -/
  line_le : line ≤ (splitNewlines text).length
  /-- Columns are counted from zero. -/
  zero_le : 0 ≤ column
  /-- The column is one of the line, or that behind its last character. -/
  column_le : column ≤ (Edit.lineAt (splitNewlines text) line).length

/-- The number of characters before the place at a line and a column: those of the lines before, the
line feeds behind them, and the column. -/
def offset (text : List Char) (line column : Int) : Nat :=
  (((splitNewlines text).take (line - 1).toNat).map fun piece => piece.length + 1).sum
    + column.toNat

/-- A text ends at a line and a column: this is the place behind its last character. -/
def EndsAt (text : List Char) (line column : Int) : Prop :=
  ∃ front last, splitNewlines text = front ++ [last] ∧ line = front.length + 1
    ∧ column = last.length

/-- A place that a text holds cuts one of its pieces in two. -/
theorem HoldsPlace.exists_cut {text : List Char} {line column : Int}
    (h : HoldsPlace text line column) :
    ∃ front a b back, splitNewlines text = front ++ (a ++ b) :: back ∧ line = front.length + 1
      ∧ column = a.length := by
  have hindex : (line - 1).toNat < (splitNewlines text).length := by
    have h1 := h.one_le
    have h2 := h.line_le
    omega
  set piece := (splitNewlines text)[(line - 1).toNat] with hpiece
  have hget : (splitNewlines text)[(line - 1).toNat]? = some piece :=
    List.getElem?_eq_getElem hindex
  have hcolumn : column.toNat ≤ piece.length := by
    have h1 := h.column_le
    rw [Edit.lineAt, hget, Option.getD_some] at h1
    omega
  refine ⟨(splitNewlines text).take (line - 1).toNat, piece.take column.toNat,
    piece.drop column.toNat, (splitNewlines text).drop ((line - 1).toNat + 1), ?_, ?_, ?_⟩
  · rw [List.take_append_drop]
    exact eq_take_append_cons_drop hget
  · have h1 := h.one_le
    rw [length_take_of_getElem? hget]
    omega
  · have h1 := h.zero_le
    rw [List.length_take, Nat.min_eq_left hcolumn]
    omega

/-- The characters before a place, read off the cut. -/
theorem offset_eq_of_cut {text : List Char} {front : List (List Char)} {a b : List Char}
    {back : List (List Char)} (h : splitNewlines text = front ++ (a ++ b) :: back) :
    offset text (front.length + 1) a.length = (joinNewlines (front ++ [a])).length := by
  have hline : ((front.length : Int) + 1 - 1).toNat = front.length := by omega
  rw [offset, h, hline, List.take_left, Int.toNat_natCast, length_joinNewlines_append]

/-- A text with a cut inside one of its pieces. -/
theorem eq_append_of_cut {text : List Char} {front : List (List Char)} {a b : List Char}
    {back : List (List Char)} (h : splitNewlines text = front ++ (a ++ b) :: back) :
    text = joinNewlines (front ++ [a]) ++ joinNewlines (b :: back) := by
  rw [← joinNewlines_append_cons, ← h, joinNewlines_splitNewlines]

/-- What stands before a cut ends there. -/
theorem endsAt_of_cut {text : List Char} {front : List (List Char)} {a b : List Char}
    {back : List (List Char)} (h : splitNewlines text = front ++ (a ++ b) :: back) :
    EndsAt (joinNewlines (front ++ [a])) (front.length + 1) a.length := by
  have hpieces : ∀ piece ∈ front ++ (a ++ b) :: back, '\n' ∉ piece := fun piece hpiece =>
    newline_notMem_of_mem_splitNewlines (by rw [h]; exact hpiece)
  refine ⟨front, a, ?_, rfl, rfl⟩
  refine splitNewlines_joinNewlines_append (fun piece hpiece => hpieces piece (by simp [hpiece])) ?_
  intro ha
  exact hpieces (a ++ b) (by simp) (List.mem_append_left b ha)

/-- What stands before a place that a text holds ends at that place. -/
theorem HoldsPlace.endsAt_take {text : List Char} {line column : Int}
    (h : HoldsPlace text line column) :
    EndsAt (text.take (offset text line column)) line column := by
  obtain ⟨front, a, b, back, hcut, rfl, rfl⟩ := h.exists_cut
  have hbefore : text.take (offset text (front.length + 1) a.length)
      = joinNewlines (front ++ [a]) := by
    rw [offset_eq_of_cut hcut]
    conv_lhs => rw [eq_append_of_cut hcut, List.take_left]
  rw [hbefore]
  exact endsAt_of_cut hcut

/-- A place that a text holds is not behind its end. -/
theorem HoldsPlace.offset_le_length {text : List Char} {line column : Int}
    (h : HoldsPlace text line column) : offset text line column ≤ text.length := by
  obtain ⟨front, a, b, back, hcut, rfl, rfl⟩ := h.exists_cut
  rw [offset_eq_of_cut hcut]
  conv_rhs => rw [eq_append_of_cut hcut, List.length_append]
  exact Nat.le_add_right _ _

/-! ## The order of places -/

/-- The place at a line and a column, as an element of the order in which places stand. -/
abbrev place (line column : Int) : Int ×ₗ Int := toLex (line, column)

/-- The characters before a line are at least those before any place on an earlier line. -/
theorem HoldsPlace.offset_lt_sum {text : List Char} {line column : Int}
    (h : HoldsPlace text line column) {count : Nat} (hcount : line ≤ count) :
    offset text line column
      < (((splitNewlines text).take count).map fun piece => piece.length + 1).sum := by
  obtain ⟨front, a, b, back, hcut, rfl, rfl⟩ := h.exists_cut
  obtain ⟨extra, rfl⟩ : ∃ extra, count = front.length + (extra + 1) :=
    ⟨count - (front.length + 1), by omega⟩
  rw [offset_eq_of_cut hcut, length_joinNewlines_append, hcut, List.take_length_add_append,
    List.take_succ_cons, List.map_append, List.sum_append, List.map_cons, List.sum_cons,
    List.length_append]
  omega

/-- A place that a text holds has fewer characters before it than a place behind it. -/
theorem HoldsPlace.offset_lt_offset {text : List Char} {line column line' column' : Int}
    (h : HoldsPlace text line column) (hlt : place line column < place line' column') :
    offset text line column < offset text line' column' := by
  rw [Prod.Lex.toLex_lt_toLex] at hlt
  rcases hlt with hline | ⟨hline, hcolumn⟩
  · have hcount : line ≤ ((line' - 1).toNat : Int) := by
      have := h.one_le
      simp only at hline
      omega
    exact Nat.lt_of_lt_of_le (h.offset_lt_sum hcount) (Nat.le_add_right _ _)
  · have hzero := h.zero_le
    simp only at hline hcolumn
    rw [offset, offset, hline]
    omega

theorem HoldsPlace.offset_le_offset {text : List Char} {line column line' column' : Int}
    (h : HoldsPlace text line column) (hle : place line column ≤ place line' column') :
    offset text line column ≤ offset text line' column' := by
  rcases hle.lt_or_eq with hlt | heq
  · exact (h.offset_lt_offset hlt).le
  · obtain ⟨rfl, rfl⟩ := Prod.mk.inj (toLex_inj.mp heq)
    exact le_rfl

end ScriptAdvisor.Text
