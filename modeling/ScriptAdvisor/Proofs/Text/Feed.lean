import Mathlib.Tactic.ByContra
import ScriptAdvisor.Proofs.Text.Place

/-! # Texts whose lines end in line feeds

Where line feeds are the only line breaks of a text, its two ways of counting lines differ only
behind the last line feed: the empty piece there is no line.

* `Text.BreaksByFeeds` says that a text has no other line breaks, which is to say that none of its
  pieces has a line break (`Text.breaksByFeeds_iff`).
* `Text.lines_eq_dropEmptyLast` compares the two ways of counting.
* `Text.flatMap_lines`: what is collected line by line can be collected piece by piece.
* `Text.exists_pieces_of_mem_lines`: the number of a line is that of its piece. -/

namespace ScriptAdvisor.Text

/-- The line feed is the only line break in a text. -/
def BreaksByFeeds (text : List Char) : Prop := ∀ c ∈ text, isLineBreak c = true → c = '\n'

instance (text : List Char) : Decidable (BreaksByFeeds text) :=
  decidable_of_iff (text.all fun c => !isLineBreak c || c == '\n') (by
    simp [BreaksByFeeds, imp_iff_not_or])

/-- A text without line breaks. -/
def IsUnbroken (text : List Char) : Prop := ∀ c ∈ text, isLineBreak c = false

instance (text : List Char) : Decidable (IsUnbroken text) :=
  decidable_of_iff (text.any isLineBreak = false) (by simp [IsUnbroken])

theorem isUnbroken_append {text more : List Char} :
    IsUnbroken (text ++ more) ↔ IsUnbroken text ∧ IsUnbroken more := List.forall_mem_append

theorem IsUnbroken.newline_notMem {text : List Char} (h : IsUnbroken text) : '\n' ∉ text :=
  fun hmem => absurd (h '\n' hmem) (by decide)

/-! ## Pieces joined -/

theorem mem_joinNewlines {pieces : List (List Char)} {c : Char} (h : c ∈ joinNewlines pieces) :
    c = '\n' ∨ ∃ piece ∈ pieces, c ∈ piece := by
  induction pieces with
  | nil => exact absurd h List.not_mem_nil
  | cons piece pieces ih =>
      by_cases hnil : pieces = []
      · rw [hnil, joinNewlines_singleton] at h
        exact .inr ⟨piece, List.mem_cons_self, h⟩
      · rw [joinNewlines_cons piece hnil, List.mem_append, List.mem_cons] at h
        rcases h with hpiece | rfl | hrest
        · exact .inr ⟨piece, List.mem_cons_self, hpiece⟩
        · exact .inl rfl
        · refine (ih hrest).imp_right ?_
          rintro ⟨other, hother, hc⟩
          exact ⟨other, List.mem_cons_of_mem _ hother, hc⟩

theorem mem_joinNewlines_of_mem {pieces : List (List Char)} {piece : List Char}
    (hpiece : piece ∈ pieces) {c : Char} (hc : c ∈ piece) : c ∈ joinNewlines pieces := by
  obtain ⟨front, back, rfl⟩ := List.append_of_mem hpiece
  have hcut := joinNewlines_append_cons front [] piece back
  rw [List.nil_append] at hcut
  rw [hcut]
  refine List.mem_append_right _ ?_
  cases back with
  | nil => rwa [joinNewlines_singleton]
  | cons next back =>
      rw [joinNewlines_cons _ (List.cons_ne_nil _ _)]
      exact List.mem_append_left _ hc

/-- Pieces without line feeds are the pieces of the text that joins them. -/
theorem splitNewlines_joinNewlines {pieces : List (List Char)} (hne : pieces ≠ [])
    (h : ∀ piece ∈ pieces, '\n' ∉ piece) : splitNewlines (joinNewlines pieces) = pieces := by
  obtain ⟨front, last, rfl⟩ := List.eq_nil_or_concat pieces |>.resolve_left hne
  rw [List.concat_eq_append] at h ⊢
  rw [List.forall_mem_append, List.forall_mem_singleton] at h
  exact splitNewlines_joinNewlines_append h.1 h.2

/-- Line feeds are the only line breaks of a text exactly if no piece between them has one. -/
theorem breaksByFeeds_iff {text : List Char} :
    BreaksByFeeds text ↔ ∀ piece ∈ splitNewlines text, IsUnbroken piece := by
  constructor
  · intro h piece hpiece c hc
    by_contra hbreak
    have hmem : c ∈ text := by
      rw [← joinNewlines_splitNewlines text]
      exact mem_joinNewlines_of_mem hpiece hc
    have hfeed : c = '\n' := h c hmem (by simpa using hbreak)
    rw [hfeed] at hc
    exact newline_notMem_of_mem_splitNewlines hpiece hc
  · intro h c hc hbreak
    rw [← joinNewlines_splitNewlines text] at hc
    rcases mem_joinNewlines hc with hfeed | ⟨piece, hpiece, hmem⟩
    · exact hfeed
    · rw [h piece hpiece c hmem] at hbreak
      contradiction

/-- A text that has one piece changed has no other line breaks if the new piece has none. -/
theorem BreaksByFeeds.of_pieces {text after line changed : List Char}
    {front back : List (List Char)} (h : BreaksByFeeds text)
    (htext : splitNewlines text = front ++ line :: back)
    (hafter : splitNewlines after = front ++ changed :: back) (hchanged : IsUnbroken changed) :
    BreaksByFeeds after := by
  rw [breaksByFeeds_iff, htext, List.forall_mem_append, List.forall_mem_cons] at h
  rw [breaksByFeeds_iff, hafter, List.forall_mem_append, List.forall_mem_cons]
  exact ⟨h.1, hchanged, h.2.2⟩

/-! ## Lines and pieces -/

/-- Pieces without the last one, if that is empty. -/
def dropEmptyLast (pieces : List (List Char)) : List (List Char) :=
  if pieces.getLast? = some [] then pieces.dropLast else pieces

theorem dropEmptyLast_cons (piece : List Char) {pieces : List (List Char)} (h : pieces ≠ []) :
    dropEmptyLast (piece :: pieces) = piece :: dropEmptyLast pieces := by
  obtain ⟨next, pieces, rfl⟩ := List.exists_cons_of_ne_nil h
  rw [dropEmptyLast, dropEmptyLast, List.getLast?_cons_cons, List.dropLast_cons_cons]
  split
  · rfl
  · rfl

theorem dropEmptyLast_consFirst (c : Char) {pieces : List (List Char)} (h : pieces ≠ []) :
    dropEmptyLast (consFirst c pieces) = consFirst c (dropEmptyLast pieces) := by
  obtain ⟨first, back, rfl⟩ := List.exists_cons_of_ne_nil h
  by_cases hback : back = []
  · -- a single piece with one more character is not empty
    subst hback
    cases first with
    | nil => rfl
    | cons d first => rfl
  · rw [consFirst, dropEmptyLast_cons _ hback, dropEmptyLast_cons _ hback, consFirst]

/-- Where line feeds are the only breaks, the lines are the pieces between them but for an empty
last one. -/
theorem lines_eq_dropEmptyLast {text : List Char} (h : BreaksByFeeds text) :
    lines text = dropEmptyLast (splitNewlines text) := by
  fun_induction lines text with
  | case1 => rfl
  | case2 rest =>
      have hreturn : '\r' = '\n' := h '\r' List.mem_cons_self (by decide)
      exact absurd hreturn (by decide)
  | case3 c rest _ hbreak ih =>
      obtain rfl : c = '\n' := h c List.mem_cons_self hbreak
      rw [splitNewlines_newline, dropEmptyLast_cons _ (splitNewlines_ne_nil rest),
        ih fun d hd => h d (List.mem_cons_of_mem _ hd)]
  | case4 c rest _ hbreak ih =>
      have hc : c ≠ '\n' := by
        rintro rfl
        exact hbreak (by decide)
      rw [splitNewlines_cons hc, dropEmptyLast_consFirst _ (splitNewlines_ne_nil rest),
        ih fun d hd => h d (List.mem_cons_of_mem _ hd)]

/-- Where line feeds are the only breaks, every line is the piece with its number. -/
theorem lines_isPrefix {text : List Char} (h : BreaksByFeeds text) :
    lines text <+: splitNewlines text := by
  rw [lines_eq_dropEmptyLast h, dropEmptyLast]
  split
  · exact List.dropLast_prefix _
  · exact List.prefix_rfl

/-- Pieces that are changed one by one, none of them from empty to not empty or back. -/
theorem dropEmptyLast_map {change : List Char → List Char}
    (h : ∀ piece, change piece = [] ↔ piece = []) (pieces : List (List Char)) :
    dropEmptyLast (pieces.map change) = (dropEmptyLast pieces).map change := by
  have hlast : (pieces.map change).getLast? = some [] ↔ pieces.getLast? = some [] := by
    rw [List.getLast?_map, Option.map_eq_some_iff]
    simp only [h, exists_eq_right]
  rw [dropEmptyLast, dropEmptyLast]
  simp only [hlast]
  split
  · rw [List.map_dropLast]
  · rfl

/-- What is collected line by line and not from an empty one can be collected piece by piece. -/
theorem flatMap_lines {α : Type _} {text : List Char} (h : BreaksByFeeds text)
    {collect : List Char × Nat → List α} (hnone : ∀ number, collect ([], number) = []) :
    ((lines text).zipIdx 1).flatMap collect = ((splitNewlines text).zipIdx 1).flatMap collect := by
  rw [lines_eq_dropEmptyLast h, dropEmptyLast]
  split
  · rename_i hlast
    obtain ⟨front, hfront⟩ := List.getLast?_eq_some_iff.mp hlast
    rw [hfront, List.dropLast_concat, List.zipIdx_append, List.flatMap_append]
    simp [hnone]
  · rfl

/-- A piece that is not empty is the line with its number. -/
theorem getElem?_lines_of_pieces {text line : List Char} {front back : List (List Char)}
    (h : BreaksByFeeds text) (hpieces : splitNewlines text = front ++ line :: back)
    (hline : line ≠ []) : (lines text)[front.length]? = some line := by
  have hget : (front ++ line :: back)[front.length]? = some line := by simp
  rw [lines_eq_dropEmptyLast h, dropEmptyLast, hpieces]
  split
  · rename_i hlast
    -- the last piece is empty, so that it is not this one
    have hback : back ≠ [] := by
      rintro rfl
      simp [hline] at hlast
    rw [List.dropLast_append_of_ne_nil (List.cons_ne_nil _ _), List.dropLast_cons_of_ne_nil hback]
    simp
  · exact hget

/-- A numbered line is the piece with that number. -/
theorem exists_pieces_of_mem_lines {text line : List Char} {number : Nat} (h : BreaksByFeeds text)
    (hline : (line, number) ∈ (lines text).zipIdx 1) :
    ∃ front back, splitNewlines text = front ++ line :: back ∧ number = front.length + 1
      ∧ (lines text)[front.length]? = some line := by
  obtain ⟨hone, hget⟩ := List.mem_zipIdx_iff_le_and_getElem?_sub.mp hline
  obtain ⟨more, hmore⟩ := lines_isPrefix h
  have hpiece : (splitNewlines text)[number - 1]? = some line := by
    rw [← hmore, List.getElem?_append_left (List.getElem?_eq_some_iff.mp hget).1, hget]
  have hfront := length_take_of_getElem? hpiece
  refine ⟨(splitNewlines text).take (number - 1), (splitNewlines text).drop (number - 1 + 1),
    eq_take_append_cons_drop hpiece, ?_, ?_⟩
  · rw [hfront]
    exact (Nat.sub_add_cancel hone).symm
  · rwa [hfront]

end ScriptAdvisor.Text
