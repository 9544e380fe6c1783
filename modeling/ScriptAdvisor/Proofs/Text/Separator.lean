import Mathlib.Data.List.Basic
import ScriptAdvisor.Text.Lines
import ScriptAdvisor.Text.Search

/-! # Texts joined by a separator

A text that was put together from parts with a separator between neighbours is cut apart again at
the separators. That gives the parts back if the first character of the separator occurs in none of
them.

* `Text.pieces` cuts a text apart.
* `Text.pieces_intercalate` says that it undoes joining. -/

namespace ScriptAdvisor.Text

/-- The pieces of a text between the occurrences of a separator, from left to right. Occurrences
that overlap an earlier one do not count, and an empty separator does not occur. -/
def pieces (separator : List Char) : List Char → List (List Char)
  | [] => [[]]
  | c :: text =>
    match after? separator (c :: text) with
    | some rest =>
      if rest.length ≤ text.length then [] :: pieces separator rest
      else consFirst c (pieces separator text)
    | none => consFirst c (pieces separator text)
termination_by text => text.length
decreasing_by all_goals (simp only [List.length_cons]; omega)

variable {lead : Char} {more : List Char}

theorem pieces_append_separator (text : List Char) :
    pieces (lead :: more) (lead :: more ++ text) = [] :: pieces (lead :: more) text := by
  rw [List.cons_append, pieces, ← List.cons_append, after?_append]
  simp

theorem pieces_cons {c : Char} (hc : c ≠ lead) (text : List Char) :
    pieces (lead :: more) (c :: text) = consFirst c (pieces (lead :: more) text) := by
  rw [pieces, after?, if_neg (Ne.symm hc)]

/-- A part in front of a separator is the first piece. -/
theorem pieces_part_append {part : List Char} (hpart : lead ∉ part) (text : List Char) :
    pieces (lead :: more) (part ++ (lead :: more ++ text))
      = part :: pieces (lead :: more) text := by
  induction part with
  | nil => exact pieces_append_separator text
  | cons c part ih =>
      rw [List.mem_cons, not_or] at hpart
      rw [List.cons_append, pieces_cons (Ne.symm hpart.1), ih hpart.2, consFirst]

/-- A text without the separator is in one piece. -/
theorem pieces_part {part : List Char} (hpart : lead ∉ part) :
    pieces (lead :: more) part = [part] := by
  induction part with
  | nil => rw [pieces]
  | cons c part ih =>
      rw [List.mem_cons, not_or] at hpart
      rw [pieces_cons (Ne.symm hpart.1), ih hpart.2, consFirst]

/-- Cutting apart undoes joining. -/
theorem pieces_intercalate {parts : List (List Char)} (hparts : parts ≠ [])
    (h : ∀ part ∈ parts, lead ∉ part) :
    pieces (lead :: more) ((lead :: more).intercalate parts) = parts := by
  induction parts with
  | nil => exact absurd rfl hparts
  | cons part parts ih =>
      rw [List.forall_mem_cons] at h
      cases parts with
      | nil => rw [List.intercalate_singleton, pieces_part h.1]
      | cons next parts =>
          rw [List.intercalate_cons_cons, List.append_assoc, pieces_part_append h.1,
            ih (List.cons_ne_nil _ _) h.2]

end ScriptAdvisor.Text
