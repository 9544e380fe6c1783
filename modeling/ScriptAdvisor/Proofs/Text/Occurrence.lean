import Mathlib.Data.List.Infix
import ScriptAdvisor.Proofs.Text.Feed
import ScriptAdvisor.Proofs.Text.Search

/-! # How often a text holds another

A text holds a needle as often as one of its ends starts with it. Where a text is cut at a character
that stands in the needle at most as its first, no needle lies across the cut, and the parts hold
together as many as the whole.

* `Text.occurrences` counts the places.
* `Text.occurrences_append_cons` and `Text.occurrences_joinNewlines` count part by part.
* `Text.find?_eq_none_iff`: a search fails exactly if there is nothing to count. -/

namespace ScriptAdvisor.Text

/-- The number of places at which `needle` stands in a text. -/
def occurrences (needle text : List Char) : Nat :=
  text.tails.countP fun rest => needle.isPrefixOf rest

variable {needle text : List Char}

theorem occurrences_cons (needle : List Char) (c : Char) (text : List Char) :
    occurrences needle (c :: text)
      = occurrences needle text + if needle <+: c :: text then 1 else 0 := by
  rw [occurrences, List.tails_cons, List.countP_cons, ← occurrences]
  simp only [List.isPrefixOf_iff_prefix]

theorem occurrences_nil (hne : needle ≠ []) : occurrences needle [] = 0 := by
  simp [occurrences, hne]

/-- An end of a text holds at most as many as the text. -/
theorem occurrences_le_append (needle front text : List Char) :
    occurrences needle text ≤ occurrences needle (front ++ text) := by
  induction front with
  | nil => rfl
  | cons c front ih =>
      rw [List.cons_append, occurrences_cons]
      exact ih.trans (Nat.le_add_right _ _)

/-- A text that starts with the needle holds more than what stands behind the needle. -/
theorem occurrences_lt_append (hne : needle ≠ []) (text : List Char) :
    occurrences needle text < occurrences needle (needle ++ text) := by
  obtain ⟨c, rest, rfl⟩ := List.exists_cons_of_ne_nil hne
  have hbehind := occurrences_le_append (c :: rest) rest text
  have hhere : c :: rest <+: c :: (rest ++ text) := List.prefix_append (c :: rest) text
  rw [List.cons_append, occurrences_cons, if_pos hhere]
  omega

/-- A search fails exactly if there is nothing to find. -/
theorem find?_eq_none_iff : find? needle text = none ↔ occurrences needle text = 0 := by
  induction text with
  | nil =>
      cases needle with
      | nil => simp [find?, occurrences]
      | cons n needle => simp [find?, occurrences]
  | cons c text ih =>
      rw [find?, occurrences_cons]
      simp only [List.isPrefixOf_iff_prefix]
      by_cases h : needle <+: c :: text
      · simp [h]
      · simp [h, ih]

section Cut

variable {d : Char}

/-- A word in front of a cut does not reach over it if it lacks the character behind the cut. -/
theorem prefix_append_cons_iff {word : List Char} (hd : d ∉ word) (a c : List Char) :
    word <+: a ++ d :: c ↔ word <+: a := by
  induction a generalizing word with
  | nil =>
      cases word with
      | nil => simp
      | cons w word =>
          rw [List.mem_cons, not_or] at hd
          rw [List.nil_append, List.cons_prefix_cons]
          simp [Ne.symm hd.1]
  | cons b a ih =>
      cases word with
      | nil => simp
      | cons w word =>
          rw [List.mem_cons, not_or] at hd
          rw [List.cons_append, List.cons_prefix_cons, List.cons_prefix_cons, ih hd.2]

/-- No needle lies across a cut in front of a character that it has at most as its first. -/
theorem occurrences_append_cons (hne : needle ≠ []) (hd : d ∉ needle.tail) (a c : List Char) :
    occurrences needle (a ++ d :: c) = occurrences needle a + occurrences needle (d :: c) := by
  obtain ⟨n, rest, rfl⟩ := List.exists_cons_of_ne_nil hne
  induction a with
  | nil => rw [List.nil_append, occurrences_nil hne, Nat.zero_add]
  | cons b a ih =>
      have hhere : n :: rest <+: b :: (a ++ d :: c) ↔ n :: rest <+: b :: a := by
        rw [List.cons_prefix_cons, List.cons_prefix_cons]
        exact and_congr_right' (prefix_append_cons_iff hd a c)
      rw [List.cons_append, occurrences_cons, occurrences_cons, ih]
      simp only [hhere]
      omega

theorem occurrences_cons_of_notMem (hd : d ∉ needle) (c : List Char) (hne : needle ≠ []) :
    occurrences needle (d :: c) = occurrences needle c := by
  obtain ⟨n, rest, rfl⟩ := List.exists_cons_of_ne_nil hne
  have hhere : ¬n :: rest <+: d :: c := by
    rw [List.cons_prefix_cons]
    rintro ⟨rfl, -⟩
    exact hd List.mem_cons_self
  rw [occurrences_cons, if_neg hhere, Nat.add_zero]

/-- A needle without line feeds is counted piece by piece. -/
theorem occurrences_joinNewlines (hne : needle ≠ []) (hfeed : '\n' ∉ needle)
    (pieces : List (List Char)) :
    occurrences needle (joinNewlines pieces) = (pieces.map (occurrences needle)).sum := by
  induction pieces with
  | nil => exact occurrences_nil hne
  | cons piece pieces ih =>
      by_cases hnil : pieces = []
      · subst hnil
        simp
      · rw [joinNewlines_cons piece hnil,
          occurrences_append_cons hne (fun h => hfeed (List.mem_of_mem_tail h)),
          occurrences_cons_of_notMem hfeed _ hne, ih, List.map_cons, List.sum_cons]

end Cut

end ScriptAdvisor.Text
