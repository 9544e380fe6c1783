import Mathlib.Data.List.Basic
import Mathlib.Tactic.Cases
import ScriptAdvisor.Text.Search

/-! # What a scan of a text finds

A scan goes through a text from left to right and continues behind each stretch that it finds. So
the stretches come in order and lie apart, but one that begins inside another may be missed.

* `Text.mem_spans` says that a pattern applies to every stretch that is found.
* `Text.spans_append_of_none` says what the scan passes over.
* `Text.Arrives` says how far a scan has come and what it has found on its way.
* `Text.pairwise_spans` says in which order the stretches come.
* `Text.mem_spans_iff`: nothing is missed if no stretch begins inside another
  (`Text.IsScattered`). -/

namespace ScriptAdvisor.Text

variable {pattern : List Char → Option Nat} {text : List Char} {place : Nat} {span : Span}

/-- A stretch that is found is one to which the pattern applies, if the pattern takes no more than
there is. -/
theorem mem_spans (hbound : ∀ text taken, pattern text = some taken → taken ≤ text.length)
    (h : span ∈ spans pattern place text) :
    ∃ lead rest taken, text = lead ++ rest ∧ pattern rest = some taken
      ∧ span = ⟨place + lead.length, place + lead.length + taken⟩ := by
  fun_induction spans pattern place text with
  | case1 => exact absurd h List.not_mem_nil
  | case2 place c rest taken hpattern ih =>
      rcases List.mem_cons.mp h with rfl | hlater
      · exact ⟨[], c :: rest, taken + 1, rfl, hpattern, rfl⟩
      · -- found behind the first stretch
        obtain ⟨lead, rest', taken', hrest, hpattern', rfl⟩ := ih hlater
        have hle : taken ≤ rest.length := by
          have := hbound _ _ hpattern
          rw [List.length_cons] at this
          omega
        have hlength : (c :: (rest.take taken ++ lead)).length = taken + 1 + lead.length := by
          rw [List.length_cons, List.length_append, List.length_take_of_le hle]
          omega
        refine ⟨c :: (rest.take taken ++ lead), rest', taken', ?_, hpattern', ?_⟩
        · rw [List.cons_append, List.append_assoc, ← hrest, List.take_append_drop]
        · rw [hlength, Nat.add_assoc place (taken + 1)]
  | case3 place c rest hpattern ih =>
      obtain ⟨lead, rest', taken, rfl, hpattern', rfl⟩ := ih h
      refine ⟨c :: lead, rest', taken, rfl, hpattern', ?_⟩
      rw [List.length_cons, Nat.add_assoc place 1, Nat.add_comm 1]

theorem le_start_of_mem_spans (h : span ∈ spans pattern place text) : place ≤ span.start := by
  fun_induction spans pattern place text with
  | case1 => exact absurd h List.not_mem_nil
  | case2 place c rest taken _ ih =>
      rcases List.mem_cons.mp h with rfl | hlater
      · exact Nat.le_refl place
      · have := ih hlater
        omega
  | case3 place c rest _ ih =>
      have := ih h
      omega

/-- Where a pattern does not apply, the scan goes on behind the first character. -/
theorem spans_cons_of_none {c : Char} (h : pattern (c :: text) = none) :
    spans pattern place (c :: text) = spans pattern (place + 1) text := by
  rw [spans, h]

/-- Characters with which no stretch begins are passed over. -/
theorem spans_append_of_none {skipped : List Char}
    (h : ∀ c ∈ skipped, ∀ rest, pattern (c :: rest) = none) (text : List Char) :
    spans pattern place (skipped ++ text) = spans pattern (place + skipped.length) text := by
  induction skipped generalizing place with
  | nil => rfl
  | cons c skipped ih =>
      rw [List.forall_mem_cons] at h
      rw [List.cons_append, spans_cons_of_none (h.1 _), ih h.2, List.length_cons, Nat.add_assoc,
        Nat.add_comm 1]

/-- Every stretch begins where the one before it has ended, or behind that. -/
theorem pairwise_spans (pattern : List Char → Option Nat) (place : Nat) (text : List Char) :
    (spans pattern place text).Pairwise fun span later => span.stop ≤ later.start := by
  fun_induction spans pattern place text with
  | case1 => exact .nil
  | case2 place c rest taken _ ih =>
      rw [List.pairwise_cons]
      exact ⟨fun later hlater => le_start_of_mem_spans hlater, ih⟩
  | case3 place c rest _ ih => exact ih

/-- The stretches to which a pattern applies are not empty and no longer than the text, and none of
them begins inside another. -/
structure IsScattered (pattern : List Char → Option Nat) : Prop where
  /-- A stretch is not empty. -/
  pos : ∀ text taken, pattern text = some taken → 0 < taken
  /-- It ends within the text. -/
  le_length : ∀ text taken, pattern text = some taken → taken ≤ text.length
  /-- None begins inside it. -/
  apart : ∀ text taken, pattern text = some taken →
    ∀ inside, 0 < inside → inside < taken → pattern (text.drop inside) = none

/-- A scan for stretches of which none begins inside another finds them all. -/
theorem mem_spans_of_isScattered (hscattered : IsScattered pattern) {lead rest : List Char}
    {taken : Nat} (htext : text = lead ++ rest) (hpattern : pattern rest = some taken) :
    ⟨place + lead.length, place + lead.length + taken⟩ ∈ spans pattern place text := by
  fun_induction spans pattern place text generalizing lead with
  | case1 =>
      obtain ⟨rfl, rfl⟩ := List.append_eq_nil_iff.mp htext.symm
      have hpos := hscattered.pos _ _ hpattern
      have hle := hscattered.le_length _ _ hpattern
      rw [List.length_nil] at hle
      omega
  | case2 place c text first hfirst ih =>
      cases lead with
      | nil =>
          rw [htext, List.nil_append, hpattern, Option.some.injEq] at hfirst
          rw [hfirst]
          exact List.mem_cons_self
      | cons d lead =>
          have hrest : rest = (c :: text).drop (lead.length + 1) := by
            rw [htext, List.cons_append, List.drop_succ_cons, List.drop_left]
          have htail : text = lead ++ rest := (List.cons.inj htext).2
          by_cases hinside : lead.length < first
          · -- it would begin inside the first stretch
            have hnone := hscattered.apart _ _ hfirst (lead.length + 1) (by omega) (by omega)
            rw [← hrest, hpattern] at hnone
            contradiction
          · have hdrop : text.drop first = lead.drop first ++ rest := by
              rw [htail, List.drop_append_of_le_length (by omega)]
            have hlater := ih hdrop
            have hlength : place + (first + 1) + (lead.drop first).length
                = place + (d :: lead).length := by
              rw [List.length_drop, List.length_cons]
              omega
            rw [hlength] at hlater
            exact List.mem_cons_of_mem _ hlater
  | case3 place c text hnone ih =>
      cases lead with
      | nil =>
          have hpos := hscattered.pos _ _ hpattern
          obtain ⟨more, rfl⟩ := Nat.exists_eq_add_of_lt hpos
          rw [List.nil_append] at htext
          rw [← htext, Nat.zero_add] at hpattern
          exact absurd hpattern (hnone more)
      | cons d lead =>
          have hlater := ih (List.cons.inj htext).2
          have hlength : place + 1 + lead.length = place + (d :: lead).length := by
            rw [List.length_cons]
            omega
          rwa [hlength] at hlater

/-- A scan finds the stretches to which a pattern applies, all of them and no others, if none of
them begins inside another. -/
theorem mem_spans_iff (hscattered : IsScattered pattern) :
    span ∈ spans pattern place text
      ↔ ∃ lead rest taken, text = lead ++ rest ∧ pattern rest = some taken
          ∧ span = ⟨place + lead.length, place + lead.length + taken⟩ := by
  constructor
  · exact mem_spans hscattered.le_length
  · rintro ⟨lead, rest, taken, htext, hpattern, rfl⟩
    exact mem_spans_of_isScattered hscattered htext hpattern

/-! ## How far a scan has come -/

section Arrives

variable {lead more : List Char} {found found' : List Span}

/-- A scan comes to the text behind `lead`, and has found these stretches on its way. -/
def Arrives (pattern : List Char → Option Nat) (place : Nat) (lead text : List Char)
    (found : List Span) : Prop :=
  spans pattern place (lead ++ text) = found ++ spans pattern (place + lead.length) text

theorem Arrives.append (h : Arrives pattern place lead (more ++ text) found)
    (h' : Arrives pattern (place + lead.length) more text found') :
    Arrives pattern place (lead ++ more) text (found ++ found') := by
  rw [Arrives, List.append_assoc, h, h', List.append_assoc, List.length_append, Nat.add_assoc place]

/-- A character with which nothing begins is passed over. -/
theorem arrives_singleton {c : Char} (h : pattern (c :: text) = none) :
    Arrives pattern place [c] text [] :=
  spans_cons_of_none h

/-- A stretch that is found is passed over at once. -/
theorem arrives_taken (hpos : 0 < lead.length) (h : pattern (lead ++ text) = some lead.length) :
    Arrives pattern place lead text [⟨place, place + lead.length⟩] := by
  obtain ⟨c, lead, rfl⟩ := List.exists_cons_of_length_pos hpos
  rw [List.length_cons, List.cons_append] at h
  rw [Arrives, List.cons_append, spans, h]
  simp only [List.drop_left, List.length_cons, List.singleton_append]

/-- Behind a stretch that is found the scan goes on. -/
theorem exists_found_behind {c : Char} {taken start : Nat}
    (h : pattern (c :: text) = some (taken + 1))
    (hfound : ∃ span ∈ spans pattern place (c :: text), span.start = start) (hne : place ≠ start) :
    ∃ span ∈ spans pattern (place + (taken + 1)) (text.drop taken), span.start = start := by
  obtain ⟨span, hspan, rfl⟩ := hfound
  rw [spans, h, List.mem_cons] at hspan
  rcases hspan with rfl | hlater
  · exact absurd rfl hne
  · exact ⟨span, hlater, rfl⟩

/-- How many stretches are found does not depend on where the counting of places starts. -/
theorem length_spans (pattern : List Char → Option Nat) (place other : Nat) (text : List Char) :
    (spans pattern place text).length = (spans pattern other text).length := by
  fun_induction spans pattern place text generalizing other with
  | case1 => rw [spans]
  | case2 place c rest taken htaken ih =>
      rw [spans, htaken, List.length_cons, List.length_cons, ih]
  | case3 place c rest hnone ih =>
      rw [spans]
      split
      · rename_i taken htaken
        exact absurd htaken (hnone taken)
      · exact ih _

end Arrives

end ScriptAdvisor.Text
