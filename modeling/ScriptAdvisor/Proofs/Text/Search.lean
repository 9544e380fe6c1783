import Mathlib.Data.Nat.Basic
import Mathlib.Order.Basic
import ScriptAdvisor.Text.Search

/-! # Where a search ends

A search looks at the ends of a text one after the other, from some place on, and stops at the first
one that suits it. So it ends at the first place at which the text goes on as looked for, or there
is no such place.

* `Text.IsFirstFrom` is said of that place, and `Text.IsFirstFrom.unique` that there is only one.
* `Text.findFrom?_cases` and `Text.search?_cases` are about the search for a word and for a
  pattern.
* `Text.takeWhile_append_of_head?` and `Text.dropWhile_append_of_head?` tell what a pattern takes of
  a class of characters: everything up to the first that is not in it. -/

namespace ScriptAdvisor.Text

/-- Of all places of a text from `start` on, `place` is the first at which it goes on as `suits`
says. -/
structure IsFirstFrom (suits : List Char → Prop) (text : List Char) (start place : Nat) :
    Prop where
  /-- It is not before the start. -/
  start_le : start ≤ place
  /-- The text goes on as it should. -/
  here : suits (text.drop place)
  /-- It does not do so before. -/
  not_before : ∀ earlier, start ≤ earlier → earlier < place → ¬suits (text.drop earlier)

theorem IsFirstFrom.unique {suits : List Char → Prop} {text : List Char} {start place other : Nat}
    (h : IsFirstFrom suits text start place) (hother : IsFirstFrom suits text start other) :
    place = other := by
  rcases Nat.lt_trichotomy place other with hlt | heq | hgt
  · exact absurd h.here (hother.not_before place h.start_le hlt)
  · exact heq
  · exact absurd hother.here (h.not_before other hother.start_le hgt)

/-! ## Words -/

variable {needle text : List Char}

/-- The search for a word from the start of a text ends at its first place, or there is none. -/
theorem find?_cases (needle text : List Char) :
    (∃ place, find? needle text = some place ∧ IsFirstFrom (needle <+: ·) text 0 place)
      ∨ find? needle text = none ∧ ∀ place, ¬needle <+: text.drop place := by
  induction text with
  | nil =>
      cases needle with
      | nil => exact .inl ⟨0, rfl, ⟨le_rfl, List.nil_prefix, fun _ _ h => absurd h (by omega)⟩⟩
      | cons n needle => exact .inr ⟨rfl, fun place => by simp⟩
  | cons c text ih =>
      rw [find?]
      by_cases hhere : needle <+: c :: text
      · rw [if_pos (List.isPrefixOf_iff_prefix.mpr hhere)]
        exact .inl ⟨0, rfl, ⟨le_rfl, hhere, fun _ _ h => absurd h (by omega)⟩⟩
      · rw [if_neg (mt List.isPrefixOf_iff_prefix.mp hhere)]
        -- places of the rest are those of the text behind its first
        rcases ih with ⟨place, hplace, hfirst⟩ | ⟨hnone, hnowhere⟩
        · refine .inl ⟨place + 1, by rw [hplace]; rfl, ⟨Nat.zero_le _, hfirst.here, ?_⟩⟩
          intro earlier _ hearlier
          cases earlier with
          | zero => exact hhere
          | succ earlier => exact hfirst.not_before earlier (Nat.zero_le _) (by omega)
        · refine .inr ⟨by rw [hnone]; rfl, fun place => ?_⟩
          cases place with
          | zero => exact hhere
          | succ place => exact hnowhere place

/-- Where a search succeeds the needle stands. -/
theorem prefix_drop_of_find? {place : Nat} (h : find? needle text = some place) :
    needle <+: text.drop place := by
  rcases find?_cases needle text with ⟨found, hfound, hfirst⟩ | ⟨hnone, -⟩
  · obtain rfl : found = place := Option.some.inj (hfound.symm.trans h)
    exact hfirst.here
  · rw [hnone] at h
    contradiction

/-- The search for a word from a place on ends at the first place of the word, or there is none. -/
theorem findFrom?_cases (needle text : List Char) (start : Nat) :
    (∃ place, findFrom? needle text start = some place
        ∧ IsFirstFrom (needle <+: ·) text start place)
      ∨ findFrom? needle text start = none
        ∧ ∀ place, start ≤ place → ¬needle <+: text.drop place := by
  unfold findFrom?
  rcases find?_cases needle (text.drop start) with ⟨skipped, hplace, hfirst⟩ | ⟨hnone, hnowhere⟩
  · refine .inl ⟨skipped + start, by rw [hplace]; rfl, ⟨Nat.le_add_left _ _, ?_, ?_⟩⟩
    · have hhere := hfirst.here
      rwa [List.drop_drop, Nat.add_comm] at hhere
    · intro earlier hstart hearlier
      have hbefore := hfirst.not_before (earlier - start) (Nat.zero_le _) (by omega)
      rwa [List.drop_drop, Nat.add_sub_cancel' hstart] at hbefore
  · refine .inr ⟨by rw [hnone]; rfl, fun place hstart => ?_⟩
    have hnot := hnowhere (place - start)
    rwa [List.drop_drop, Nat.add_sub_cancel' hstart] at hnot

/-- A character stands first behind a text exactly if this text lacks it. -/
theorem isFirstFrom_singleton_iff {c : Char} {front rest : List Char} {start : Nat}
    (h : text.drop start = front ++ c :: rest) :
    IsFirstFrom ([c] <+: ·) text start (start + front.length) ↔ c ∉ front := by
  constructor
  · intro hfirst hmem
    obtain ⟨before, behind, rfl⟩ := List.append_of_mem hmem
    refine hfirst.not_before (start + before.length) (Nat.le_add_right _ _) (by simp) ?_
    rw [← List.drop_drop, h, List.append_assoc, List.drop_left]
    exact ⟨behind ++ c :: rest, rfl⟩
  · intro hnone
    refine ⟨Nat.le_add_right _ _, ?_, fun earlier hstart hearlier hhere => hnone ?_⟩
    · rw [← List.drop_drop, h, List.drop_left]
      exact ⟨rest, rfl⟩
    · obtain ⟨skipped, rfl⟩ := Nat.exists_eq_add_of_le hstart
      have hshort : skipped < front.length := by omega
      rw [← List.drop_drop, h, List.drop_append_of_le_length hshort.le,
        List.drop_eq_getElem_cons hshort, List.cons_append, List.cons_prefix_cons] at hhere
      rw [hhere.1]
      exact List.getElem_mem hshort

/-! ## Patterns -/

variable {α : Type _}

/-- The search for a pattern that does not apply to the empty text ends at the first place at which
it applies, or there is none. -/
theorem search?_cases (pattern : List Char → Option α) (hnil : pattern [] = none)
    (text : List Char) (start : Nat) :
    (∃ place found, search? pattern start (text.drop start) = some (place, found)
        ∧ pattern (text.drop place) = some found
        ∧ IsFirstFrom (fun rest => (pattern rest).isSome) text start place)
      ∨ search? pattern start (text.drop start) = none
        ∧ ∀ place, start ≤ place → pattern (text.drop place) = none := by
  generalize hrest : text.drop start = rest
  fun_induction search? pattern start rest with
  | case1 start =>
      refine .inr ⟨rfl, fun place hplace => ?_⟩
      rw [List.drop_eq_nil_iff] at hrest
      rw [List.drop_of_length_le (by omega), hnil]
  | case2 start c rest found hfound =>
      rw [← hrest] at hfound
      exact .inl ⟨start, found, rfl, hfound, ⟨le_rfl, by rw [hfound]; rfl, fun _ _ h => by omega⟩⟩
  | case3 start c rest hnone ih =>
      rw [← hrest] at hnone
      have hnext : text.drop (start + 1) = rest := by
        rw [← List.drop_drop, hrest, List.drop_one, List.tail_cons]
      rcases ih hnext with ⟨place, found, hsearch, hfound, hfirst⟩ | ⟨hsearch, hnowhere⟩
      · refine .inl ⟨place, found, hsearch, hfound, ⟨by have := hfirst.start_le; omega,
          hfirst.here, fun earlier hstart hearlier => ?_⟩⟩
        rcases hstart.eq_or_lt with rfl | hlt
        · simp [hnone]
        · exact hfirst.not_before earlier hlt hearlier
      · refine .inr ⟨hsearch, fun place hstart => ?_⟩
        rcases hstart.eq_or_lt with rfl | hlt
        · exact hnone
        · exact hnowhere place hlt

section Class

variable {p : Char → Bool} {lead rest : List Char}

theorem takeWhile_append_of_head? (hlead : ∀ c ∈ lead, p c = true)
    (hrest : ∀ c ∈ rest.head?, p c = false) : (lead ++ rest).takeWhile p = lead := by
  have hstop : rest.takeWhile p = [] := by
    cases rest with
    | nil => rfl
    | cons c rest => exact List.takeWhile_cons_of_neg (by simp [hrest c rfl])
  rw [List.takeWhile_append_of_pos hlead, hstop, List.append_nil]

theorem dropWhile_append_of_head? (hlead : ∀ c ∈ lead, p c = true)
    (hrest : ∀ c ∈ rest.head?, p c = false) : (lead ++ rest).dropWhile p = rest := by
  rw [List.dropWhile_append_of_pos hlead]
  cases rest with
  | nil => rfl
  | cons c rest => exact List.dropWhile_cons_of_neg (by simp [hrest c rfl])

end Class

end ScriptAdvisor.Text
