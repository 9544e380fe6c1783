import Mathlib.Data.Nat.Init
import ScriptAdvisor.Proofs.Text.Spans

/-! # The leftmost stretches of a shape

Stretches of a text that have some shape may overlap. Of those a scan from left to right takes the
first, then the first behind it, and so on. The list it ends with is told apart from all others
without a word about scanning: it has every stretch of the shape into which none of its own reaches
from the left, and no others.

* `Text.IsLeftmost` says this of a list of stretches.
* `Text.Recognizes` says that a pattern takes the stretches of a shape.
* `Text.isLeftmost_iff`: the list that the scan finds is the only one of this kind. -/

namespace ScriptAdvisor.Text

/-- A stretch of a text has a shape. -/
def IsStretch (shape : List Char → Prop) (text : List Char) (span : Span) : Prop :=
  ∃ lead inside rest, text = lead ++ inside ++ rest ∧ shape inside
    ∧ span = ⟨lead.length, lead.length + inside.length⟩

/-- The stretches of a shape that are leftmost in a text and do not overlap, from left to right. -/
structure IsLeftmost (shape : List Char → Prop) (text : List Char) (found : List Span) : Prop where
  /-- Each begins where the one before it has ended, or behind that. -/
  apart : found.Pairwise fun span later => span.stop ≤ later.start
  /-- They are the stretches of the shape into which none of them reaches from the left. -/
  mem_iff : ∀ span, span ∈ found ↔ IsStretch shape text span
    ∧ ∀ earlier ∈ found, earlier.start < span.start → earlier.stop ≤ span.start

/-- A pattern takes the start of a text exactly if it has a shape, and no more. -/
structure Recognizes (pattern : List Char → Option Nat) (shape : List Char → Prop) : Prop where
  /-- It takes a start of the text of this shape. -/
  eq_some_iff : ∀ text taken, pattern text = some taken
    ↔ ∃ inside rest, text = inside ++ rest ∧ shape inside ∧ taken = inside.length
  /-- The empty text does not have the shape. -/
  not_nil : ¬shape []

variable {pattern : List Char → Option Nat} {shape : List Char → Prop} {text : List Char}
  {place : Nat} {found found' : List Span} {span : Span}

/-! ## What a scan finds -/

namespace Recognizes

theorem append (h : Recognizes pattern shape) {inside : List Char} (hinside : shape inside)
    (rest : List Char) : pattern (inside ++ rest) = some inside.length :=
  (h.eq_some_iff _ _).mpr ⟨inside, rest, rfl, hinside, rfl⟩

theorem le_length (h : Recognizes pattern shape) (text : List Char) (taken : Nat)
    (htaken : pattern text = some taken) : taken ≤ text.length := by
  obtain ⟨inside, rest, rfl, -, rfl⟩ := (h.eq_some_iff _ _).mp htaken
  rw [List.length_append]
  exact Nat.le_add_right _ _

theorem pos (h : Recognizes pattern shape) {inside : List Char} (hinside : shape inside) :
    0 < inside.length := by
  rw [List.length_pos_iff]
  rintro rfl
  exact h.not_nil hinside

/-- Every stretch that is found has the shape. -/
theorem exists_cut_of_mem_spans (h : Recognizes pattern shape)
    (hspan : span ∈ spans pattern place text) :
    ∃ lead inside rest, text = lead ++ inside ++ rest ∧ shape inside
      ∧ span = ⟨place + lead.length, place + lead.length + inside.length⟩ := by
  obtain ⟨lead, more, taken, rfl, htaken, rfl⟩ := mem_spans h.le_length hspan
  obtain ⟨inside, rest, rfl, hinside, rfl⟩ := (h.eq_some_iff _ _).mp htaken
  exact ⟨lead, inside, rest, (List.append_assoc _ _ _).symm, hinside, rfl⟩

theorem start_lt_stop (h : Recognizes pattern shape) (hspan : span ∈ spans pattern place text) :
    span.start < span.stop := by
  obtain ⟨lead, inside, rest, -, hinside, rfl⟩ := h.exists_cut_of_mem_spans hspan
  have hpos := h.pos hinside
  simp only
  omega

/-- A stretch of the shape is found unless one that is found reaches into it from the left. -/
theorem mem_spans_of_free (h : Recognizes pattern shape) {lead inside rest : List Char}
    (htext : text = lead ++ inside ++ rest) (hinside : shape inside)
    (hfree : ∀ earlier ∈ spans pattern place text,
      earlier.start < place + lead.length → earlier.stop ≤ place + lead.length) :
    ⟨place + lead.length, place + lead.length + inside.length⟩ ∈ spans pattern place text := by
  have hpos := h.pos hinside
  fun_induction spans pattern place text generalizing lead with
  | case1 =>
      have hnil := (List.append_eq_nil_iff.mp htext.symm).1
      rw [(List.append_eq_nil_iff.mp hnil).2] at hpos
      exact absurd hpos (Nat.lt_irrefl 0)
  | case2 place c text taken htaken ih =>
      cases lead with
      | nil =>
          -- the pattern takes this stretch and no other here
          rw [htext, List.nil_append, h.append hinside, Option.some.injEq] at htaken
          rw [htaken]
          exact List.mem_cons_self
      | cons d lead =>
          have hfirst := hfree _ List.mem_cons_self (by simp only [List.length_cons]; omega)
          simp only [List.length_cons] at hfirst
          have htail : text = lead ++ inside ++ rest := (List.cons.inj htext).2
          have hdrop : text.drop taken = lead.drop taken ++ inside ++ rest := by
            rw [htail, List.append_assoc, List.drop_append_of_le_length (by omega),
              List.append_assoc]
          have hplace : place + (taken + 1) + (lead.drop taken).length
              = place + (d :: lead).length := by
            rw [List.length_drop, List.length_cons]
            omega
          have hlater := ih hdrop fun earlier hearlier hlt => by
            rw [hplace] at hlt ⊢
            exact hfree earlier (List.mem_cons_of_mem _ hearlier) hlt
          rw [hplace] at hlater
          exact List.mem_cons_of_mem _ hlater
  | case3 place c text hnone ih =>
      cases lead with
      | nil =>
          obtain ⟨more, hmore⟩ := Nat.exists_eq_add_of_lt hpos
          rw [htext, List.nil_append, h.append hinside, hmore, Nat.zero_add] at hnone
          exact absurd rfl (hnone more)
      | cons d lead =>
          have hplace : place + 1 + lead.length = place + (d :: lead).length := by
            rw [List.length_cons]
            omega
          have hlater := ih (List.cons.inj htext).2 fun earlier hearlier hlt => by
            rw [hplace] at hlt ⊢
            exact hfree earlier hearlier hlt
          rwa [hplace] at hlater

/-- What the scan finds is leftmost. -/
theorem isLeftmost_spans (h : Recognizes pattern shape) (text : List Char) :
    IsLeftmost shape text (spans pattern 0 text) := by
  have hpairwise := pairwise_spans pattern 0 text
  refine ⟨hpairwise, fun span => ⟨fun hspan => ⟨?_, ?_⟩, ?_⟩⟩
  · obtain ⟨lead, inside, rest, htext, hinside, rfl⟩ := h.exists_cut_of_mem_spans hspan
    exact ⟨lead, inside, rest, htext, hinside, by simp only [Nat.zero_add]⟩
  · intro earlier hearlier hlt
    obtain ⟨front, back, hsplit⟩ := List.append_of_mem hspan
    rw [hsplit, List.pairwise_append, List.pairwise_cons] at hpairwise
    obtain ⟨-, ⟨hbehind, -⟩, hbefore⟩ := hpairwise
    rw [hsplit, List.mem_append, List.mem_cons] at hearlier
    rcases hearlier with hfront | rfl | hback
    · exact hbefore earlier hfront span List.mem_cons_self
    · exact absurd hlt (Nat.lt_irrefl _)
    · -- those behind start later
      have hle := hbehind earlier hback
      have hwide := h.start_lt_stop hspan
      omega
  · rintro ⟨⟨lead, inside, rest, htext, hinside, rfl⟩, hfree⟩
    have hmem : ⟨0 + lead.length, 0 + lead.length + inside.length⟩ ∈ spans pattern 0 text :=
      h.mem_spans_of_free htext hinside (by simpa only [Nat.zero_add] using hfree)
    simpa only [Nat.zero_add] using hmem

end Recognizes

/-! ## There is only one leftmost list -/

theorem IsStretch.start_lt_stop (hne : ¬shape []) (h : IsStretch shape text span) :
    span.start < span.stop := by
  obtain ⟨lead, inside, rest, -, hinside, rfl⟩ := h
  have hpos : inside ≠ [] := by
    rintro rfl
    exact hne hinside
  rw [← List.length_pos_iff] at hpos
  simp only
  omega

namespace IsLeftmost

/-- Two leftmost lists have the same stretches: whether one belongs to a list is settled by those
that start before it. -/
theorem mem_congr (h : IsLeftmost shape text found) (h' : IsLeftmost shape text found')
    (span : Span) : span ∈ found ↔ span ∈ found' := by
  induction hstart : span.start using Nat.strong_induction_on generalizing span with
  | _ start ih =>
      rw [h.mem_iff, h'.mem_iff]
      refine and_congr_right fun _ => forall_congr' fun earlier => ?_
      by_cases hlt : earlier.start < span.start
      · rw [ih earlier.start (hstart ▸ hlt) earlier rfl]
      · simp only [hlt, false_implies, implies_true]

theorem start_lt_stop (hne : ¬shape []) (h : IsLeftmost shape text found) (hspan : span ∈ found) :
    span.start < span.stop :=
  ((h.mem_iff span).mp hspan).1.start_lt_stop hne

theorem nodup (hne : ¬shape []) (h : IsLeftmost shape text found) : found.Nodup := by
  refine h.apart.imp_of_mem fun {span later} hspan _ hle heq => ?_
  have hlt := h.start_lt_stop hne hspan
  rw [← heq] at hle
  omega

theorem unique (hne : ¬shape []) (h : IsLeftmost shape text found)
    (h' : IsLeftmost shape text found') : found = found' := by
  have hperm : found.Perm found' :=
    (List.perm_ext_iff_of_nodup (h.nodup hne) (h'.nodup hne)).mpr (h.mem_congr h')
  -- no two stretches can each come before the other
  refine hperm.eq_of_pairwise (fun span later hspan hlater hle hge => ?_) h.apart h'.apart
  have hone := h.start_lt_stop hne hspan
  have hother := h'.start_lt_stop hne hlater
  omega

end IsLeftmost

/-- The leftmost stretches of a shape are those that a scan finds whose pattern takes this shape. -/
theorem isLeftmost_iff (h : Recognizes pattern shape) :
    IsLeftmost shape text found ↔ found = spans pattern 0 text := by
  constructor
  · intro hfound
    exact hfound.unique h.not_nil (h.isLeftmost_spans text)
  · rintro rfl
    exact h.isLeftmost_spans text

end ScriptAdvisor.Text
