import Mathlib.Algebra.Order.BigOperators.Group.List
import Mathlib.Algebra.Order.Group.Nat
import Mathlib.Data.List.Forall2
import ScriptAdvisor.Proofs.Text.Place

/-! # Two ways of counting lines

The lines of a text are counted in two ways: those between breaks of any kind (`lines`), and those
between line feeds (`splitNewlines`). A break that is no line feed starts a line of the first kind
only, so from there on the two counts differ.

* `forall₂_ended` says that a line of the first kind is a line with its end less the end.
* `count_newline_flatten_take` counts the line feeds before such a line: there is one for each line
  before it that ends in a line feed.
* `endsAt_append` says at which line of the second kind a text ends, and
  `isPrefix_joinNewlines_take` that the lines of the second kind up to there hold the text.
* `splitNewlines_flatten_append_iff` says when a text falls into the lines it was put together
  from. -/

namespace ScriptAdvisor.Text

/-! ## Lines and their ends -/

/-- What can stand behind a line: nothing, a break, or a carriage return and a line feed. -/
inductive IsEnd : List Char → Prop
  /-- The text ends there. -/
  | none : IsEnd []
  /-- A break of one character. -/
  | single {c : Char} (hbreak : isLineBreak c = true) : IsEnd [c]
  /-- A break of two characters. -/
  | pair : IsEnd ['\r', '\n']

/-- The second text is the first, which holds no break, and then an end. -/
def Ended (line full : List Char) : Prop :=
  (∀ c ∈ line, isLineBreak c = false) ∧ ∃ ending, IsEnd ending ∧ full = line ++ ending

theorem linesWithEnds_pair (rest : List Char) :
    linesWithEnds ('\r' :: '\n' :: rest) = ['\r', '\n'] :: linesWithEnds rest := rfl

theorem linesWithEnds_cons {c : Char} {rest : List Char}
    (hpair : ∀ rest', c = '\r' → rest = '\n' :: rest' → False) :
    linesWithEnds (c :: rest)
      = if isLineBreak c then [c] :: linesWithEnds rest else consFirst c (linesWithEnds rest) := by
  generalize htext : c :: rest = text
  fun_cases linesWithEnds text with
  | case1 => exact absurd htext (List.cons_ne_nil c rest)
  | case2 rest' =>
      obtain ⟨rfl, rfl⟩ := List.cons.inj htext
      exact absurd rfl (hpair rest' rfl)
  | case3 d rest' _ hbreak =>
      obtain ⟨rfl, rfl⟩ := List.cons.inj htext
      rw [if_pos hbreak]
  | case4 d rest' _ hbreak =>
      obtain ⟨rfl, rfl⟩ := List.cons.inj htext
      rw [if_neg hbreak]

/-- One more character in front of the first line. -/
theorem forall₂_consFirst {c : Char} (hc : isLineBreak c = false) {short full : List (List Char)}
    (h : List.Forall₂ Ended short full) :
    List.Forall₂ Ended (consFirst c short) (consFirst c full) := by
  cases h with
  | nil =>
      refine .cons ⟨?_, [], .none, rfl⟩ .nil
      simpa using hc
  | cons hfirst hrest =>
      obtain ⟨hline, ending, hending, rfl⟩ := hfirst
      refine .cons ⟨?_, ending, hending, rfl⟩ hrest
      rintro d (_ | ⟨_, hd⟩)
      · exact hc
      · exact hline d hd

/-- Every line comes with its end in the list of lines with ends. -/
theorem forall₂_ended (text : List Char) :
    List.Forall₂ Ended (lines text) (linesWithEnds text) := by
  fun_induction lines text with
  | case1 => exact .nil
  | case2 rest ih =>
      rw [linesWithEnds_pair]
      exact .cons ⟨by simp, _, .pair, rfl⟩ ih
  | case3 c rest hpair hbreak ih =>
      rw [linesWithEnds_cons hpair, if_pos hbreak]
      exact .cons ⟨by simp, _, .single hbreak, rfl⟩ ih
  | case4 c rest hpair hbreak ih =>
      rw [linesWithEnds_cons hpair, if_neg hbreak]
      exact forall₂_consFirst (by simpa using hbreak) ih

theorem exists_ended_of_mem {text full : List Char} (h : full ∈ linesWithEnds text) :
    ∃ line, Ended line full := by
  obtain ⟨place, hplace, rfl⟩ := List.mem_iff_getElem.mp h
  have hlength := (forall₂_ended text).length_eq
  exact ⟨_, (forall₂_ended text).get (hlength ▸ hplace) hplace⟩

theorem Ended.newline_notMem {line full : List Char} (h : Ended line full) : '\n' ∉ line :=
  fun hmem => absurd (h.1 '\n' hmem) (by decide)

/-- A line with its end has one line feed if it ends in one, and otherwise none. -/
theorem Ended.count_newline {line full : List Char} (h : Ended line full) :
    full.count '\n' = if full.getLast? = some '\n' then 1 else 0 := by
  have hline : line.count '\n' = 0 := List.count_eq_zero.mpr h.newline_notMem
  obtain ⟨-, ending, hending, rfl⟩ := id h
  rw [List.count_append, hline, Nat.zero_add]
  cases hending with
  | none =>
      rw [List.append_nil, if_neg]
      · rfl
      · intro hlast
        exact h.newline_notMem (List.mem_of_getLast? hlast)
  | @single c hbreak =>
      rw [List.getLast?_append, List.getLast?_singleton, Option.some_or]
      by_cases hc : c = '\n'
      · rw [hc]
        rfl
      · rw [if_neg fun h => hc (Option.some.inj h), List.count_eq_zero]
        simpa using Ne.symm hc
  | pair =>
      rw [List.getLast?_append]
      rfl

theorem length_linesWithEnds (text : List Char) :
    (linesWithEnds text).length = (lines text).length :=
  (forall₂_ended text).length_eq.symm

/-- A line, and what stands before it and behind it. -/
theorem exists_cut_of_lines {text line : List Char} {count : Nat}
    (h : (lines text)[count]? = some line) :
    ∃ rest, text = ((linesWithEnds text).take count).flatten ++ line ++ rest ∧ '\n' ∉ line
      ∧ ((linesWithEnds text).take count).length = count := by
  obtain ⟨hcount, hline⟩ := List.getElem?_eq_some_iff.mp h
  have hcount' : count < (linesWithEnds text).length := by
    rw [length_linesWithEnds]
    exact hcount
  have hended : Ended line (linesWithEnds text)[count] := by
    rw [← hline]
    exact (forall₂_ended text).get hcount hcount'
  obtain ⟨-, ending, -, hfull⟩ := id hended
  have hget : (linesWithEnds text)[count]? = some (line ++ ending) := by
    rw [List.getElem?_eq_getElem hcount', hfull]
  refine ⟨ending ++ ((linesWithEnds text).drop (count + 1)).flatten, ?_, hended.newline_notMem,
    length_take_of_getElem? hget⟩
  conv_lhs => rw [← flatten_linesWithEnds text, eq_take_append_cons_drop hget]
  simp only [List.flatten_append, List.flatten_cons, List.append_assoc]

/-- The line feeds before a line are those that end the lines before it. -/
theorem count_newline_flatten_take (text : List Char) (count : Nat) :
    ((linesWithEnds text).take count).flatten.count '\n'
      = ((linesWithEnds text).take count).countP fun full => full.getLast? == some '\n' := by
  have hlines : ∀ fulls : List (List Char), (∀ full ∈ fulls, ∃ line, Ended line full) →
      fulls.flatten.count '\n' = fulls.countP fun full => full.getLast? == some '\n' := by
    intro fulls hended
    induction fulls with
    | nil => rfl
    | cons full fulls ih =>
        rw [List.forall_mem_cons] at hended
        obtain ⟨⟨line, hfirst⟩, hrest⟩ := hended
        rw [List.flatten_cons, List.count_append, ih hrest, hfirst.count_newline,
          List.countP_cons, Nat.add_comm]
        simp only [beq_iff_eq]
  exact hlines _ fun full hfull => exists_ended_of_mem (List.mem_of_mem_take hfull)

/-- There are no more line feeds before a line than there are lines. -/
theorem count_newline_flatten_take_le (text : List Char) (count : Nat) :
    ((linesWithEnds text).take count).flatten.count '\n'
      ≤ ((linesWithEnds text).take count).length := by
  rw [count_newline_flatten_take]
  exact List.countP_le_length

/-- There are as many line feeds before a line as there are lines exactly if all of them end in
one. -/
theorem count_newline_flatten_take_eq_iff (text : List Char) (count : Nat) :
    ((linesWithEnds text).take count).flatten.count '\n'
        = ((linesWithEnds text).take count).length
      ↔ ∀ full ∈ (linesWithEnds text).take count, full.getLast? = some '\n' := by
  rw [count_newline_flatten_take, List.countP_eq_length]
  simp only [beq_iff_eq]

/-! ## Line feeds -/

/-- There is one line more than there are line feeds. -/
theorem length_splitNewlines (text : List Char) :
    (splitNewlines text).length = text.count '\n' + 1 := by
  induction text with
  | nil => rfl
  | cons c text ih =>
      by_cases hc : c = '\n'
      · rw [hc, splitNewlines_newline, List.length_cons, ih, List.count_cons_self]
      · obtain ⟨first, rest, htext⟩ := List.exists_cons_of_ne_nil (splitNewlines_ne_nil text)
        rw [splitNewlines_cons hc, htext, consFirst, List.length_cons,
          List.count_cons_of_ne hc, ← ih, htext, List.length_cons]

/-- There are as many pieces before the last as there are line feeds. -/
theorem exists_splitNewlines_eq_append (text : List Char) :
    ∃ front last, splitNewlines text = front ++ [last] ∧ front.length = text.count '\n' := by
  obtain ⟨front, last, hpieces⟩ :=
    List.eq_nil_or_concat (splitNewlines text) |>.resolve_left (splitNewlines_ne_nil text)
  have hlength := length_splitNewlines text
  rw [hpieces, List.length_concat, Nat.add_right_cancel_iff] at hlength
  exact ⟨front, last, by rw [hpieces, List.concat_eq_append], hlength⟩

/-- If all lines end in a line feed, so does what they make up. -/
theorem getLast?_flatten {lines : List (List Char)}
    (h : ∀ line ∈ lines, line.getLast? = some '\n') :
    lines.flatten = [] ∨ lines.flatten.getLast? = some '\n' := by
  rcases List.eq_nil_or_concat lines with rfl | ⟨front, last, rfl⟩
  · exact .inl rfl
  · have hlast : last.getLast? = some '\n' := h last (by simp)
    rw [List.concat_eq_append, List.flatten_append, List.flatten_singleton, List.getLast?_append,
      hlast]
    exact .inr rfl

/-- Behind a line feed, or at the very start, columns are counted from zero. -/
theorem endsAt_append {text lead : List Char} (htext : text = [] ∨ text.getLast? = some '\n')
    (hlead : '\n' ∉ lead) : EndsAt (text ++ lead) (text.count '\n' + 1) lead.length := by
  rcases htext with rfl | hlast
  · exact ⟨[], lead, splitNewlines_eq_singleton hlead, rfl, rfl⟩
  · obtain ⟨before, rfl⟩ := List.getLast?_eq_some_iff.mp hlast
    refine ⟨splitNewlines before, lead, ?_, ?_, rfl⟩
    · have hback : splitNewlines ('\n' :: lead) = [] :: [lead] := by
        rw [splitNewlines_newline, splitNewlines_eq_singleton hlead]
      rw [List.append_assoc, List.singleton_append, splitNewlines_append_right hback,
        List.append_nil]
    · rw [length_splitNewlines, List.count_append, List.count_singleton_self]

/-- The first lines joined are the start of all lines joined. -/
theorem joinNewlines_isPrefix {front : List (List Char)} (hfront : front ≠ [])
    (back : List (List Char)) : joinNewlines front <+: joinNewlines (front ++ back) := by
  obtain ⟨init, last, rfl⟩ := List.eq_nil_or_concat front |>.resolve_left hfront
  rw [List.concat_eq_append, List.append_assoc, List.singleton_append]
  have h := joinNewlines_append_cons init last [] back
  rw [List.append_nil] at h
  exact ⟨_, h.symm⟩

/-- The start of a text lies within its first lines, if these are more than the line feeds in it. -/
theorem isPrefix_joinNewlines_take {text start : List Char} (hstart : start <+: text) {count : Nat}
    (hcount : start.count '\n' < count) :
    start <+: joinNewlines ((splitNewlines text).take count) := by
  obtain ⟨rest, rfl⟩ := hstart
  obtain ⟨front, last, hfront, hlength⟩ := exists_splitNewlines_eq_append start
  obtain ⟨first, back, hback⟩ := List.exists_cons_of_ne_nil (splitNewlines_ne_nil rest)
  -- `last` is one of the first `count` lines, so `start` ends within them
  obtain ⟨more, rfl⟩ : ∃ more, count = front.length + (more + 1) :=
    ⟨count - (front.length + 1), by omega⟩
  rw [splitNewlines_append hfront hback, List.take_length_add_append, List.take_succ_cons,
    joinNewlines_append_cons, ← hfront, joinNewlines_splitNewlines]
  exact List.prefix_append _ _

/-! ## Texts put together from lines -/

/-- A line without the line feed at its end. -/
def withoutFeed (line : List Char) : List Char :=
  if line.getLast? = some '\n' then line.dropLast else line

theorem withoutFeed_concat (line : List Char) : withoutFeed (line ++ ['\n']) = line := by
  rw [withoutFeed, if_pos List.getLast?_concat, List.dropLast_concat]

theorem withoutFeed_append (front : List Char) {last : List Char} (hlast : last ≠ []) :
    withoutFeed (front ++ last) = front ++ withoutFeed last := by
  rw [withoutFeed, withoutFeed, List.getLast?_append_of_ne_nil _ hlast,
    List.dropLast_append_of_ne_nil hlast]
  split
  · rfl
  · rfl

/-- A line with its end holds no line feed but there. -/
theorem Ended.newline_notMem_withoutFeed {line full : List Char} (h : Ended line full) :
    '\n' ∉ withoutFeed full := by
  have hcount := h.count_newline
  by_cases hlast : full.getLast? = some '\n'
  · obtain ⟨body, rfl⟩ := List.getLast?_eq_some_iff.mp hlast
    rw [if_pos hlast, List.count_append, List.count_singleton_self] at hcount
    rw [withoutFeed_concat, ← List.count_eq_zero]
    omega
  · rw [if_neg hlast, List.count_eq_zero] at hcount
    rwa [withoutFeed, if_neg hlast]

/-- A line that is one piece without the line feed at its end has no other. -/
theorem count_newline_le_one {line : List Char} (h : '\n' ∉ withoutFeed line) :
    line.count '\n' ≤ 1 := by
  by_cases hlast : line.getLast? = some '\n'
  · obtain ⟨body, rfl⟩ := List.getLast?_eq_some_iff.mp hlast
    rw [withoutFeed_concat] at h
    rw [List.count_append, List.count_eq_zero.mpr h, List.count_singleton_self]
  · rw [withoutFeed, if_neg hlast] at h
    rw [List.count_eq_zero.mpr h]
    exact Nat.zero_le 1

/-- What stands before the first line feed is the first piece. -/
theorem splitNewlines_append_newline {line : List Char} (h : '\n' ∉ line) (rest : List Char) :
    splitNewlines (line ++ '\n' :: rest) = line :: splitNewlines rest := by
  rw [splitNewlines_append_right (splitNewlines_newline rest), List.append_nil,
    splitNewlines_eq_singleton h, List.singleton_append]

/-- Lines without a line feed inside give at most one piece each. -/
theorem count_newline_flatten_append_le {front : List (List Char)} {last : List Char}
    (hfront : ∀ line ∈ front, '\n' ∉ withoutFeed line) (hlast : '\n' ∉ last) :
    (front.flatten ++ last).count '\n' ≤ front.length := by
  rw [List.count_append, List.count_eq_zero.mpr hlast, Nat.add_zero, List.count_flatten]
  have hone : ∀ count ∈ front.map (List.count '\n'), count ≤ 1 := by
    intro count hcount
    obtain ⟨line, hline, rfl⟩ := List.mem_map.mp hcount
    exact count_newline_le_one (hfront line hline)
  simpa using List.sum_le_card_nsmul _ 1 hone

/-- A text put together from lines is split into these lines again exactly if each of them but the
last ends in a line feed, and there is no other line feed. -/
theorem splitNewlines_flatten_append_iff {front : List (List Char)} {last : List Char} :
    splitNewlines (front.flatten ++ last) = front.map withoutFeed ++ [last]
      ↔ (∀ line ∈ front, line.getLast? = some '\n' ∧ '\n' ∉ withoutFeed line) ∧ '\n' ∉ last := by
  induction front with
  | nil =>
      rw [List.flatten_nil, List.nil_append, List.map_nil, List.nil_append]
      constructor
      · intro hsplit
        exact ⟨by simp, newline_notMem_of_mem_splitNewlines (by rw [hsplit]; simp)⟩
      · exact fun h => splitNewlines_eq_singleton h.2
  | cons line front ih =>
      rw [List.flatten_cons, List.append_assoc, List.map_cons, List.cons_append,
        List.forall_mem_cons]
      -- a line that ends in a line feed is a piece of its own
      by_cases hfeed : line.getLast? = some '\n'
      · obtain ⟨body, rfl⟩ := List.getLast?_eq_some_iff.mp hfeed
        rw [withoutFeed_concat, List.append_assoc, List.singleton_append]
        constructor
        · intro hsplit
          have hbody : '\n' ∉ body :=
            newline_notMem_of_mem_splitNewlines (by rw [hsplit]; exact List.mem_cons_self)
          rw [splitNewlines_append_newline hbody, List.cons.injEq] at hsplit
          obtain ⟨hfront, hlast⟩ := ih.mp hsplit.2
          exact ⟨⟨⟨hfeed, hbody⟩, hfront⟩, hlast⟩
        · rintro ⟨⟨⟨-, hbody⟩, hfront⟩, hlast⟩
          rw [splitNewlines_append_newline hbody, ih.mpr ⟨hfront, hlast⟩]
      · -- the line and the next one share a piece, so that there is a piece too few
        rw [withoutFeed, if_neg hfeed]
        constructor
        · intro hsplit
          have hpieces : ∀ piece ∈ line :: (front.map withoutFeed ++ [last]), '\n' ∉ piece :=
            fun piece hpiece => newline_notMem_of_mem_splitNewlines (hsplit ▸ hpiece)
          rw [List.forall_mem_cons, List.forall_mem_append, List.forall_mem_singleton,
            List.forall_mem_map] at hpieces
          obtain ⟨hline, hfront, hlast⟩ := hpieces
          have hlength := congrArg List.length hsplit
          rw [length_splitNewlines, List.count_append, List.count_eq_zero.mpr hline,
            List.length_cons, List.length_append, List.length_map, List.length_singleton] at hlength
          have hle := count_newline_flatten_append_le hfront hlast
          omega
        · exact fun h => absurd h.1.1.1 hfeed

end ScriptAdvisor.Text
