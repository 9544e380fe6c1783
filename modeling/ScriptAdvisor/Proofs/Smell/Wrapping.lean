import ScriptAdvisor.Proofs.Smell.Address

/-! # A literal that is wrapped in a call

What is suggested for a literal is a call that has it as its last argument. A scan of the changed
line comes to the literal again. The text put in front of it has two quotes, and from neither of
them a literal of its own starts: between them stands the name of a property, behind them a comma
and a blank. What may happen is that a quote far to the left, which opened nothing before, opens a
literal that the first of the new quotes closes. That is one more, and the scan is back in step
before it comes to the wrapped one.

* `HardcodedValue.eq_some_cons_iff` and `HardcodedValue.eq_none_cons` say what a pattern for
  literals takes at a quote.
* `HardcodedValue.wrapping` is the text in front; `HardcodedValue.arrives_wrapping`: a scan passes
  over it.
* `HardcodedValue.exists_arrives_wrapping` follows the two scans up to the literal.
* `HardcodedValue.spans_wrapped`: the literal is found again, and no fewer literals than before. -/

namespace ScriptAdvisor.HardcodedValue

open Text

variable {content : List Char → Prop} {pattern : List Char → Option Nat}

/-! ## Patterns at a quote -/

/-- Characters that are no quotes. -/
def IsPlain (text : List Char) : Prop := ∀ c ∈ text, isQuote c = false

instance (text : List Char) : Decidable (IsPlain text) :=
  decidable_of_iff (text.any isQuote = false) (by simp [IsPlain])

theorem isPlain_append {text more : List Char} :
    IsPlain (text ++ more) ↔ IsPlain text ∧ IsPlain more := List.forall_mem_append

/-- Where the first quote of a text stands. -/
theorem takeWhile_eq_of_isPlain {text rest : List Char} {quote : Char} (htext : IsPlain text)
    (hquote : isQuote quote = true) : (text ++ quote :: rest).takeWhile (!isQuote ·) = text := by
  rw [List.takeWhile_append_of_pos fun c hc => by simp [htext c hc],
    List.takeWhile_cons_of_neg (by simp [hquote]), List.append_nil]

/-- A text is plain, or it has a first quote. -/
theorem isPlain_or_exists_quote (text : List Char) :
    IsPlain text ∨ ∃ word quote rest, text = word ++ quote :: rest ∧ IsPlain word
      ∧ isQuote quote = true := by
  induction text with
  | nil => exact .inl (by simp [IsPlain])
  | cons c text ih =>
      by_cases hc : isQuote c = true
      · exact .inr ⟨[], c, text, rfl, by simp [IsPlain], hc⟩
      · have hplain : isQuote c = false := by simpa using hc
        rcases ih with htext | ⟨word, quote, rest, rfl, hword, hquote⟩
        · exact .inl (List.forall_mem_cons.mpr ⟨hplain, htext⟩)
        · exact .inr ⟨c :: word, quote, rest, rfl, List.forall_mem_cons.mpr ⟨hplain, hword⟩, hquote⟩

section Recognizes

variable (h : Recognizes pattern (IsQuoted content)) {c quote : Char} {word rest : List Char}
include h

/-- A pattern takes a quote, what stands before the next one, and that. -/
theorem eq_some_cons_iff {taken : Nat} : pattern (c :: rest) = some taken
    ↔ ∃ word quote behind, rest = word ++ quote :: behind ∧ isQuote c = true ∧ isQuote quote = true
      ∧ IsPlain word ∧ content word ∧ taken = word.length + 2 := by
  rw [h.eq_some_iff]
  constructor
  · rintro ⟨_, behind, hcut, hliteral, rfl⟩
    obtain ⟨opening, word, closing, rfl, hopening, hclosing, hword, hcontent⟩ := hliteral
    rw [List.cons_append, List.cons_append, List.append_assoc] at hcut
    obtain ⟨rfl, hrest⟩ := List.cons.inj hcut
    exact ⟨word, closing, behind, hrest, hopening, hclosing, hword, hcontent, by simp⟩
  · rintro ⟨word, quote, behind, rfl, hc, hquote, hword, hcontent, rfl⟩
    exact ⟨c :: word ++ [quote], behind, by simp,
      ⟨c, word, quote, rfl, hc, hquote, hword, hcontent⟩, by simp⟩

/-- Nothing starts at a character that is no quote. -/
theorem eq_none_of_isPlain (hc : isQuote c = false) (rest : List Char) :
    pattern (c :: rest) = none := by
  rw [Option.eq_none_iff_forall_ne_some]
  intro taken htaken
  obtain ⟨-, -, -, -, hquote, -⟩ := (eq_some_cons_iff h).mp htaken
  rw [hc] at hquote
  contradiction

/-- Nothing starts at a quote if what stands before the next one is not the content of a literal. -/
theorem eq_none_cons (hword : IsPlain word) (hquote : isQuote quote = true)
    (hcontent : ¬content word) (rest : List Char) :
    pattern (c :: (word ++ quote :: rest)) = none := by
  rw [Option.eq_none_iff_forall_ne_some]
  intro taken htaken
  obtain ⟨other, closing, behind, hcut, -, hclosing, hother, hholds, -⟩ :=
    (eq_some_cons_iff h).mp htaken
  have hsame := congrArg (List.takeWhile (!isQuote ·)) hcut
  rw [takeWhile_eq_of_isPlain hword hquote, takeWhile_eq_of_isPlain hother hclosing] at hsame
  exact hcontent (hsame ▸ hholds)

/-- If something starts at a quote, it is a literal that ends at the next quote. -/
theorem isQuoted_of_ne_none (hword : IsPlain word) (hquote : isQuote quote = true)
    (hsome : pattern (c :: (word ++ quote :: rest)) ≠ none) :
    IsQuoted content (c :: (word ++ [quote])) := by
  refine ⟨c, word, quote, rfl, ?_, hquote, hword, ?_⟩
  · by_contra hc
    exact hsome (eq_none_of_isPlain h (by simpa using hc) _)
  · by_contra hcontent
    exact hsome (eq_none_cons h hword hquote hcontent rest)

/-- What starts or does not start at a character depends on the text up to the next quote. -/
theorem isPlain_of_ne_none {lead rest' : List Char} (hnone : pattern (c :: (lead ++ rest)) = none)
    (hsome : pattern (c :: (lead ++ rest')) ≠ none) : IsPlain lead := by
  rcases isPlain_or_exists_quote lead with hplain | ⟨word, quote, more, rfl, hword, hquote⟩
  · exact hplain
  · rw [List.append_assoc, List.cons_append] at hsome hnone
    have htaken := h.append (isQuoted_of_ne_none h hword hquote hsome) (more ++ rest)
    rw [List.cons_append, List.append_assoc, List.singleton_append, hnone] at htaken
    contradiction

/-- A text without quotes is passed over. -/
theorem arrives_of_isPlain (hword : IsPlain word) (place : Nat) (rest : List Char) :
    Arrives pattern place word rest [] :=
  spans_append_of_none (fun _ hc rest => eq_none_of_isPlain h (hword _ hc) rest) rest

/-- A literal is passed over at once. -/
theorem arrives_literal {literal : List Char} (hliteral : IsQuoted content literal) (place : Nat)
    (rest : List Char) :
    Arrives pattern place literal rest [⟨place, place + literal.length⟩] :=
  arrives_taken (h.pos hliteral) (h.append hliteral rest)

/-- A literal in front of another one that is found ends before that. -/
theorem exists_literal_before {lead : List Char} {taken place : Nat}
    (hpattern : pattern (c :: (lead ++ rest)) = some taken)
    (hfound : ∃ span ∈ spans pattern place (c :: lead ++ rest),
      span.start = place + (c :: lead).length) :
    ∃ literal later, c :: lead = literal ++ later ∧ IsQuoted content literal
      ∧ ∃ span ∈ spans pattern (place + literal.length) (later ++ rest),
        span.start = place + literal.length + later.length := by
  obtain ⟨word, closing, behind, hcut, hc, hclosing, hword, hcontent, rfl⟩ :=
    (eq_some_cons_iff h).mp hpattern
  have hshape : IsQuoted content (c :: (word ++ [closing])) :=
    ⟨c, word, closing, rfl, hc, hclosing, hword, hcontent⟩
  have hbehind := exists_found_behind hpattern hfound (by simp only [List.length_cons]; omega)
  have hends : word ++ [closing] <+: lead := by
    obtain ⟨span, hspan, hstart⟩ := hbehind
    have hle := le_start_of_mem_spans hspan
    have htaken : word ++ [closing] <+: lead ++ rest :=
      ⟨behind, by rw [hcut, List.append_assoc, List.singleton_append]⟩
    refine List.prefix_of_prefix_length_le htaken (List.prefix_append lead rest) ?_
    simp only [hstart, List.length_cons, List.length_append, List.length_nil] at hle ⊢
    omega
  obtain ⟨later, rfl⟩ := hends
  refine ⟨c :: (word ++ [closing]), later, rfl, hshape, ?_⟩
  have hdrop : (word ++ [closing] ++ later ++ rest).drop (word.length + 1) = later ++ rest := by
    rw [List.append_assoc]
    exact List.drop_left' (by simp)
  have hlength : place + (c :: (word ++ [closing] ++ later)).length
      = place + (c :: (word ++ [closing])).length + later.length := by
    simp only [List.length_cons, List.length_append]
    omega
  rw [hdrop, hlength] at hbehind
  simpa using hbehind

/-- A character is passed over with what stands before the next quote, unless that is the content of
a literal. -/
theorem arrives_cons (hword : IsPlain word) (hquote : isQuote quote = true)
    (hcontent : ¬content word) (place : Nat) (rest : List Char) :
    Arrives pattern place (c :: word) (quote :: rest) [] :=
  (arrives_singleton (eq_none_cons h hword hquote hcontent rest)).append
    (arrives_of_isPlain h hword _ _)

end Recognizes

/-! ## The text in front of a literal -/

/-- The name of the function that looks a property up, with an opening parenthesis. -/
def lookupName : List Char := "gs.getProperty(".toList

/-- The name of the property. -/
def propertyPath (name : String) : List Char := "x_app.config.".toList ++ name.toList

/-- What stands between the name of the property and the literal. -/
def argumentGap : List Char := ", ".toList

/-- The text that is put in front of a literal. -/
def wrapping (name : String) : List Char :=
  lookupName ++ ('\'' :: propertyPath name ++ '\'' :: argumentGap)

/-- Literals of a kind start with the letter of the scheme or have an at sign. -/
def IsMarked (content : List Char → Prop) : Prop :=
  ∀ text, content text → text.head? = some 'h' ∨ '@' ∈ text

/-- A name of which nothing is taken for a literal. -/
structure IsPropertyName (name : String) : Prop where
  /-- There are no quotes in it. -/
  isPlain : IsPlain name.toList
  /-- There is no at sign in it. -/
  at_notMem : '@' ∉ name.toList

section Wrapping

variable {name : String} {quote : Char}

theorem isPlain_propertyPath (hname : IsPropertyName name) : IsPlain (propertyPath name) :=
  isPlain_append.mpr ⟨by decide, hname.isPlain⟩

theorem not_content_propertyPath (hmarked : IsMarked content) (hname : IsPropertyName name) :
    ¬content (propertyPath name) := by
  intro hcontent
  rcases hmarked _ hcontent with hhead | hat
  · have hfirst : (propertyPath name).head? = some 'x' := rfl
    rw [hfirst] at hhead
    contradiction
  · rcases List.mem_append.mp hat with hmem | hmem
    · exact absurd hmem (by decide)
    · exact hname.at_notMem hmem

theorem not_content_argumentGap (hmarked : IsMarked content) : ¬content argumentGap := by
  intro hcontent
  rcases hmarked _ hcontent with hhead | hat
  · exact absurd hhead (by decide)
  · exact absurd hat (by decide)

variable (h : Recognizes pattern (IsQuoted content)) (hmarked : IsMarked content)
  (hname : IsPropertyName name) (hquote : isQuote quote = true)
include h hmarked hname hquote

/-- Nothing is found between the first quote in front of a literal and the literal. -/
theorem arrives_behind_quote (place : Nat) (rest : List Char) :
    Arrives pattern place (propertyPath name ++ '\'' :: argumentGap) (quote :: rest) [] :=
  (arrives_of_isPlain h (isPlain_propertyPath hname) place _).append
    (arrives_cons h (by decide) hquote (not_content_argumentGap hmarked) _ rest)

/-- Nothing is found in the text in front of a literal. -/
theorem arrives_wrapping (place : Nat) (rest : List Char) :
    Arrives pattern place (wrapping name) (quote :: rest) [] := by
  have hpath : Arrives pattern (place + lookupName.length) ('\'' :: propertyPath name)
      ('\'' :: argumentGap ++ quote :: rest) [] :=
    arrives_cons h (isPlain_propertyPath hname) rfl (not_content_propertyPath hmarked hname) _ _
  have hgap : Arrives pattern (place + lookupName.length + ('\'' :: propertyPath name).length)
      ('\'' :: argumentGap) (quote :: rest) [] :=
    arrives_cons h (by decide) hquote (not_content_argumentGap hmarked) _ rest
  exact (arrives_of_isPlain h (by decide) place _).append (hpath.append hgap)

/-- A literal that was not there before ends at the first quote in front of the wrapped one. -/
theorem arrives_new_literal {c : Char} {lead : List Char} (hlead : IsPlain lead) (place : Nat)
    {rest : List Char} (hsome : pattern (c :: (lead ++ (wrapping name ++ quote :: rest))) ≠ none) :
    ∃ span, Arrives pattern place (c :: lead ++ wrapping name) (quote :: rest) [span] := by
  have hword : IsPlain (lead ++ lookupName) := isPlain_append.mpr ⟨hlead, by decide⟩
  have hsome' : pattern (c :: (lead ++ lookupName ++ '\''
      :: (propertyPath name ++ '\'' :: argumentGap ++ quote :: rest))) ≠ none := by
    simpa [wrapping] using hsome
  have hliteral : IsQuoted content (c :: (lead ++ lookupName ++ ['\''])) :=
    isQuoted_of_ne_none h hword (by decide) hsome'
  have hcut : c :: lead ++ wrapping name
      = c :: (lead ++ lookupName ++ ['\'']) ++ (propertyPath name ++ '\'' :: argumentGap) := by
    simp [wrapping]
  rw [hcut]
  exact ⟨_, (arrives_literal h hliteral place _).append
    (arrives_behind_quote h hmarked hname hquote _ rest)⟩

/-! ## The line before and after -/

/-- A line is scanned up to a literal that is found there, and once more with the literal wrapped.
On the way as many literals are found as before, or one more. -/
theorem exists_arrives_wrapping {lead rest : List Char} {place : Nat} (rest' : List Char)
    (hfound : ∃ span ∈ spans pattern place (lead ++ quote :: rest),
      span.start = place + lead.length) :
    ∃ found found', Arrives pattern place lead (quote :: rest) found
      ∧ Arrives pattern place (lead ++ wrapping name) (quote :: rest') found'
      ∧ found.length ≤ found'.length := by
  induction hlength : lead.length using Nat.strong_induction_on generalizing lead place with
  | _ length ih =>
      subst hlength
      cases lead with
      | nil =>
          exact ⟨[], [], rfl, arrives_wrapping h hmarked hname hquote place rest', le_rfl⟩
      | cons c lead =>
          cases hpattern : pattern (c :: (lead ++ quote :: rest)) with
          | some taken =>
              -- a literal that starts here ends before the wrapped one, and is found again
              obtain ⟨literal, later, hcut, hliteral, hnext⟩ :=
                exists_literal_before h hpattern hfound
              have hshorter : later.length < (c :: lead).length := by
                have hpos := h.pos hliteral
                rw [hcut, List.length_append]
                omega
              obtain ⟨found, found', harrives, harrives', hle⟩ := ih _ hshorter hnext rfl
              rw [hcut, List.append_assoc]
              exact ⟨_, _, (arrives_literal h hliteral place _).append harrives,
                (arrives_literal h hliteral place _).append harrives', by simpa using hle⟩
          | none =>
              by_cases hpattern' : pattern (c :: (lead ++ (wrapping name ++ quote :: rest'))) = none
              · -- nothing starts here, neither before nor after
                have hnext : ∃ span ∈ spans pattern (place + 1) (lead ++ quote :: rest),
                    span.start = place + 1 + lead.length := by
                  rw [List.cons_append, spans_cons_of_none hpattern, List.length_cons] at hfound
                  simpa only [Nat.add_assoc, Nat.add_comm 1] using hfound
                obtain ⟨found, found', harrives, harrives', hle⟩ :=
                  ih lead.length (Nat.lt_succ_self _) hnext rfl
                rw [← List.append_assoc] at hpattern'
                exact ⟨_, _, (arrives_singleton hpattern).append harrives,
                  (arrives_singleton hpattern').append harrives', hle⟩
              · -- the new text closes a literal here, and there was none before the wrapped one
                have hplain := isPlain_of_ne_none h hpattern hpattern'
                obtain ⟨span, harrives'⟩ :=
                  arrives_new_literal h hmarked hname hquote hplain place hpattern'
                exact ⟨_, _, (arrives_singleton hpattern).append (arrives_of_isPlain h hplain _ _),
                  harrives', Nat.zero_le _⟩

end Wrapping

/-- A literal that is found on a line is found again once it is wrapped, moved by the text in front.
No fewer literals are found on the line than before. -/
theorem spans_wrapped (h : Recognizes pattern (IsQuoted content)) (hmarked : IsMarked content)
    {name : String} (hname : IsPropertyName name) {lead literal behind : List Char}
    (hliteral : IsQuoted content literal)
    (hfound : ⟨lead.length, lead.length + literal.length⟩
      ∈ spans pattern 0 (lead ++ (literal ++ behind))) :
    ⟨lead.length + (wrapping name).length, lead.length + (wrapping name).length + literal.length⟩
        ∈ spans pattern 0 (lead ++ wrapping name ++ (literal ++ ')' :: behind))
      ∧ (spans pattern 0 (lead ++ (literal ++ behind))).length
        ≤ (spans pattern 0 (lead ++ wrapping name ++ (literal ++ ')' :: behind))).length := by
  obtain ⟨quote, word, closing, hcut, hquote, -⟩ := id hliteral
  have hhead : literal = quote :: (word ++ [closing]) := hcut
  obtain ⟨found, found', hbefore, hafter, hle⟩ : ∃ found found',
      Arrives pattern 0 lead (literal ++ behind) found
        ∧ Arrives pattern 0 (lead ++ wrapping name) (literal ++ ')' :: behind) found'
        ∧ found.length ≤ found'.length := by
    rw [hhead] at hfound ⊢
    exact exists_arrives_wrapping h hmarked hname hquote _ ⟨_, hfound, (Nat.zero_add _).symm⟩
  have hclosing : pattern (')' :: behind) = none := eq_none_of_isPlain h (by decide) behind
  rw [hbefore, hafter, arrives_literal h hliteral, arrives_literal h hliteral,
    spans_cons_of_none hclosing]
  constructor
  · refine List.mem_append_right _ (List.mem_append_left _ ?_)
    rw [List.mem_singleton, List.length_append, Nat.zero_add]
  · simp only [List.length_append, List.length_singleton]
    rw [length_spans pattern _ 0 behind, length_spans pattern (_ + 1) 0 behind]
    omega

end ScriptAdvisor.HardcodedValue
