import Mathlib.Data.List.TakeWhile
import ScriptAdvisor.Proofs.Text.Leftmost
import ScriptAdvisor.Smell.HardcodedValue

/-! # Which addresses in quotes are found

The rule scans every line twice, for web addresses and for mail addresses in quotes. Any of the two
kinds of quotes may open a literal and any may close it, so the quote that closes one literal may be
tried as the one that opens the next. What the scans take is said here without them: a literal is a
text without quotes between two quotes, and what stands between them is told by `IsWebAddress` and
`IsMailAddress`.

* `recognizes_urlLength?` and `recognizes_emailLength?` say what the two patterns take.
* `HardcodedValue.check_eq_leftmost`: the findings are the leftmost literals of each line, those
  with a web address first. -/

namespace ScriptAdvisor.HardcodedValue

open Text

/-! ## Literals -/

/-- A text without quotes, of which `content` holds, between two quotes. -/
def IsQuoted (content : List Char → Prop) (literal : List Char) : Prop :=
  ∃ opening text closing, literal = opening :: text ++ [closing] ∧ isQuote opening = true
    ∧ isQuote closing = true ∧ (∀ c ∈ text, isQuote c = false) ∧ content text

/-- A scheme and at least one more character. -/
def IsWebAddress (text : List Char) : Prop :=
  ∃ host, host ≠ [] ∧ (text = "http://".toList ++ host ∨ text = "https://".toList ++ host)

/-- A name, an at sign and a domain, none of them with blanks. The at sign is the first one, and the
domain has a dot that is neither its first nor its last character. -/
def IsMailAddress (text : List Char) : Prop :=
  ∃ name domain, text = name ++ '@' :: domain ∧ (∀ c ∈ name, c ≠ '@' ∧ isBlank c = false)
    ∧ (∀ c ∈ domain, isBlank c = false)
    ∧ ∃ before behind, before ≠ [] ∧ behind ≠ [] ∧ domain = before ++ '.' :: behind

variable {content : List Char → Prop} {text literal : List Char}

theorem not_isQuoted_nil : ¬IsQuoted content [] := by
  rintro ⟨opening, text, closing, h, -⟩
  exact List.cons_ne_nil _ _ h.symm

/-- A literal has room for its two quotes. -/
theorem IsQuoted.two_le_length (h : IsQuoted content literal) : 2 ≤ literal.length := by
  obtain ⟨opening, text, closing, rfl, -⟩ := h
  simp

/-- Between the first and the last character of a literal there is no quote. -/
theorem IsQuoted.isQuote_eq_false (h : IsQuoted content literal) {place : Nat} (hpos : 0 < place)
    (hlt : place + 1 < literal.length) {c : Char} (hc : literal[place]? = some c) :
    isQuote c = false := by
  obtain ⟨opening, text, closing, rfl, -, -, htext, -⟩ := h
  obtain ⟨inner, rfl⟩ := Nat.exists_eq_add_of_lt hpos
  have hinner : inner < text.length := by
    simp only [List.cons_append, List.length_cons, List.length_append, List.length_nil] at hlt
    omega
  rw [Nat.zero_add, List.cons_append, List.getElem?_cons_succ,
    List.getElem?_append_left hinner] at hc
  exact htext c (List.mem_of_getElem? hc)

/-! ## What the patterns take -/

theorem afterScheme?_eq_some_iff {rest : List Char} :
    afterScheme? text = some rest
      ↔ text = "http://".toList ++ rest ∨ text = "https://".toList ++ rest := by
  constructor
  · intro h
    rw [afterScheme?] at h
    split at h
    · rename_i rest' hhttp
      rw [eq_append_of_after? hhttp, eq_append_of_after? h]
      exact .inr rfl
    · rename_i rest' hhttp
      rw [eq_append_of_after? hhttp, eq_append_of_after? h]
      exact .inl rfl
    · contradiction
  · rintro (rfl | rfl)
    · rfl
    · rfl

/-- A scheme has no quotes, and what stands behind it makes it a web address. -/
theorem exists_scheme {rest : List Char} (h : afterScheme? text = some rest) :
    ∃ scheme, text = scheme ++ rest ∧ (∀ c ∈ scheme, isQuote c = false)
      ∧ ∀ host, host ≠ [] → IsWebAddress (scheme ++ host) := by
  rcases afterScheme?_eq_some_iff.mp h with htext | htext
  · exact ⟨_, htext, by simp [isQuote], fun host hhost => ⟨host, hhost, .inl rfl⟩⟩
  · exact ⟨_, htext, by simp [isQuote], fun host hhost => ⟨host, hhost, .inr rfl⟩⟩

/-- Where the characters of a class end. -/
theorem eq_takeWhile_append_of_dropWhile {p : Char → Bool} {c : Char} {rest : List Char}
    (h : text.dropWhile p = c :: rest) : text = text.takeWhile p ++ c :: rest ∧ p c = false := by
  have hends := List.head?_dropWhile_not p text
  rw [h] at hends
  refine ⟨?_, hends⟩
  rw [← h, List.takeWhile_append_dropWhile]

section Cut

variable {opening closing : Char} {behind : List Char}

/-- A text that starts with a quote, behind which a text without quotes and another quote follow,
starts with a literal. Its length is that of the text without what stands behind it. -/
theorem exists_isQuoted_append (hopening : isQuote opening = true)
    (hclosing : isQuote closing = true) (htext : ∀ c ∈ text, isQuote c = false)
    (hcontent : content text) :
    ∃ inside rest, opening :: (text ++ closing :: behind) = inside ++ rest
      ∧ IsQuoted content inside
      ∧ (text ++ closing :: behind).length + 1 - behind.length = inside.length := by
  refine ⟨opening :: text ++ [closing], behind, by simp, ?_, ?_⟩
  · exact ⟨opening, text, closing, rfl, hopening, hclosing, htext, hcontent⟩
  · simp only [List.length_append, List.length_cons, List.length_nil]
    omega

end Cut

/-- The pattern for web addresses takes a literal with a web address. -/
theorem recognizes_urlLength? : Recognizes urlLength? (IsQuoted IsWebAddress) := by
  refine ⟨fun text taken => ⟨fun h => ?_, ?_⟩, not_isQuoted_nil⟩
  · cases text with
    | nil => contradiction
    | cons opening text =>
        rw [urlLength?] at h
        split at h
        · rename_i hopening
          split at h
          · rename_i rest hscheme
            split at h
            · rename_i d host closing behind hhost hbehind
              obtain ⟨hrest, hclosing⟩ := eq_takeWhile_append_of_dropWhile hbehind
              rw [hhost] at hrest
              have hinner : ∀ c ∈ d :: host, isQuote c = false := by
                rw [← hhost]
                intro c hc
                simpa using List.mem_takeWhile_imp hc
              obtain ⟨scheme, rfl, hplain, haddress⟩ := exists_scheme hscheme
              rw [← Option.some.inj h, hrest, ← List.append_assoc]
              exact exists_isQuoted_append hopening (by simpa using hclosing)
                (List.forall_mem_append.mpr ⟨hplain, hinner⟩)
                (haddress _ (List.cons_ne_nil d host))
            · contradiction
          · contradiction
        · contradiction
  · rintro ⟨inside, rest, rfl, ⟨opening, text, closing, rfl, hopening, hclosing, htext, haddress⟩,
      rfl⟩
    obtain ⟨host, hhost, haddress⟩ := haddress
    have hscheme : afterScheme? (text ++ closing :: rest) = some (host ++ closing :: rest) := by
      rw [afterScheme?_eq_some_iff, ← List.append_assoc, ← List.append_assoc]
      exact haddress.imp (congrArg (· ++ _)) (congrArg (· ++ _))
    have hquotes : ∀ c ∈ host, (!isQuote c) = true := by
      intro c hc
      have hmem : c ∈ text := by
        rcases haddress with rfl | rfl
        · exact List.mem_append_right _ hc
        · exact List.mem_append_right _ hc
      rw [htext c hmem]
      rfl
    have htake : (host ++ closing :: rest).takeWhile (!isQuote ·) = host := by
      rw [List.takeWhile_append_of_pos hquotes, List.takeWhile_cons_of_neg (by simp [hclosing]),
        List.append_nil]
    have hdrop : (host ++ closing :: rest).dropWhile (!isQuote ·) = closing :: rest := by
      rw [List.dropWhile_append_of_pos hquotes, List.dropWhile_cons_of_neg (by simp [hclosing])]
    obtain ⟨d, host', rfl⟩ := List.exists_cons_of_ne_nil hhost
    rw [List.append_assoc, List.cons_append, List.singleton_append, urlLength?, if_pos hopening,
      hscheme]
    simp only [htake, hdrop, List.length_append, List.length_cons, List.length_nil,
      Option.some.injEq]
    omega

theorem isAddressChar_eq_true_iff {c : Char} :
    isAddressChar c = true ↔ isQuote c = false ∧ isBlank c = false := by
  simp [isAddressChar]

/-- A dot that is neither the first nor the last character of a text. -/
theorem hasInnerDot_iff : hasInnerDot text = true
    ↔ ∃ before behind, before ≠ [] ∧ behind ≠ [] ∧ text = before ++ '.' :: behind := by
  rw [hasInnerDot, List.contains_iff_mem]
  constructor
  · intro h
    obtain ⟨before, behind, hinner⟩ := List.append_of_mem h
    cases text with
    | nil => contradiction
    | cons first text =>
        rcases List.eq_nil_or_concat text with rfl | ⟨inner, last, rfl⟩
        · contradiction
        · rw [List.concat_eq_append] at hinner ⊢
          rw [List.drop_succ_cons, List.drop_zero, List.dropLast_concat] at hinner
          refine ⟨first :: before, behind ++ [last], List.cons_ne_nil _ _, by simp, ?_⟩
          rw [hinner]
          simp
  · rintro ⟨before, behind, hbefore, hbehind, rfl⟩
    obtain ⟨first, before, rfl⟩ := List.exists_cons_of_ne_nil hbefore
    rw [List.cons_append, List.drop_succ_cons, List.drop_zero,
      List.dropLast_append_of_ne_nil (List.cons_ne_nil _ _)]
    refine List.mem_append_right _ ?_
    rw [List.dropLast_cons_of_ne_nil hbehind]
    exact List.mem_cons_self

/-- The pattern for mail addresses takes a literal with a mail address. -/
theorem recognizes_emailLength? : Recognizes emailLength? (IsQuoted IsMailAddress) := by
  refine ⟨fun text taken => ⟨fun h => ?_, ?_⟩, not_isQuoted_nil⟩
  · cases text with
    | nil => contradiction
    | cons opening text =>
        rw [emailLength?] at h
        split at h
        · rename_i hopening
          split at h
          · rename_i rest hname
            split at h
            · rename_i closing behind hdomain
              split at h
              · rename_i hends
                rw [Bool.and_eq_true, hasInnerDot_iff] at hends
                obtain ⟨hclosing, hdot⟩ := hends
                obtain ⟨htext, -⟩ := eq_takeWhile_append_of_dropWhile hname
                obtain ⟨hrest, -⟩ := eq_takeWhile_append_of_dropWhile hdomain
                generalize hlead : text.takeWhile (fun c => isAddressChar c && c != '@') = lead
                  at htext
                generalize hmore : rest.takeWhile isAddressChar = domain at hrest hdot
                have hleading : ∀ c ∈ lead, isAddressChar c = true ∧ c ≠ '@' := by
                  rw [← hlead]
                  intro c hc
                  simpa using List.mem_takeWhile_imp hc
                have hfollowing : ∀ c ∈ domain, isAddressChar c = true := by
                  rw [← hmore]
                  exact fun c hc => List.mem_takeWhile_imp hc
                simp only [isAddressChar_eq_true_iff] at hleading hfollowing
                have haddress : IsMailAddress (lead ++ '@' :: domain) :=
                  ⟨lead, domain, rfl, fun c hc => ⟨(hleading c hc).2, (hleading c hc).1.2⟩,
                    fun c hc => (hfollowing c hc).2, hdot⟩
                have hplain : ∀ c ∈ lead ++ '@' :: domain, isQuote c = false := by
                  rw [List.forall_mem_append, List.forall_mem_cons]
                  exact ⟨fun c hc => (hleading c hc).1.1, by decide,
                    fun c hc => (hfollowing c hc).1⟩
                have hcut : text = (lead ++ '@' :: domain) ++ closing :: behind := by
                  rw [htext, hrest, List.append_assoc, List.cons_append]
                rw [← Option.some.inj h, hcut]
                exact exists_isQuoted_append hopening hclosing hplain haddress
              · contradiction
            · contradiction
          · contradiction
        · contradiction
  · rintro ⟨inside, rest, rfl, ⟨opening, text, closing, rfl, hopening, hclosing, htext, haddress⟩,
      rfl⟩
    obtain ⟨name, domain, rfl, hname, hdomain, hdot⟩ := haddress
    rw [List.forall_mem_append, List.forall_mem_cons] at htext
    have hleading : ∀ c ∈ name, (isAddressChar c && c != '@') = true := by
      intro c hc
      rw [Bool.and_eq_true, isAddressChar_eq_true_iff, bne_iff_ne]
      exact ⟨⟨htext.1 c hc, (hname c hc).2⟩, (hname c hc).1⟩
    have hfollowing : ∀ c ∈ domain, isAddressChar c = true := by
      intro c hc
      exact isAddressChar_eq_true_iff.mpr ⟨htext.2.2 c hc, hdomain c hc⟩
    have hends : isAddressChar closing = false := by
      rw [isAddressChar, hclosing]
      rfl
    have hdropName : (name ++ '@' :: (domain ++ closing :: rest)).dropWhile
        (fun c => isAddressChar c && c != '@') = '@' :: (domain ++ closing :: rest) := by
      rw [List.dropWhile_append_of_pos hleading, List.dropWhile_cons_of_neg (by simp)]
    have htake : (domain ++ closing :: rest).takeWhile isAddressChar = domain := by
      rw [List.takeWhile_append_of_pos hfollowing, List.takeWhile_cons_of_neg (by simp [hends]),
        List.append_nil]
    have hdrop : (domain ++ closing :: rest).dropWhile isAddressChar = closing :: rest := by
      rw [List.dropWhile_append_of_pos hfollowing, List.dropWhile_cons_of_neg (by simp [hends])]
    have hcut : opening :: (name ++ '@' :: domain) ++ [closing] ++ rest
        = opening :: (name ++ '@' :: (domain ++ closing :: rest)) := by
      simp
    rw [hcut, emailLength?, if_pos hopening, hdropName]
    simp only [htake, hdrop, hclosing, hasInnerDot_iff.mpr hdot, Bool.and_self, if_true,
      List.length_append, List.length_cons, List.length_nil, Option.some.injEq]
    omega

/-! ## The findings -/

/-- The finding at a literal on the line with the given number. Lines and columns are counted from
one, places from zero. -/
def findingAt (kind : String) (number : Nat) (span : Span) : Violation :=
  { ruleId := "glide-hardcoded-values"
    message := "Hardcoded " ++ kind ++ " detected. Consider using system properties."
    severity := .low, line := number, column := span.start + 1
    endLine := some (number : Int), endColumn := some (span.stop + 1 : Int) }

/-- The findings of one kind, line by line. -/
def findingsOf (kind : String) (literalsOn : List Char → List Span) (lines : List (List Char)) :
    List Violation :=
  (lines.zipIdx 1).flatMap fun (line, number) => (literalsOn line).map (findingAt kind number)

/-- A stretch lies in a text and has no quote but at its ends. -/
structure Encloses (text : List Char) (span : Span) : Prop where
  /-- It is not empty. -/
  start_lt_stop : span.start < span.stop
  /-- It ends within the text. -/
  stop_le_length : span.stop ≤ text.length
  /-- There is no quote strictly inside. -/
  inside : ∀ place c, span.start < place → place + 1 < span.stop → text[place]? = some c →
    isQuote c = false

theorem encloses_of_isStretch {span : Span} (h : IsStretch (IsQuoted content) text span) :
    Encloses text span := by
  obtain ⟨lead, literal, rest, rfl, hliteral, rfl⟩ := h
  have hroom := hliteral.two_le_length
  refine ⟨by simp only; omega, by simp, fun place c hlt hle hc => ?_⟩
  simp only at hlt hle
  obtain ⟨inner, rfl⟩ := Nat.exists_eq_add_of_le hlt.le
  -- the place is one of the literal
  rw [List.append_assoc, List.getElem?_append_right (Nat.le_add_right _ _), Nat.add_sub_cancel_left,
    List.getElem?_append_left (by omega)] at hc
  exact hliteral.isQuote_eq_false (by omega) (by omega) hc

theorem encloses_of_isLeftmost {found : List Span}
    (h : IsLeftmost (IsQuoted content) text found) : ∀ span ∈ found, Encloses text span := by
  intro span hspan
  exact encloses_of_isStretch ((h.mem_iff span).mp hspan).1

/-- The rule always comes to an end with a list. It has all web addresses first and then all mail
addresses, line by line, and on a line the leftmost literals of the kind, from left to right. They
lie in the line and apart from each other, and have no quotes inside. -/
theorem check_eq_leftmost (context : CheckContext) :
    ∃ urls emails : List Char → List Span,
      rule.check context
          = .found (findingsOf "URL" urls (lines context.source.toList)
              ++ findingsOf "email" emails (lines context.source.toList))
        ∧ (∀ line found, IsLeftmost (IsQuoted IsWebAddress) line found ↔ found = urls line)
        ∧ (∀ line found, IsLeftmost (IsQuoted IsMailAddress) line found ↔ found = emails line)
        ∧ ∀ line, ∀ found ∈ [urls line, emails line],
          (found.Pairwise fun span later => span.stop ≤ later.start)
            ∧ ∀ span ∈ found, Encloses line span := by
  have hweb := recognizes_urlLength?
  have hmail := recognizes_emailLength?
  refine ⟨spans urlLength? 0, spans emailLength? 0, rfl, fun line found => isLeftmost_iff hweb,
    fun line found => isLeftmost_iff hmail, fun line => ?_⟩
  rw [List.forall_mem_cons, List.forall_mem_singleton]
  have hurls := hweb.isLeftmost_spans line
  have hmails := hmail.isLeftmost_spans line
  exact ⟨⟨hurls.apart, encloses_of_isLeftmost hurls⟩, hmails.apart, encloses_of_isLeftmost hmails⟩

/-- The quote that closes the first web address does not open a second one, the next quote does.
A mail address is found by the same scan for another pattern. -/
theorem check_eq_leftmost_shared_quote :
    let line := "'http://a\"http://b'http://c' \"d@e.f'".toList
    let context : CheckContext :=
      { tree := ⟨.mk "Program" none []⟩, source := String.ofList line, fileName := "x.js" }
    ∃ urls emails : List Char → List Span,
      rule.check context = .found (findingsOf "URL" urls [line] ++ findingsOf "email" emails [line])
        ∧ urls line = [⟨0, 10⟩, ⟨18, 28⟩] ∧ emails line = [⟨29, 36⟩] := by
  intro line context
  obtain ⟨urls, emails, hcheck, hurls, hemails, -⟩ := check_eq_leftmost context
  have hline : lines context.source.toList = [line] := by decide +kernel
  have hweb : spans urlLength? 0 line = [⟨0, 10⟩, ⟨18, 28⟩] := by decide +kernel
  have hmail : spans emailLength? 0 line = [⟨29, 36⟩] := by decide +kernel
  rw [hline] at hcheck
  refine ⟨urls, emails, hcheck, ((hurls line _).mp ?_).symm, ((hemails line _).mp ?_).symm⟩
  · rw [← hweb]
    exact recognizes_urlLength?.isLeftmost_spans line
  · rw [← hmail]
    exact recognizes_emailLength?.isLeftmost_spans line

end ScriptAdvisor.HardcodedValue
