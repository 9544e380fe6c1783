import ScriptAdvisor.Comparison
import ScriptAdvisor.Proofs.Edit.OneLine
import ScriptAdvisor.Proofs.Smell.Wrapping

/-! # Fixing a hardcoded address does not clear it

The look-up of a property that is suggested for an address keeps the literal as its default. The
rule reports it there again, further to the right, and reports no fewer addresses of its kind than
before. So a source that has a finding never gets rid of all of them by fixing.

* `HardcodedValue.applyEdits_fix` is the source after a fix, told by the pieces between its line
  feeds.
* `HardcodedValue.IsKind` is what the web addresses and the mail addresses have in common.
* `HardcodedValue.fix_reports_again`: the finding comes back, and there is always a next fix. -/

namespace ScriptAdvisor.HardcodedValue

open Text

/-! ## What is suggested -/

/-- The provider gets to see a finding with its source. -/
def adviceRequest (context : CheckContext) (violation : Violation) : AdviceRequest :=
  ⟨violation, context.source, context.fileName⟩

/-- The literal that a finding is about. -/
def literalOf (context : CheckContext) (violation : Violation) : String :=
  literalAt (adviceRequest context violation)
    ((adviceRequest context violation).endColumnOn violation.line)

/-- The edits of all that is suggested for a finding. -/
def fixEdits (context : CheckContext) (violation : Violation) : List Edit :=
  (advise (adviceRequest context violation)).flatMap (·.edits)

/-- The look-up is the literal with a text in front and a parenthesis behind. -/
theorem toList_propertyLookup (literal : String) :
    (propertyLookup literal).toList
      = wrapping (propertyName literal) ++ (literal.toList ++ [')']) := by
  have hlead : "gs.getProperty('x_app.config.".toList
      = lookupName ++ '\'' :: "x_app.config.".toList := by decide
  have hgap : "', ".toList = '\'' :: argumentGap := by decide
  have hclose : ")".toList = [')'] := by decide
  unfold propertyLookup wrapping propertyPath
  rw [String.toList_append, String.toList_append, String.toList_append, String.toList_append, hlead,
    hgap, hclose]
  simp only [List.append_assoc, List.cons_append]

/-- There are three names of properties. -/
theorem propertyName_cases {motive : String → Prop} (hurl : motive "url") (hemail : motive "email")
    (hvalue : motive "value") (literal : String) : motive (propertyName literal) := by
  rw [propertyName]
  split
  · exact hurl
  · split
    · exact hemail
    · exact hvalue

theorem isPropertyName_propertyName (literal : String) : IsPropertyName (propertyName literal) :=
  propertyName_cases ⟨by decide, by decide⟩ ⟨by decide, by decide⟩ ⟨by decide, by decide⟩ literal

theorem isUnbroken_wrapping (literal : String) : IsUnbroken (wrapping (propertyName literal)) :=
  propertyName_cases (motive := fun name => IsUnbroken (wrapping name)) (by decide) (by decide)
    (by decide) literal

/-- A stretch cut out of a text. -/
theorem between_append (lead literal behind : List Char) :
    Slice.between (lead ++ (literal ++ behind)) lead.length (lead.length + literal.length : Nat)
      = literal := by
  rw [Slice.between_natCast, List.take_length_add_append, List.take_left, List.drop_left]

/-- The finding at a literal on the line behind others. -/
def findingOn (kind : String) (front : List (List Char)) (lead literal : List Char) : Violation :=
  findingAt kind (front.length + 1) ⟨lead.length, lead.length + literal.length⟩

/-- The edit that is suggested for a literal on the line behind others. -/
def lookupEdit (front : List (List Char)) (lead literal : List Char) : Edit :=
  { kind := .replace, startLine := (front.length + 1 : Nat), startColumn := lead.length
    endLine := (front.length + 1 : Nat), endColumn := (lead.length + literal.length : Nat)
    oldText := String.ofList literal, newText := propertyLookup (String.ofList literal)
    description := "Replace with system property" }

section Fix

variable {context : CheckContext} {front back : List (List Char)}
  {lead literal behind : List Char} {kind : String}

theorem offset_findingOn : (findingOn kind front lead literal).offset = lead.length :=
  info.offset_violationOn _ _ _ _

theorem endColumnOn_findingOn (number : Int) :
    (adviceRequest context (findingOn kind front lead literal)).endColumnOn number
      = (lead.length + literal.length : Nat) := by
  have hcolumn : ((lead.length + literal.length : Nat) + 1 : Int) ≠ 0 := by omega
  simp only [AdviceRequest.endColumnOn, adviceRequest, findingOn, findingAt, if_neg hcolumn]
  omega

variable (context kind) (hfeeds : BreaksByFeeds context.source.toList)
  (hpieces : splitNewlines context.source.toList
    = front ++ (lead ++ (literal ++ behind)) :: back)
  (hliteral : literal ≠ [])
include hfeeds hpieces hliteral

/-- The provider reads the literal off the line. -/
theorem literalOf_findingOn :
    literalOf context (findingOn kind front lead literal) = String.ofList literal := by
  have hget : (adviceRequest context (findingOn kind front lead literal)).lines[front.length]?
      = some (lead ++ (literal ++ behind)) :=
    getElem?_lines_of_pieces hfeeds hpieces (by simp [hliteral])
  have hspan : (adviceRequest context (findingOn kind front lead literal)).spanText
      (front.length + 1 : Nat) lead.length (front.length + 1 : Nat)
      (lead.length + literal.length : Nat) = literal := by
    rw [AdviceRequest.spanText_of_getElem? hget, between_append]
  have hoffset : (adviceRequest context (findingOn kind front lead literal)).violation.offset
      = lead.length := offset_findingOn
  have hnumber : (adviceRequest context (findingOn kind front lead literal)).violation.line
      = (front.length + 1 : Nat) := rfl
  have hsome : literal.isEmpty = false := by simpa using hliteral
  rw [literalOf, endColumnOn_findingOn, literalAt]
  simp only [hoffset, hnumber, hspan, hsome, Bool.false_eq_true, if_false]

theorem fixEdits_findingOn :
    fixEdits context (findingOn kind front lead literal) = [lookupEdit front lead literal] := by
  set request := adviceRequest context (findingOn kind front lead literal) with hrequest
  have hread : literalAt request (request.endColumnOn request.violation.line)
      = String.ofList literal := literalOf_findingOn context kind hfeeds hpieces hliteral
  have hstart : request.violation.offset = lead.length := offset_findingOn
  have hstop : request.endColumnOn request.violation.line = (lead.length + literal.length : Nat) :=
    endColumnOn_findingOn _
  rw [hstop] at hread
  rw [fixEdits, ← hrequest, advise, List.flatMap_singleton]
  simp only [hstart, hstop, hread]
  rfl

/-- The source after a fix: the literal is wrapped, and nothing else is changed. -/
theorem applyEdits_fix :
    ∃ after,
      applyEdits context.source (fixEdits context (findingOn kind front lead literal)) = .ok after
      ∧ splitNewlines after.toList
        = front ++ (lead ++ wrapping (propertyName (String.ofList literal))
          ++ (literal ++ ')' :: behind)) :: back
      ∧ BreaksByFeeds after.toList := by
  have hline : IsUnbroken (lead ++ (literal ++ behind)) :=
    breaksByFeeds_iff.mp hfeeds _ (by simp [hpieces])
  rw [isUnbroken_append, isUnbroken_append] at hline
  obtain ⟨hlead, hliteral', hbehind⟩ := hline
  have hnew : (lookupEdit front lead literal).newText.toList
      = wrapping (propertyName (String.ofList literal)) ++ (literal ++ [')']) := by
    rw [lookupEdit, toList_propertyLookup, String.toList_ofList]
  have hunbroken : IsUnbroken
      (wrapping (propertyName (String.ofList literal)) ++ (literal ++ [')'])) :=
    isUnbroken_append.mpr
      ⟨isUnbroken_wrapping _, isUnbroken_append.mpr ⟨hliteral', by decide⟩⟩
  have hstays : (lookupEdit front lead literal).StaysOn front.length lead.length
      (lead.length + literal.length) :=
    ⟨nofun, rfl, rfl, rfl, rfl, hnew ▸ hunbroken.newline_notMem⟩
  obtain ⟨after, hafter, hchanged⟩ := applyEdits_of_staysOn hpieces hstays
  have hwrapped : (lead ++ (literal ++ behind)).take lead.length
        ++ (lookupEdit front lead literal).newText.toList
        ++ (lead ++ (literal ++ behind)).drop (lead.length + literal.length)
      = lead ++ wrapping (propertyName (String.ofList literal)) ++ (literal ++ ')' :: behind) := by
    rw [List.take_left, List.drop_length_add_append, List.drop_left, hnew]
    simp
  rw [hwrapped] at hchanged
  refine ⟨after, ?_, hchanged, hfeeds.of_pieces hpieces hchanged ?_⟩
  · rw [fixEdits_findingOn context kind hfeeds hpieces hliteral, hafter]
  · rw [← hwrapped, List.take_left, List.drop_length_add_append, List.drop_left, hnew]
    exact isUnbroken_append.mpr ⟨isUnbroken_append.mpr ⟨hlead, hunbroken⟩, hbehind⟩

end Fix

/-! ## Findings of one kind -/

/-- What web addresses and mail addresses have in common. -/
structure IsKind (kind : String) (pattern : List Char → Option Nat) (content : List Char → Prop) :
    Prop where
  /-- The pattern takes the literals. -/
  recognizes : Recognizes pattern (IsQuoted content)
  /-- They are not found in the text in front of a wrapped one. -/
  isMarked : IsMarked content
  /-- The findings of the kind are told by their message. -/
  filter_check : ∀ context, (check context).filter (·.message == message kind)
    = checkKind kind pattern (lines context.source.toList)

theorem message_of_mem_checkKind {kind : String} {pattern : List Char → Option Nat}
    {lines : List (List Char)} {violation : Violation}
    (h : violation ∈ checkKind kind pattern lines) : violation.message = message kind := by
  obtain ⟨numbered, -, hmem⟩ := List.mem_flatMap.mp h
  obtain ⟨span, -, rfl⟩ := List.mem_map.mp hmem
  rfl

theorem filter_checkKind_self (kind : String) (pattern : List Char → Option Nat)
    (lines : List (List Char)) :
    (checkKind kind pattern lines).filter (·.message == message kind)
      = checkKind kind pattern lines := by
  rw [List.filter_eq_self]
  intro violation hmem
  simpa using message_of_mem_checkKind hmem

theorem filter_checkKind_other {kind other : String} (hne : message other ≠ message kind)
    (pattern : List Char → Option Nat) (lines : List (List Char)) :
    (checkKind other pattern lines).filter (·.message == message kind) = [] := by
  rw [List.filter_eq_nil_iff]
  intro violation hmem
  rw [message_of_mem_checkKind hmem]
  simpa using hne

theorem isKind_url : IsKind "URL" urlLength? IsWebAddress := by
  refine ⟨recognizes_urlLength?, ?_, fun context => ?_⟩
  · rintro text ⟨host, -, rfl | rfl⟩
    · exact .inl rfl
    · exact .inl rfl
  · rw [check, List.filter_append, filter_checkKind_self, filter_checkKind_other (by decide),
      List.append_nil]

theorem isKind_email : IsKind "email" emailLength? IsMailAddress := by
  refine ⟨recognizes_emailLength?, ?_, fun context => ?_⟩
  · rintro text ⟨name, domain, rfl, -⟩
    exact .inr (List.mem_append_right _ List.mem_cons_self)
  · rw [check, List.filter_append, filter_checkKind_self, filter_checkKind_other (by decide),
      List.nil_append]

/-- Every finding is of one of the two kinds. -/
theorem exists_isKind {context : CheckContext} {violation : Violation}
    (h : violation ∈ check context) :
    ∃ kind pattern content, IsKind kind pattern content
      ∧ violation ∈ checkKind kind pattern (lines context.source.toList) := by
  rcases List.mem_append.mp h with hurl | hemail
  · exact ⟨_, _, _, isKind_url, hurl⟩
  · exact ⟨_, _, _, isKind_email, hemail⟩

section Kind

variable {kind : String} {pattern : List Char → Option Nat} {content : List Char → Prop}
  {text : List Char} {violation : Violation}

/-- A finding stands at a literal on a line between two line feeds. -/
theorem exists_findingOn (h : Recognizes pattern (IsQuoted content)) (hfeeds : BreaksByFeeds text)
    (hmem : violation ∈ checkKind kind pattern (lines text)) :
    ∃ front back lead literal behind,
      splitNewlines text = front ++ (lead ++ (literal ++ behind)) :: back ∧ IsQuoted content literal
        ∧ ⟨lead.length, lead.length + literal.length⟩
          ∈ spans pattern 0 (lead ++ (literal ++ behind))
        ∧ violation = findingOn kind front lead literal := by
  obtain ⟨⟨line, number⟩, hline, hfound⟩ := List.mem_flatMap.mp hmem
  obtain ⟨span, hspan, rfl⟩ := List.mem_map.mp hfound
  obtain ⟨front, back, hpieces, rfl, -⟩ := exists_pieces_of_mem_lines hfeeds hline
  obtain ⟨lead, literal, behind, rfl, hliteral, hcut⟩ := h.exists_cut_of_mem_spans hspan
  rw [Nat.zero_add] at hcut
  subst hcut
  rw [List.append_assoc] at hpieces hspan
  exact ⟨front, back, lead, literal, behind, hpieces, hliteral, hspan, rfl⟩

/-- What is found on a line between two line feeds is a finding. -/
theorem findingAt_mem_checkKind (kind : String) (hfeeds : BreaksByFeeds text)
    {front back : List (List Char)} {line : List Char}
    (hpieces : splitNewlines text = front ++ line :: back) {span : Span}
    (hspan : span ∈ spans pattern 0 line) :
    findingAt kind (front.length + 1) span ∈ checkKind kind pattern (lines text) := by
  have hline : line ≠ [] := by
    rintro rfl
    simp [spans] at hspan
  have hget := getElem?_lines_of_pieces hfeeds hpieces hline
  refine List.mem_flatMap.mpr ⟨(line, front.length + 1), ?_, List.mem_map_of_mem hspan⟩
  exact List.mem_zipIdx_iff_le_and_getElem?_sub.mpr ⟨Nat.le_add_left 1 _, hget⟩

/-- How many findings of a kind there are is counted piece by piece. -/
theorem length_checkKind (hfeeds : BreaksByFeeds text) :
    (checkKind kind pattern (lines text)).length
      = ((splitNewlines text).map fun piece => (spans pattern 0 piece).length).sum := by
  have hpieces : checkKind kind pattern (lines text)
      = checkKind kind pattern (splitNewlines text) :=
    flatMap_lines hfeeds fun number => by simp [spans]
  rw [hpieces, checkKind, List.length_flatMap]
  simp only [List.length_map]
  conv_rhs => rw [← List.zipIdx_map_fst 1 (splitNewlines text), List.map_map]
  rfl

end Kind

/-! ## A source after a fix -/

/-- A finding, so many columns further to the right. -/
def movedRight (violation : Violation) (width : Nat) : Violation :=
  { violation with column := violation.column + width
                   endColumn := violation.endColumn.map (· + width) }

theorem movedRight_findingOn (kind : String) (front : List (List Char))
    (lead more literal : List Char) :
    movedRight (findingOn kind front lead literal) more.length
      = findingOn kind front (lead ++ more) literal := by
  simp only [movedRight, findingOn, findingAt, Option.map_some, List.length_append, Nat.cast_add,
    Violation.mk.injEq, Option.some.injEq, true_and, and_true]
  omega

/-- What comes of a fix. -/
structure IsFixed (context : CheckContext) (violation : Violation) (after : String) : Prop where
  /-- There are no other line breaks than line feeds. -/
  breaksByFeeds : BreaksByFeeds after.toList
  /-- The finding comes back, moved by the text in front of the literal. -/
  mem_check : movedRight violation (wrapping (propertyName (literalOf context violation))).length
    ∈ check { context with source := after }
  /-- It is about the same literal. -/
  literalOf_eq : literalOf { context with source := after }
      (movedRight violation (wrapping (propertyName (literalOf context violation))).length)
    = literalOf context violation
  /-- There are no fewer findings with its message. -/
  countP_le : (check context).countP (·.message == violation.message)
    ≤ (check { context with source := after }).countP (·.message == violation.message)

variable {context : CheckContext} {violation : Violation}

/-- What is suggested for any finding can be applied, and brings the finding back. -/
theorem exists_isFixed (context : CheckContext) (hfeeds : BreaksByFeeds context.source.toList)
    (h : violation ∈ check context) :
    ∃ after, applyEdits context.source (fixEdits context violation) = .ok after
      ∧ IsFixed context violation after := by
  obtain ⟨kind, pattern, content, hkind, hmem⟩ := exists_isKind h
  obtain ⟨front, back, lead, literal, behind, hpieces, hliteral, hspan, rfl⟩ :=
    exists_findingOn hkind.recognizes hfeeds hmem
  have hne : literal ≠ [] := List.length_pos_iff.mp (hkind.recognizes.pos hliteral)
  obtain ⟨after, hafter, hchanged, hfeeds'⟩ := applyEdits_fix context kind hfeeds hpieces hne
  obtain ⟨hagain, hle⟩ := spans_wrapped hkind.recognizes hkind.isMarked
    (isPropertyName_propertyName (String.ofList literal)) hliteral hspan
  rw [← List.length_append] at hagain
  have hread := literalOf_findingOn context kind hfeeds hpieces hne
  have hmem' := findingAt_mem_checkKind kind hfeeds' hchanged hagain
  refine ⟨after, hafter, hfeeds', ?_, ?_, ?_⟩
  · rw [hread, movedRight_findingOn]
    rw [← hkind.filter_check { context with source := after }] at hmem'
    exact (List.mem_filter.mp hmem').1
  · rw [hread, movedRight_findingOn]
    exact literalOf_findingOn { context with source := after } kind hfeeds' hchanged hne
  · have hmessage : (findingOn kind front lead literal).message = message kind := rfl
    rw [List.countP_eq_length_filter, List.countP_eq_length_filter, hmessage, hkind.filter_check,
      hkind.filter_check, length_checkKind hfeeds, length_checkKind hfeeds', hpieces, hchanged]
    simp only [List.map_append, List.map_cons, List.sum_append, List.sum_cons]
    omega

/-! ## Fix after fix -/

/-- One source comes from another by a fix of one of its findings. -/
def Fixes (context : CheckContext) (source after : String) : Prop :=
  ∃ violation ∈ check { context with source },
    applyEdits source (fixEdits { context with source } violation) = .ok after

/-- A source with a finding can be fixed. -/
theorem exists_fixes {source : String} (hfeeds : BreaksByFeeds source.toList)
    (hfound : check { context with source } ≠ []) : ∃ after, Fixes context source after := by
  obtain ⟨violation, hmem⟩ := List.exists_mem_of_ne_nil _ hfound
  obtain ⟨after, hafter, -⟩ := exists_isFixed { context with source } hfeeds hmem
  exact ⟨after, violation, hmem, hafter⟩

/-- A fix leaves a source with a finding. -/
theorem Fixes.keeps {source after : String} (h : Fixes context source after)
    (hfeeds : BreaksByFeeds source.toList) :
    BreaksByFeeds after.toList ∧ check { context with source := after } ≠ [] := by
  obtain ⟨violation, hmem, hafter⟩ := h
  obtain ⟨other, hother, hfixed⟩ := exists_isFixed { context with source } hfeeds hmem
  obtain rfl := Except.ok.inj (hother.symm.trans hafter)
  exact ⟨hfixed.breaksByFeeds, List.ne_nil_of_mem hfixed.mem_check⟩

/-- However often a source with a finding is fixed, there is a next fix. -/
theorem exists_fixes_of_reflTransGen {source after : String}
    (h : Relation.ReflTransGen (Fixes context) source after) (hfeeds : BreaksByFeeds source.toList)
    (hfound : check { context with source } ≠ []) : ∃ next, Fixes context after next := by
  have hkept : BreaksByFeeds after.toList ∧ check { context with source := after } ≠ [] := by
    induction h with
    | refl => exact ⟨hfeeds, hfound⟩
    | tail _ hfix ih => exact hfix.keeps ih.1
  exact exists_fixes hkept.1 hkept.2

/-- On a source whose only line breaks are line feeds, what is suggested for a finding can be
applied and does not clear it. The rule reports the same literal again, further to the right, and no
fewer findings with the same message than before. From there on there is always a next fix. -/
theorem fix_reports_again (hfeeds : BreaksByFeeds context.source.toList)
    (h : violation ∈ check context) :
    ∃ after, applyEdits context.source (fixEdits context violation) = .ok after
      ∧ IsFixed context violation after
      ∧ ∀ later, Relation.ReflTransGen (Fixes context) after later →
        ∃ next, Fixes context later next := by
  obtain ⟨after, hafter, hfixed⟩ := exists_isFixed context hfeeds h
  refine ⟨after, hafter, hfixed, fun later hlater => ?_⟩
  exact exists_fixes_of_reflTransGen hlater hfixed.breaksByFeeds
    (List.ne_nil_of_mem hfixed.mem_check)

/-- Of two findings on a line the second one is fixed. -/
theorem fix_reports_again_second_finding :
    let context : CheckContext :=
      { tree := default, source := "f('http://a', 'b@c.d');\n", fileName := "x.js" }
    let violation := findingAt "email" 1 ⟨14, 21⟩
    BreaksByFeeds context.source.toList ∧ violation ∈ check context
      ∧ ∃ after, applyEdits context.source (fixEdits context violation) = .ok after
        ∧ IsFixed context violation after
        ∧ ∀ later, Relation.ReflTransGen (Fixes context) after later →
          ∃ next, Fixes context later next := by
  intro context violation
  have hfeeds : BreaksByFeeds context.source.toList := by
    decide +kernel
  have hmem : violation ∈ check context := by
    decide +kernel
  exact ⟨hfeeds, hmem, fix_reports_again hfeeds hmem⟩

/-- A fix of the only finding leaves one finding. -/
theorem length_check_not_lt_after_fix :
    let context : CheckContext :=
      { tree := default, source := "x = 'http://a';", fileName := "x.js" }
    let fixed := "x = gs.getProperty('x_app.config.url', 'http://a');"
    BreaksByFeeds context.source.toList
      ∧ check context = [findingAt "URL" 1 ⟨4, 14⟩]
      ∧ applyEdits context.source (fixEdits context (findingAt "URL" 1 ⟨4, 14⟩)) = .ok fixed
      ∧ ¬(check { context with source := fixed }).length < (check context).length := by
  intro context fixed
  have hfeeds : BreaksByFeeds context.source.toList := by
    decide +kernel
  have hpieces : splitNewlines context.source.toList
      = [] ++ ("x = ".toList ++ ("'http://a'".toList ++ ";".toList)) :: [] := by
    decide +kernel
  obtain ⟨after, hafter, hchanged, -⟩ := applyEdits_fix context "URL" hfeeds hpieces (by decide)
  have hresult : after = fixed := by
    rw [← String.ofList_toList (s := after), ← joinNewlines_splitNewlines after.toList, hchanged]
    decide +kernel
  subst hresult
  exact ⟨hfeeds, by decide +kernel, hafter, by decide +kernel⟩

end ScriptAdvisor.HardcodedValue
