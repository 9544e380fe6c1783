import ScriptAdvisor.Comparison
import ScriptAdvisor.Proofs.Edit.SingleEdit
import ScriptAdvisor.Proofs.Smell.Annotation

/-! # Where the type `any` is replaced

The rule names a finding by its line and column, and its lines end at breaks of any kind. The edits
that are suggested for it bear the same line and column, but the lines they are applied to end at
line feeds.

* `mem_check` says where a finding stands: its offset lies that many characters behind the lines
  before it, and the word `any` stands there.
* `applyEdits_replaceAny` and `applyEdits_replaceAny_ne` follow the edit when all lines before the
  finding end in a line feed, and when one does not.
* `replaces_reported_word_iff`: a suggestion replaces the word that was reported exactly in the
  first case. -/

namespace ScriptAdvisor

namespace AnyType

open Text

/-! ## What is found -/

/-- A finding on a line stands where the word `any` stands. -/
theorem mem_checkLine {line : List Char} {number : Nat} {violation : Violation}
    (h : violation ∈ checkLine line number) :
    ∃ lead rest, line = lead ++ anyWord ++ rest ∧ violation.line = number
      ∧ violation.offset = lead.length := by
  rw [checkLine_eq] at h
  obtain ⟨place, hplace, rfl⟩ := List.mem_map.mp h
  obtain ⟨lead, blanks, rest, rfl, -, -, rfl⟩ := isAnnotatedAt_iff.mp (mem_placesOn.mp hplace)
  refine ⟨lead ++ ':' :: blanks, rest, by simp, rfl, ?_⟩
  simp only [Violation.offset, findingAt, List.length_append, List.length_cons]
  omega

/-- The lines of a text before a violation, each with its end. -/
def linesBefore (text : List Char) (violation : Violation) : List (List Char) :=
  (linesWithEnds text).take (violation.line - 1).toNat

/-- A finding stands on a line of the text, where the word `any` stands. -/
theorem mem_check {context : CheckContext} {violation : Violation}
    (h : violation ∈ check context) :
    ∃ lead rest, context.source.toList
        = (linesBefore context.source.toList violation).flatten ++ lead ++ anyWord ++ rest
      ∧ '\n' ∉ lead ∧ violation.offset = lead.length
      ∧ violation.line = (linesBefore context.source.toList violation).length + 1 := by
  obtain ⟨⟨line, number⟩, hline, hfound⟩ := List.mem_flatMap.mp h
  obtain ⟨hone, hget⟩ := List.mem_zipIdx_iff_le_and_getElem?_sub.mp hline
  obtain ⟨lead, behind, rfl, hnumber, hoffset⟩ := mem_checkLine hfound
  obtain ⟨rest, hcut, hfeed, hcount⟩ := exists_cut_of_lines hget
  have hbefore : (violation.line - 1).toNat = number - 1 := by omega
  refine ⟨lead, behind ++ rest, ?_, ?_, hoffset, ?_⟩
  · rw [linesBefore, hbefore]
    simpa only [List.append_assoc] using hcut
  · intro hmem
    exact hfeed (List.mem_append_left _ (List.mem_append_left _ hmem))
  · rw [linesBefore, hbefore, hcount]
    have : 1 ≤ number := hone
    omega

/-! ## What is replaced -/

/-- The number of characters of a text before a violation. -/
def placeIn (text : List Char) (violation : Violation) : Nat :=
  (linesBefore text violation).flatten.length + violation.offset

/-- A text with `newText` in place of the word at `place`. -/
def replacedAt (text : List Char) (place : Nat) (newText : List Char) : List Char :=
  text.take place ++ newText ++ text.drop (place + anyWord.length)

variable (request : AdviceRequest) {before lead rest : List Char}

/-- Where the lines before the word end in line feeds, both counts of lines agree and the word is
replaced. -/
theorem applyEdits_replaceAny (hsource : request.source.toList = before ++ lead ++ anyWord ++ rest)
    (hlead : '\n' ∉ lead) (hoffset : request.violation.offset = lead.length)
    (hline : request.violation.line = before.count '\n' + 1)
    (hbefore : before = [] ∨ before.getLast? = some '\n') (newText description : String) :
    applyEdits request.source [replaceAny request newText description]
      = .ok (String.ofList (before ++ lead ++ newText.toList ++ rest)) := by
  have hword : '\n' ∉ lead ++ anyWord := by
    rw [List.mem_append]
    exact not_or.mpr ⟨hlead, by decide⟩
  have hstart := endsAt_append hbefore hlead
  have hstop := endsAt_append hbefore hword
  rw [← hline, List.length_append, ← List.append_assoc] at hstop
  rw [← hline, ← hoffset] at hstart
  rw [← hoffset] at hstop
  have hkind : (replaceAny request newText description).kind ≠ .delete := by
    show EditKind.replace ≠ .delete
    decide
  exact applyEdits_singleton_of_endsAt hkind hsource hstart hstop

/-- Where a line before the word ends otherwise, the edit lies below the word, which stays. -/
theorem applyEdits_replaceAny_ne
    (hsource : request.source.toList = before ++ lead ++ anyWord ++ rest) (hlead : '\n' ∉ lead)
    (hline : before.count '\n' + 1 < request.violation.line) {newText : String}
    (hnew : newText.toList.head? ≠ some 'a') (hsome : newText.toList ≠ []) (description : String) :
    applyEdits request.source [replaceAny request newText description]
      ≠ .ok (String.ofList (before ++ lead ++ newText.toList ++ rest)) := by
  intro hafter
  have hcount : (before ++ lead ++ anyWord).count '\n' = before.count '\n' := by
    rw [List.count_append, List.count_append, List.count_eq_zero.mpr hlead]
    rfl
  have hfirst : before ++ lead ++ anyWord <+: request.source.toList := ⟨rest, hsource.symm⟩
  have hkept := applyEdits_singleton_isPrefix hafter hfirst (by rw [hcount]; exact hline)
  rw [String.toList_ofList, List.append_assoc (before ++ lead) newText.toList,
    List.prefix_append_right_inj] at hkept
  -- the result would have `a` where the new text starts
  obtain ⟨c, more, hcons⟩ := List.exists_cons_of_ne_nil hsome
  rw [hcons] at hkept hnew
  obtain ⟨tail, htail⟩ := hkept
  have hhead := congrArg List.head? htail
  exact hnew hhead.symm

/-- The word stands where it is reported. -/
theorem take_drop_placeIn {context : CheckContext} {violation : Violation}
    (h : violation ∈ check context) :
    (context.source.toList.drop (placeIn context.source.toList violation)).take anyWord.length
      = anyWord := by
  obtain ⟨lead, rest, hsource, -, hoffset, -⟩ := mem_check h
  rw [placeIn, hoffset, ← List.length_append]
  set before := (linesBefore context.source.toList violation).flatten ++ lead
  rw [hsource, List.append_assoc, List.drop_left, List.take_left]

/-- The edit replaces the word that was reported exactly if every line before it ends in a line
feed. -/
theorem applyEdits_replaceAny_iff {context : CheckContext} {violation : Violation}
    (h : violation ∈ check context) {newText : String} (hnew : newText.toList.head? ≠ some 'a')
    (hsome : newText.toList ≠ []) (description : String) :
    applyEdits context.source
        [replaceAny ⟨violation, context.source, context.fileName⟩ newText description]
      = .ok (String.ofList (replacedAt context.source.toList
          (placeIn context.source.toList violation) newText.toList))
      ↔ ∀ line ∈ linesBefore context.source.toList violation, line.getLast? = some '\n' := by
  obtain ⟨lead, rest, hsource, hlead, hoffset, hline⟩ := mem_check h
  set lines := linesBefore context.source.toList violation with hlines
  have hright : replacedAt context.source.toList (placeIn context.source.toList violation)
      newText.toList = lines.flatten ++ lead ++ newText.toList ++ rest := by
    rw [replacedAt, placeIn, hoffset, ← hlines, ← List.length_append, hsource,
      List.append_assoc _ anyWord, List.take_left, List.drop_length_add_append, List.drop_left]
  -- the edit goes by the line feeds before the word, the finding by the lines
  have hfeeds : lines.flatten.count '\n' = lines.length
      ↔ ∀ line ∈ lines, line.getLast? = some '\n' :=
    count_newline_flatten_take_eq_iff context.source.toList (violation.line - 1).toNat
  have hle : lines.flatten.count '\n' ≤ lines.length :=
    count_newline_flatten_take_le context.source.toList (violation.line - 1).toNat
  rw [hright, ← hfeeds]
  constructor
  · intro hafter
    by_contra hne
    have hlt : ((lines.flatten.count '\n' : Nat) : Int) + 1 < violation.line := by omega
    exact applyEdits_replaceAny_ne ⟨violation, context.source, context.fileName⟩ hsource hlead hlt
      hnew hsome description hafter
  · intro heq
    have hcount : violation.line = (lines.flatten.count '\n' : Nat) + 1 := by omega
    exact applyEdits_replaceAny ⟨violation, context.source, context.fileName⟩ hsource hlead hoffset
      hcount (getLast?_flatten (hfeeds.mp heq)) newText description

end AnyType

open AnyType in
/-- A finding stands where the word `any` stands, and every suggestion for it has one edit. The
comparison for the suggestion comes about and has the new text in place of this word, all else as
before, exactly if every line before the finding ends in a line feed. -/
theorem AnyType.replaces_reported_word_iff {context : CheckContext} {violation : Violation}
    (h : violation ∈ check context) (fileName : String) :
    let source := context.source.toList
    (source.drop (placeIn source violation)).take anyWord.length = anyWord
      ∧ ∀ suggestion ∈ advise ⟨violation, context.source, context.fileName⟩, ∃ edit,
        suggestion.edits = [edit]
          ∧ ((∃ comparison, Comparison.build context.source suggestion fileName = .ok comparison
                ∧ comparison.after = String.ofList
                    (replacedAt source (placeIn source violation) edit.newText.toList))
              ↔ ∀ line ∈ linesBefore source violation, line.getLast? = some '\n') := by
  intro source
  constructor
  · exact take_drop_placeIn h
  · intro suggestion hsuggestion
    simp only [Comparison.exists_build_iff]
    simp only [advise, List.mem_cons, List.not_mem_nil, or_false] at hsuggestion
    rcases hsuggestion with rfl | rfl
    · exact ⟨_, rfl, applyEdits_replaceAny_iff h (by decide) (by decide) _⟩
    · exact ⟨_, rfl, applyEdits_replaceAny_iff h (by decide) (by decide) _⟩

open AnyType in
/-- A form feed ends the first line, so no suggestion for the word on the second one replaces it. -/
theorem AnyType.replaces_reported_word_iff_form_feed :
    let context : CheckContext :=
      { tree := default, source := "// one\x0clet x: any;\n", fileName := "x.ts" }
    let violation := info.violationOn message 2 7 10
    violation ∈ check context
      ∧ placeIn context.source.toList violation = 14
      ∧ ∀ suggestion ∈ advise ⟨violation, context.source, context.fileName⟩, ∃ edit,
        suggestion.edits = [edit]
          ∧ ¬∃ comparison, Comparison.build context.source suggestion "x.ts" = .ok comparison
            ∧ comparison.after
              = String.ofList (replacedAt context.source.toList 14 edit.newText.toList) := by
  intro context violation
  have hfound : violation ∈ check context := by decide +kernel
  have hplace : placeIn context.source.toList violation = 14 := by decide +kernel
  have hends : ¬∀ line ∈ linesBefore context.source.toList violation,
      line.getLast? = some '\n' := by
    decide +kernel
  refine ⟨hfound, hplace, fun suggestion hsuggestion => ?_⟩
  obtain ⟨edit, hedit, hiff⟩ := (replaces_reported_word_iff hfound "x.ts").2 suggestion hsuggestion
  rw [hplace] at hiff
  exact ⟨edit, hedit, fun hright => hends (hiff.mp hright)⟩

end ScriptAdvisor
