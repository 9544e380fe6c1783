import ScriptAdvisor.Proofs.Edit.OneLine
import ScriptAdvisor.Proofs.Smell.Annotation

/-! # Every `any` made `unknown` at once

For every finding of the rule the provider suggests to write `unknown` for `any`. The edits of all
these suggestions are carried out together. They lie apart and come in order, so each line is
respelled from its last place to its first, and none of the edits moves the places of those to come.
The new word neither is an annotation nor makes the text around it one: an annotation has its colon,
its blanks and its word between two new words, where the line is as it was.

* `AnyType.respelled` follows the scan of a line and writes `unknown` for what it finds.
* `AnyType.annotationLength?_respelled`: nothing is left to find.
* `AnyType.unknownEdits_clear`: the edits of all suggestions leave a source without findings. -/

namespace ScriptAdvisor.AnyType

open Text

/-! ## A line respelled -/

/-- The word that is written for `any`. -/
def unknownWord : List Char := "unknown".toList

/-- A line with `unknown` in every place where the word `any` stands as a type. -/
def mended (line : List Char) : List Char :=
  Replacement.carryOut ((placesOn line).map fun place => ⟨place, place + 3, unknownWord⟩) 0 line

/-- The same, put together while the line is scanned. -/
def respelled : List Char → List Char
  | [] => []
  | c :: text =>
    match annotationLength? (c :: text) with
    | some (taken + 1) =>
      (c :: text).take (taken + 1 - 3) ++ (unknownWord ++ respelled (text.drop taken))
    | _ => c :: respelled text
termination_by text => text.length
decreasing_by all_goals (simp only [List.length_drop, List.length_cons]; omega)

section Respelled

variable {c : Char} {text blanks rest : List Char}

/-- What an annotation takes is not nothing. -/
theorem annotationLength?_cases (text : List Char) :
    annotationLength? text = none ∨ ∃ taken, annotationLength? text = some (taken + 1) := by
  cases h : annotationLength? text with
  | none => exact .inl rfl
  | some taken =>
      obtain ⟨more, rfl⟩ := Nat.exists_eq_add_one_of_ne_zero
        (isScattered_annotationLength?.pos _ _ h).ne'
      exact .inr ⟨more, rfl⟩

theorem annotationLength?_eq_none (h : ∀ taken, annotationLength? text = some (taken + 1) → False) :
    annotationLength? text = none := by
  rcases annotationLength?_cases text with hnone | ⟨taken, htaken⟩
  · exact hnone
  · exact (h taken htaken).elim

@[simp] theorem respelled_nil : respelled [] = [] := by rw [respelled]

theorem respelled_of_none (h : annotationLength? (c :: text) = none) :
    respelled (c :: text) = c :: respelled text := by
  rw [respelled, h]

/-- An annotation keeps its colon and its blanks. -/
theorem respelled_of_some {taken : Nat} (h : annotationLength? (c :: text) = some (taken + 1)) :
    ∃ blanks, (∀ b ∈ blanks, isBlank b = true) ∧ taken = blanks.length + 3
      ∧ c :: text = ':' :: blanks ++ anyWord ++ text.drop taken
      ∧ respelled (c :: text) = ':' :: blanks ++ (unknownWord ++ respelled (text.drop taken)) := by
  obtain ⟨blanks, rest, htext, hblanks, -, hlength⟩ := annotationLength?_eq_some_iff.mp h
  obtain rfl : taken = blanks.length + 3 := by omega
  have hback : text.drop (blanks.length + 3) = rest := by
    rw [List.cons_append, List.cons_append, List.append_assoc] at htext
    rw [(List.cons.inj htext).2, List.drop_length_add_append]
    rfl
  have hfront : (c :: text).take (blanks.length + 3 + 1 - 3) = ':' :: blanks := by
    rw [htext, show blanks.length + 3 + 1 - 3 = blanks.length + 1 by omega, List.cons_append,
      List.cons_append, List.take_succ_cons, List.append_assoc, List.take_left]
  refine ⟨blanks, hblanks, rfl, ?_, ?_⟩
  · rw [hback]
    exact htext
  · rw [respelled, h]
    simp only [hfront]

theorem annotationLength?_of_ne (h : c ≠ ':') (text : List Char) :
    annotationLength? (c :: text) = none := by
  rw [annotationLength?, if_neg h]

/-- A line starts with the same character as before. -/
theorem head?_respelled (text : List Char) : (respelled text).head? = text.head? := by
  cases text with
  | nil => rw [respelled]
  | cons c text =>
      rcases annotationLength?_cases (c :: text) with hnone | ⟨taken, htaken⟩
      · rw [respelled_of_none hnone, List.head?_cons, List.head?_cons]
      · obtain ⟨blanks, -, -, htext, hrespelled⟩ := respelled_of_some htaken
        rw [hrespelled, htext]
        rfl

theorem respelled_eq_nil_iff (text : List Char) : respelled text = [] ↔ text = [] := by
  rw [← List.head?_eq_none_iff, head?_respelled, List.head?_eq_none_iff]

theorem ne_colon_of_isBlank (h : isBlank c = true) : c ≠ ':' := by
  rintro rfl
  exact absurd h (by decide)

/-- The blanks at the start of a line are those it had. -/
theorem dropWhile_isBlank_respelled (text : List Char) :
    (respelled text).dropWhile isBlank = respelled (text.dropWhile isBlank) := by
  induction text with
  | nil => simp
  | cons c text ih =>
      by_cases hblank : isBlank c = true
      · have hc := ne_colon_of_isBlank hblank
        rw [respelled_of_none (annotationLength?_of_ne hc text), List.dropWhile_cons_of_pos hblank,
          List.dropWhile_cons_of_pos hblank, ih]
      · have hhead := head?_respelled (c :: text)
        obtain ⟨rest, hrest⟩ := List.head?_eq_some_iff.mp hhead
        rw [List.dropWhile_cons_of_neg hblank, hrest, List.dropWhile_cons_of_neg hblank]

/-- A word without a colon stands at the start of a line exactly if it did before. -/
theorem after?_respelled {word : List Char} (hword : ':' ∉ word) (text : List Char) :
    after? word (respelled text) = (after? word text).map respelled := by
  induction word generalizing text with
  | nil => rfl
  | cons l word ih =>
      rw [List.mem_cons, not_or] at hword
      cases text with
      | nil =>
          rw [respelled_nil]
          rfl
      | cons c text =>
          by_cases hl : l = c
          · subst hl
            rw [respelled_of_none (annotationLength?_of_ne (Ne.symm hword.1) text), after?,
              if_pos rfl, after?, if_pos rfl, ih hword.2]
          · obtain ⟨rest, hrest⟩ := List.head?_eq_some_iff.mp (head?_respelled (c :: text))
            rw [hrest, after?, if_neg hl, after?, if_neg hl]
            rfl

theorem endsWord_respelled (text : List Char) : endsWord (respelled text) = endsWord text := by
  have h : (endsWord (respelled text) = true) ↔ endsWord text = true := by
    rw [endsWord_iff, endsWord_iff, head?_respelled]
  rwa [← Bool.eq_iff_iff] at h

/-- A colon that was not the start of an annotation does not become one. -/
theorem annotationLength?_cons_respelled (h : annotationLength? (c :: text) = none) :
    annotationLength? (c :: respelled text) = none := by
  by_cases hc : c = ':'
  · rw [annotationLength?, if_pos hc] at h ⊢
    rw [dropWhile_isBlank_respelled, after?_respelled (by decide)]
    cases hafter : after? anyWord (text.dropWhile isBlank) with
    | none => rfl
    | some rest =>
        rw [hafter] at h
        simp only [ite_eq_right_iff, reduceCtorEq, imp_false] at h
        simp only [Option.map_some, endsWord_respelled, if_neg h]
  · exact annotationLength?_of_ne hc _

/-- There is no annotation where `unknown` stands for `any`. -/
theorem annotationLength?_unknown (hblanks : ∀ c ∈ blanks, isBlank c = true) (rest : List Char) :
    annotationLength? (':' :: (blanks ++ (unknownWord ++ rest))) = none := by
  have hdrop : (blanks ++ (unknownWord ++ rest)).dropWhile isBlank = unknownWord ++ rest := by
    rw [List.dropWhile_append_of_pos hblanks]
    rfl
  rw [annotationLength?, if_pos rfl, hdrop]
  rfl

/-- Nothing is left to find. -/
theorem spans_respelled (text : List Char) (place : Nat) :
    spans annotationLength? place (respelled text) = [] := by
  induction text using respelled.induct generalizing place with
  | case1 => rw [respelled_nil, spans]
  | case2 c text taken htaken ih =>
      obtain ⟨blanks, hblanks, -, -, hrespelled⟩ := respelled_of_some htaken
      -- no annotation begins in the blanks or in the new word
      have hskipped : ∀ b ∈ blanks ++ unknownWord, ∀ rest,
          annotationLength? (b :: rest) = none := by
        rw [List.forall_mem_append]
        constructor
        · exact fun b hb => annotationLength?_of_ne (ne_colon_of_isBlank (hblanks b hb))
        · exact fun b hb => annotationLength?_of_ne (ne_of_mem_of_not_mem hb (by decide))
      rw [hrespelled, List.cons_append, spans_cons_of_none (annotationLength?_unknown hblanks _),
        ← List.append_assoc, spans_append_of_none hskipped, ih]
  | case3 c text hnone ih =>
      have hnone' := annotationLength?_eq_none hnone
      rw [respelled_of_none hnone',
        spans_cons_of_none (annotationLength?_cons_respelled hnone'), ih]

/-- Respelling a line while it is scanned comes to replacing the words that the scan finds. -/
theorem carryOut_spans (text : List Char) (place : Nat) :
    Replacement.carryOut ((spans annotationLength? place text).map fun span =>
      ⟨span.stop - 3, span.stop, unknownWord⟩) place text = respelled text := by
  fun_induction spans annotationLength? place text with
  | case1 => rw [List.map_nil, Replacement.carryOut_nil, respelled_nil]
  | case2 place c text taken htaken ih =>
      obtain ⟨blanks, -, rfl, htext, hrespelled⟩ := respelled_of_some htaken
      set later := (spans annotationLength? (place + (blanks.length + 3 + 1))
        (text.drop (blanks.length + 3))).map fun span =>
          (⟨span.stop - 3, span.stop, unknownWord⟩ : Replacement) with hlater
      set first : Replacement := ⟨place + (blanks.length + 3 + 1) - 3,
        place + (blanks.length + 3 + 1), unknownWord⟩ with hfirst
      have hstart : first.start = place + (':' :: blanks).length := by
        simp only [hfirst, List.length_cons]
        omega
      have hstop : first.stop = first.start + anyWord.length := by
        simp only [hfirst, show anyWord.length = 3 from rfl]
        omega
      -- all other words lie behind the first one
      have hbehind : ∀ r ∈ later, first.stop < r.start := by
        rw [hlater, List.forall_mem_map]
        intro span hspan
        have hle := le_start_of_mem_spans hspan
        have hroom := start_add_three_lt_stop hspan
        simp only [hfirst]
        omega
      have hcopied : ∀ r ∈ first :: later, place + (':' :: blanks).length ≤ r.start := by
        rw [List.forall_mem_cons]
        refine ⟨hstart.ge, fun r hr => ?_⟩
        have hlt := hbehind r hr
        omega
      have hstarts : ∀ r ∈ later, first.start < r.start := by
        intro r hr
        have hlt := hbehind r hr
        omega
      rw [hrespelled, List.map_cons, htext, List.append_assoc,
        Replacement.carryOut_append_of_le hcopied, ← hstart,
        Replacement.carryOut_cons_start hstop hstarts fun r hr => (hbehind r hr).le, ← ih]
  | case3 place c text hnone ih =>
      have hnone' := annotationLength?_eq_none hnone
      have hcopied : ∀ r ∈ (spans annotationLength? (place + 1) text).map fun span =>
          (⟨span.stop - 3, span.stop, unknownWord⟩ : Replacement),
          place + [c].length ≤ r.start := by
        rw [List.forall_mem_map]
        intro span hspan
        have hle := le_start_of_mem_spans hspan
        have hroom := start_add_three_lt_stop hspan
        simp only [List.length_singleton]
        omega
      rw [respelled_of_none hnone', ← List.singleton_append,
        Replacement.carryOut_append_of_le hcopied, List.length_singleton, ih]
      rfl

theorem mended_eq_respelled (line : List Char) : mended line = respelled line := by
  rw [← carryOut_spans line 0, mended, placesOn, List.map_map]
  refine congrArg (Replacement.carryOut · 0 line) (List.map_congr_left fun span hspan => ?_)
  have hroom := start_add_three_lt_stop hspan
  rw [Function.comp, Nat.sub_add_cancel (by omega)]

end Respelled

/-! ## A line after its edits -/

/-- The edit that writes `unknown` at a place of the line with the given number. -/
def unknownEdit (number place : Nat) : Edit :=
  { kind := .replace, startLine := number, startColumn := place, endLine := number
    endColumn := place + 3, oldText := "any", newText := "unknown"
    description := "Replace any with unknown" }

theorem columns_unknownEdit (number place : Nat) :
    (unknownEdit number place).columns = ⟨place, place + 3, unknownWord⟩ := rfl

theorem replacesOn_unknownEdit {line : List Char} {place : Nat} (h : place ∈ placesOn line)
    (count : Nat) : (unknownEdit (count + 1) place).ReplacesOn count line.length := by
  obtain ⟨lead, blanks, rest, rfl, -, -, rfl⟩ := isAnnotatedAt_iff.mp (mem_placesOn.mp h)
  refine ⟨⟨nofun, rfl, rfl, rfl, rfl, show '\n' ∉ unknownWord by decide⟩, ?_, ?_⟩
  · rw [columns_unknownEdit]
    exact Nat.le_add_right _ 3
  · rw [columns_unknownEdit]
    simp only [List.length_append, List.length_cons, show anyWord.length = 3 from rfl]
    omega

/-- The words that are found on a line lie apart. -/
theorem pairwise_placesOn_apart (line : List Char) :
    (placesOn line).Pairwise fun place later => place + 3 ≤ later := by
  rw [placesOn, List.pairwise_map]
  refine (pairwise_spans annotationLength? 0 line).imp_of_mem ?_
  intro span later hspan hlater hle
  have hfirst := start_add_three_lt_stop hspan
  have hsecond := start_add_three_lt_stop hlater
  omega

/-- The edits for one line, carried out from the last to the first. -/
theorem applyInOrder_unknownEdits {line : List Char} (hline : '\n' ∉ line)
    (before behind : List (List Char)) :
    Edit.applyInOrder (before ++ line :: behind)
        ((placesOn line).map (unknownEdit (before.length + 1))).reverse
      = .ok (before ++ mended line :: behind) := by
  have happly := Edit.applyInOrder_reverse_columns
    ((placesOn line).map (unknownEdit (before.length + 1))) before behind hline
    (List.forall_mem_map.mpr fun place hplace => replacesOn_unknownEdit hplace before.length)
    (by
      rw [List.pairwise_map]
      refine (pairwise_placesOn_apart line).imp fun {place later} hle => ?_
      simp only [columns_unknownEdit]
      omega)
  rw [happly, List.map_map]
  rfl

/-! ## A source after all edits -/

/-- The edits of the suggestion to write `unknown`, for every finding on a source. -/
def unknownEdits (context : CheckContext) : List Edit :=
  (check context).flatMap fun violation =>
    ((advise ⟨violation, context.source, context.fileName⟩).filter
      fun suggestion => suggestion.title == "Replace any with unknown").flatMap (·.edits)

theorem filter_advise (number place : Nat) (source fileName : String) :
    ((advise ⟨findingAt number place, source, fileName⟩).filter
      fun suggestion => suggestion.title == "Replace any with unknown").flatMap (·.edits)
        = [unknownEdit number place] := by
  have hoffset : (findingAt number place).offset = place := info.offset_violationOn _ _ _ _
  simp only [advise, beq_iff_eq, String.reduceEq, List.filter_cons, List.filter_nil, if_true,
    if_false, List.flatMap_singleton, replaceAny, hoffset]
  rfl

theorem unknownEdits_eq (context : CheckContext) :
    unknownEdits context
      = (places context.source).map fun (number, place) => unknownEdit number place := by
  rw [unknownEdits, check_eq_map_places, List.flatMap_map]
  simp only [filter_advise]
  exact List.map_eq_flatMap.symm

/-- Places that are collected line by line can be collected piece by piece. -/
theorem places_eq {source : String} (h : BreaksByFeeds source.toList) :
    places source = ((splitNewlines source.toList).zipIdx 1).flatMap fun (line, number) =>
      (placesOn line).map fun place => (number, place) :=
  flatMap_lines h fun number => by simp [placesOn, spans]

/-- The edits come in order, and can be told piece by piece. -/
theorem bottomUp_unknownEdits {context : CheckContext}
    (h : BreaksByFeeds context.source.toList) :
    Edit.bottomUp (unknownEdits context)
      = (((splitNewlines context.source.toList).zipIdx 1).flatMap fun numbered =>
          (placesOn numbered.1).map (unknownEdit numbered.2)).reverse := by
  have hordered : (unknownEdits context).Pairwise fun edit later => edit.start < later.start := by
    rw [unknownEdits_eq, List.pairwise_map]
    refine (pairwise_places context.source).imp fun {one later} hbefore => ?_
    rw [Edit.start, Edit.start, Prod.Lex.toLex_lt_toLex]
    simpa only [unknownEdit, Nat.cast_lt, Nat.cast_inj] using hbefore
  rw [Edit.bottomUp_eq_reverse hordered, unknownEdits_eq, places_eq h, List.map_flatMap]
  simp only [List.map_map]
  rfl

theorem isUnbroken_mended {line : List Char} (h : IsUnbroken line) : IsUnbroken (mended line) := by
  intro c hc
  rcases Replacement.mem_carryOut hc with hold | ⟨r, hr, hnew⟩
  · exact h c hold
  · obtain ⟨place, -, rfl⟩ := List.mem_map.mp hr
    have hword : IsUnbroken unknownWord := by decide
    exact hword c hnew

theorem placesOn_mended (line : List Char) : placesOn (mended line) = [] := by
  rw [mended_eq_respelled, placesOn, spans_respelled, List.map_nil]

/-- On a source whose only line breaks are line feeds the edits that write `unknown` for all
findings can be carried out together. No finding is left, and there are as many lines as before.
Between its line feeds the result has the pieces of the source with every `any` that was found
replaced and every other character copied. -/
theorem unknownEdits_clear {context : CheckContext}
    (hfeeds : BreaksByFeeds context.source.toList) :
    ∃ after, applyEdits context.source (unknownEdits context) = .ok after
      ∧ rule.check { context with source := after } = .found []
      ∧ (lines after.toList).length = (lines context.source.toList).length
      ∧ splitNewlines after.toList = (splitNewlines context.source.toList).map mended := by
  set pieces := splitNewlines context.source.toList with hpieces
  have hunbroken : ∀ piece ∈ pieces.map mended, IsUnbroken piece :=
    List.forall_mem_map.mpr fun piece hpiece =>
      isUnbroken_mended (breaksByFeeds_iff.mp hfeeds piece hpiece)
  have hsplit : splitNewlines (joinNewlines (pieces.map mended)) = pieces.map mended := by
    refine splitNewlines_joinNewlines ?_ fun piece hpiece => (hunbroken piece hpiece).newline_notMem
    rw [Ne, List.map_eq_nil_iff]
    exact splitNewlines_ne_nil _
  have hafter : BreaksByFeeds (joinNewlines (pieces.map mended)) := by
    rw [breaksByFeeds_iff, hsplit]
    exact hunbroken
  refine ⟨String.ofList (joinNewlines (pieces.map mended)), ?_, ?_, ?_, ?_⟩
  · have hlines : ∀ line ∈ pieces, ∀ before behind, Edit.applyInOrder (before ++ line :: behind)
        ((placesOn line).map (unknownEdit (before.length + 1))).reverse
          = .ok (before ++ mended line :: behind) := fun line hline before behind =>
      applyInOrder_unknownEdits (newline_notMem_of_mem_splitNewlines hline) before behind
    have hrun := Edit.applyInOrder_reverse_flatMap
      (fun numbered => (placesOn numbered.1).map (unknownEdit numbered.2)) mended [] hlines
    rw [applyEdits_eq, bottomUp_unknownEdits hfeeds]
    exact congrArg (Except.map _) hrun
  · have hplaces : places (String.ofList (joinNewlines (pieces.map mended))) = [] := by
      rw [places_eq (by rwa [String.toList_ofList]), String.toList_ofList, hsplit,
        List.flatMap_eq_nil_iff]
      rintro ⟨line, number⟩ hline
      obtain ⟨piece, -, rfl⟩ := List.mem_map.mp (List.fst_mem_of_mem_zipIdx hline)
      simp only [placesOn_mended, List.map_nil]
    show CheckOutcome.found (check _) = _
    rw [check_eq_map_places, hplaces, List.map_nil]
  · rw [String.toList_ofList, lines_eq_dropEmptyLast hafter, hsplit, dropEmptyLast_map,
      List.length_map, lines_eq_dropEmptyLast hfeeds]
    intro piece
    rw [mended_eq_respelled, respelled_eq_nil_iff]
  · rw [String.toList_ofList, hsplit]

/-- Two findings on one line, one of them without a blank, and one behind the last line feed. -/
theorem unknownEdits_clear_three_places :
    let context : CheckContext :=
      { tree := default, source := "f(x:any): any;\n\nlet y: any", fileName := "x.ts" }
    BreaksByFeeds context.source.toList
      ∧ (check context).length = 3
      ∧ applyEdits context.source (unknownEdits context)
        = .ok "f(x:unknown): unknown;\n\nlet y: unknown"
      ∧ rule.check { context with source := "f(x:unknown): unknown;\n\nlet y: unknown" }
        = .found [] := by
  intro context
  have hfeeds : BreaksByFeeds context.source.toList := by
    decide +kernel
  obtain ⟨after, hafter, hclear, -, hpieces⟩ := unknownEdits_clear hfeeds
  have hmended : (splitNewlines context.source.toList).map mended
      = ["f(x:unknown): unknown;".toList, [], "let y: unknown".toList] := by
    decide +kernel
  have hresult : after = "f(x:unknown): unknown;\n\nlet y: unknown" := by
    rw [← String.ofList_toList (s := after), ← joinNewlines_splitNewlines after.toList, hpieces,
      hmended]
    decide +kernel
  subst hresult
  exact ⟨hfeeds, by decide +kernel, hafter, hclear⟩

end ScriptAdvisor.AnyType
