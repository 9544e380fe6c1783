import Mathlib.Data.List.TakeWhile
import ScriptAdvisor.Proofs.Text.Spans
import ScriptAdvisor.Smell.AnyType

/-! # Which annotations with the type `any` are found

The rule scans every line from left to right and continues behind what it has found. An annotation
holds one colon, at its start, so none begins inside another and the scan misses none.

* `AnyType.IsAnnotatedAt` says where the word `any` stands as a type, whatever is found elsewhere.
* `AnyType.annotationLength?_eq_some_iff` says what an annotation is made of.
* `AnyType.check_eq_annotated`: the findings are at these places, at all of them, line by line. -/

namespace ScriptAdvisor.AnyType

open Text

/-! ## Annotations -/

/-- The word `any` stands at a place of a line as a type: a colon and perhaps blanks stand before
it, and no word character behind it. -/
structure IsAnnotatedAt (line : List Char) (place : Nat) : Prop where
  /-- The word stands there. -/
  word : (line.drop place).take 3 = ['a', 'n', 'y']
  /-- Before it there is a colon, and nothing but blanks in between. -/
  colon : ∃ lead blanks, line.take place = lead ++ ':' :: blanks ∧ ∀ c ∈ blanks, isBlank c = true
  /-- The word ends there. -/
  ends : ∀ c, (line.drop (place + 3)).head? = some c → isWordChar c = false

theorem endsWord_iff {rest : List Char} :
    endsWord rest = true ↔ ∀ c, rest.head? = some c → isWordChar c = false := by
  cases rest with
  | nil => simp [endsWord]
  | cons c rest => simp [endsWord]

/-- An annotation is a colon, blanks, and the word `any` that ends there. -/
theorem annotationLength?_eq_some_iff {text : List Char} {taken : Nat} :
    annotationLength? text = some taken
      ↔ ∃ blanks rest, text = ':' :: blanks ++ anyWord ++ rest ∧ (∀ c ∈ blanks, isBlank c = true)
          ∧ endsWord rest = true ∧ taken = blanks.length + 4 := by
  constructor
  · intro h
    cases text with
    | nil => contradiction
    | cons c text =>
        rw [annotationLength?] at h
        split at h
        · rename_i hcolon
          cases hafter : after? anyWord (text.dropWhile isBlank) with
          | none =>
              rw [hafter] at h
              contradiction
          | some rest =>
              rw [hafter] at h
              have htext : text = text.takeWhile isBlank ++ anyWord ++ rest := by
                rw [List.append_assoc, ← eq_append_of_after? hafter,
                  List.takeWhile_append_dropWhile]
              simp only at h
              split at h
              · rename_i hends
                refine ⟨text.takeWhile isBlank, rest, ?_, ?_, hends, ?_⟩
                · rw [List.cons_append, List.cons_append, ← htext, hcolon]
                · intro c hc
                  exact List.mem_takeWhile_imp hc
                · have hlength := congrArg List.length htext
                  have hword : anyWord.length = 3 := rfl
                  rw [List.length_append, List.length_append, hword] at hlength
                  have htaken := Option.some.inj h
                  omega
              · contradiction
        · contradiction
  · rintro ⟨blanks, rest, rfl, hblanks, hends, rfl⟩
    -- the blanks end where the word starts, as its first letter is none
    have hdrop : (blanks ++ anyWord ++ rest).dropWhile isBlank = anyWord ++ rest := by
      rw [List.append_assoc, List.dropWhile_append_of_pos hblanks]
      rfl
    rw [List.cons_append, List.cons_append, annotationLength?, if_pos rfl, hdrop, after?_append]
    simp only
    rw [if_pos hends]
    have hword : anyWord.length = 3 := rfl
    simp only [List.length_append, hword, Option.some.injEq]
    omega

/-- There is no colon in an annotation but the first character, so no other begins in it. -/
theorem isScattered_annotationLength? : IsScattered annotationLength? := by
  refine ⟨?_, ?_, ?_⟩
  · intro text taken h
    obtain ⟨blanks, rest, -, -, -, rfl⟩ := annotationLength?_eq_some_iff.mp h
    omega
  · intro text taken h
    obtain ⟨blanks, rest, rfl, -, -, rfl⟩ := annotationLength?_eq_some_iff.mp h
    have hword : anyWord.length = 3 := rfl
    simp only [List.length_append, List.length_cons, hword]
    omega
  · intro text taken h inside hpos hlt
    obtain ⟨blanks, rest, rfl, hblanks, -, rfl⟩ := annotationLength?_eq_some_iff.mp h
    obtain ⟨more, rfl⟩ := Nat.exists_eq_add_of_lt hpos
    have hmore : more < (blanks ++ anyWord).length := by
      have hword : anyWord.length = 3 := rfl
      rw [List.length_append, hword]
      omega
    -- the next character is a blank or a letter of the word
    have hfirst : (blanks ++ anyWord)[more] ≠ ':' := by
      intro heq
      have hmem : ':' ∈ blanks ++ anyWord := heq ▸ List.getElem_mem hmore
      rcases List.mem_append.mp hmem with hblank | hword
      · exact absurd (hblanks _ hblank) (by decide)
      · exact absurd hword (by decide)
    have hdrop : (':' :: blanks ++ anyWord ++ rest).drop (0 + more + 1)
        = (blanks ++ anyWord)[more] :: ((blanks ++ anyWord).drop (more + 1) ++ rest) := by
      rw [List.cons_append, List.cons_append, Nat.zero_add, List.drop_succ_cons,
        List.drop_append_of_le_length hmore.le, List.drop_eq_getElem_cons hmore, List.cons_append]
    rw [hdrop, annotationLength?, if_neg hfirst]

/-! ## The places on a line -/

/-- The places where the scan of a line finds the word. -/
def placesOn (line : List Char) : List Nat :=
  (spans annotationLength? 0 line).map fun span => span.stop - 3

/-- Where the word stands as a type, the line can be cut around the annotation. -/
theorem isAnnotatedAt_iff {line : List Char} {place : Nat} :
    IsAnnotatedAt line place
      ↔ ∃ lead blanks rest, line = lead ++ (':' :: blanks ++ anyWord ++ rest)
          ∧ (∀ c ∈ blanks, isBlank c = true) ∧ endsWord rest = true
          ∧ place = lead.length + blanks.length + 1 := by
  constructor
  · rintro ⟨hword, ⟨lead, blanks, hcolon, hblanks⟩, hends⟩
    have hbehind : line.drop place = anyWord ++ line.drop (place + 3) := by
      rw [← List.take_append_drop 3 (line.drop place), hword, List.drop_drop]
      rfl
    refine ⟨lead, blanks, line.drop (place + 3), ?_, hblanks, ?_, ?_⟩
    · rw [List.append_assoc, ← hbehind, ← List.append_assoc, ← hcolon, List.take_append_drop]
    · exact endsWord_iff.mpr hends
    · -- the line is not shorter, as the word stands behind the place
      have hlength := congrArg List.length hcolon
      have hbound := congrArg List.length hbehind
      have hthree : anyWord.length = 3 := rfl
      rw [List.length_drop, List.length_append, hthree] at hbound
      rw [List.length_take, List.length_append, List.length_cons] at hlength
      omega
  · rintro ⟨lead, blanks, rest, rfl, hblanks, hends, rfl⟩
    have hcut : lead ++ (':' :: blanks ++ anyWord ++ rest)
        = (lead ++ ':' :: blanks) ++ (anyWord ++ rest) := by
      simp only [List.append_assoc]
    have hplace : lead.length + blanks.length + 1 = (lead ++ ':' :: blanks).length := by
      rw [List.length_append, List.length_cons, Nat.add_assoc]
    refine ⟨?_, ⟨lead, blanks, ?_, hblanks⟩, ?_⟩
    · rw [hcut, hplace, List.drop_left]
      rfl
    · rw [hcut, hplace, List.take_left]
    · rw [hcut, hplace, ← List.drop_drop, List.drop_left]
      exact endsWord_iff.mp hends

/-- The scan finds the word wherever it stands as a type, and nowhere else. -/
theorem mem_placesOn {line : List Char} {place : Nat} :
    place ∈ placesOn line ↔ IsAnnotatedAt line place := by
  rw [placesOn, List.mem_map, isAnnotatedAt_iff]
  constructor
  · rintro ⟨span, hspan, rfl⟩
    obtain ⟨lead, text, taken, rfl, htaken, rfl⟩ :=
      (mem_spans_iff isScattered_annotationLength?).mp hspan
    obtain ⟨blanks, rest, rfl, hblanks, hends, rfl⟩ := annotationLength?_eq_some_iff.mp htaken
    refine ⟨lead, blanks, rest, rfl, hblanks, hends, ?_⟩
    simp only
    omega
  · rintro ⟨lead, blanks, rest, rfl, hblanks, hends, rfl⟩
    have htaken := annotationLength?_eq_some_iff.mpr ⟨blanks, rest, rfl, hblanks, hends, rfl⟩
    refine ⟨_, (mem_spans_iff isScattered_annotationLength?).mpr ⟨lead, _, _, rfl, htaken, rfl⟩, ?_⟩
    simp only
    omega

/-- The word has room for its three letters in a stretch that was found, behind the start. -/
theorem start_add_three_lt_stop {line : List Char} {place : Nat} {span : Span}
    (h : span ∈ spans annotationLength? place line) : span.start + 3 < span.stop := by
  obtain ⟨lead, text, taken, rfl, htaken, rfl⟩ :=
    (mem_spans_iff isScattered_annotationLength?).mp h
  obtain ⟨blanks, rest, rfl, -, -, rfl⟩ := annotationLength?_eq_some_iff.mp htaken
  simp only
  omega

theorem pairwise_placesOn (line : List Char) : (placesOn line).Pairwise (· < ·) := by
  rw [placesOn, List.pairwise_map]
  refine (pairwise_spans annotationLength? 0 line).imp_of_mem ?_
  intro span later hspan hlater hle
  have hfirst := start_add_three_lt_stop hspan
  have hsecond := start_add_three_lt_stop hlater
  omega

/-! ## The findings -/

/-- The finding at a place of the line with the given number. Lines and columns are counted from
one, places from zero. -/
def findingAt (number place : Nat) : Violation :=
  { ruleId := "ts-no-any"
    message := "Avoid using \"any\" type. Use specific types or \"unknown\" instead."
    severity := .medium, line := number, column := place + 1
    endLine := some (number : Int), endColumn := some (place + 4 : Int) }

theorem checkLine_eq (line : List Char) (number : Nat) :
    checkLine line number = (placesOn line).map (findingAt number) := by
  rw [checkLine, placesOn, List.map_map]
  refine List.map_congr_left fun span hspan => ?_
  have hroom := start_add_three_lt_stop hspan
  -- the end is three characters behind the place
  have hstop : ((span.stop - 3 : Nat) : Int) + 4 = span.stop + 1 := by omega
  rw [Function.comp, findingAt, hstop]
  rfl

/-- The number of a line, counted from one, and a place on it. -/
def places (source : String) : List (Nat × Nat) :=
  ((lines source.toList).zipIdx 1).flatMap fun (line, number) =>
    (placesOn line).map fun place => (number, place)

theorem check_eq_map_places (context : CheckContext) :
    check context = (places context.source).map fun (number, place) => findingAt number place := by
  rw [check, places, List.map_flatMap]
  refine List.flatMap_congr fun numbered _ => ?_
  rw [List.map_map]
  exact checkLine_eq numbered.1 numbered.2

theorem mem_places {source : String} {number place : Nat} :
    (number, place) ∈ places source
      ↔ 1 ≤ number ∧ ∃ line, (lines source.toList)[number - 1]? = some line
          ∧ IsAnnotatedAt line place := by
  simp only [places, List.mem_flatMap, List.mem_map, Prod.exists, Prod.mk.injEq, mem_placesOn]
  constructor
  · rintro ⟨line, _, hline, _, hplace, rfl, rfl⟩
    obtain ⟨hone, hget⟩ := List.mem_zipIdx_iff_le_and_getElem?_sub.mp hline
    exact ⟨hone, line, hget, hplace⟩
  · rintro ⟨hone, line, hget, hplace⟩
    exact ⟨line, number, List.mem_zipIdx_iff_le_and_getElem?_sub.mpr ⟨hone, hget⟩, place, hplace,
      rfl, rfl⟩

/-- A finding tells its place. -/
theorem findingAt_injective :
    Function.Injective fun entry : Nat × Nat => findingAt entry.1 entry.2 := by
  intro entry other h
  have hline : (entry.1 : Int) = other.1 := congrArg Violation.line h
  have hcolumn : (entry.2 + 1 : Int) = other.2 + 1 := congrArg Violation.column h
  exact Prod.ext (by omega) (by omega)

/-- The places come line by line, and on a line from left to right. -/
theorem pairwise_places (source : String) :
    (places source).Pairwise fun one later =>
      one.1 < later.1 ∨ one.1 = later.1 ∧ one.2 < later.2 := by
  rw [places, List.pairwise_flatMap]
  constructor
  · rintro ⟨line, number⟩ _
    rw [List.pairwise_map]
    exact (pairwise_placesOn line).imp fun hlt => .inr ⟨rfl, hlt⟩
  · have hnumbers : ((lines source.toList).zipIdx 1).Pairwise fun one later => one.2 < later.2 := by
      rw [← List.pairwise_map, List.zipIdx_map_snd]
      exact List.pairwise_lt_range'
    refine hnumbers.imp ?_
    intro one later hlt _ hone _ hlater
    obtain ⟨place, -, rfl⟩ := List.mem_map.mp hone
    obtain ⟨place', -, rfl⟩ := List.mem_map.mp hlater
    exact .inl hlt

/-- The rule always comes to an end with a list. It has one finding for each place of a line where
the word `any` stands as a type, which covers the three letters of the word, and no others; the
findings come line by line and on a line from left to right. -/
theorem check_eq_annotated (context : CheckContext) :
    ∃ found : List (Nat × Nat),
      rule.check context = .found (found.map fun (number, place) => findingAt number place)
        ∧ (found.Pairwise fun one later =>
            one.1 < later.1 ∨ one.1 = later.1 ∧ one.2 < later.2)
        ∧ ∀ number place, (number, place) ∈ found
            ↔ 1 ≤ number ∧ ∃ line, (lines context.source.toList)[number - 1]? = some line
                ∧ IsAnnotatedAt line place := by
  refine ⟨places context.source, ?_, pairwise_places context.source, fun number place => mem_places⟩
  rw [← check_eq_map_places]
  rfl

/-- Two annotations that touch are both found, a longer word is not one. -/
theorem check_eq_annotated_two_lines :
    let line := ": anything, x: any"
    let context : CheckContext :=
      { tree := ⟨.mk "Program" none []⟩, source := ":any:\t any\n\n" ++ line, fileName := "x.ts" }
    rule.check context = .found [findingAt 1 1, findingAt 1 7, findingAt 3 15]
      ∧ IsAnnotatedAt line.toList 15 ∧ ¬IsAnnotatedAt line.toList 2 := by
  intro line context
  obtain ⟨found, hcheck, -, hfound⟩ := check_eq_annotated context
  have hplaces : places context.source = [(1, 1), (1, 7), (3, 15)] := by decide +kernel
  have hrun : rule.check context
      = .found ((places context.source).map fun (number, place) => findingAt number place) := by
    rw [← check_eq_map_places]
    rfl
  have hsame : found = places context.source :=
    List.map_injective_iff.mpr findingAt_injective (CheckOutcome.found.inj (hcheck.symm.trans hrun))
  rw [hsame, hplaces] at hfound
  have hlast : (lines context.source.toList)[2]? = some line.toList := by decide +kernel
  have hline (place : Nat) :
      (3, place) ∈ [(1, 1), (1, 7), (3, 15)] ↔ IsAnnotatedAt line.toList place := by
    rw [hfound, hlast]
    simp
  refine ⟨?_, (hline 15).mp (by decide), mt (hline 2).mpr (by decide)⟩
  rw [hrun, hplaces]
  rfl

end ScriptAdvisor.AnyType
