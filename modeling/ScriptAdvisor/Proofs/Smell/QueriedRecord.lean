import Mathlib.Data.List.TakeWhile
import ScriptAdvisor.Proofs.Smell.Standing
import ScriptAdvisor.Proofs.Text.Search
import ScriptAdvisor.Smell.UnconditionedQuery

/-! # Which record gets the condition

The rule reports a query together with the place of the call, but the condition that is suggested
for it goes to the record that is queried first on the line. This is another one if a query that is
restricted stands further to the left, or if the name of the record has characters that the search
does not count as those of a word.

* `UnconditionedQuery.IsQueryOn`: a query on a record, as the search reads it.
* `UnconditionedQuery.receiverOn_eq_iff`: the record that the provider takes is the one on which the
  line has its first query, or `gr` if it has none.
* `UnconditionedQuery.adds_condition_to_queried_record_iff` says when this is the record of the
  reported call. -/

namespace ScriptAdvisor

open Text

/-! ## Words and blanks -/

namespace Text

/-- The code points of the blanks. -/
def blankCodes : List Nat :=
  [0x09, 0x0A, 0x0B, 0x0C, 0x0D, 0x1C, 0x1D, 0x1E, 0x1F, 0x20, 0x85, 0xA0, 0x1680, 0x2000, 0x2001,
    0x2002, 0x2003, 0x2004, 0x2005, 0x2006, 0x2007, 0x2008, 0x2009, 0x200A, 0x2028, 0x2029, 0x202F,
    0x205F, 0x3000]

theorem toNat_mem_blankCodes {c : Char} (h : isBlank c = true) : c.toNat ∈ blankCodes := by
  simp only [isBlank, Bool.or_eq_true, Bool.and_eq_true, decide_eq_true_eq, beq_iff_eq] at h
  simp only [blankCodes, List.mem_cons, List.not_mem_nil, or_false]
  omega

theorem inRanges_eq_any_toList (ranges : Array (Nat × Nat)) (n : Nat) :
    inRanges ranges n = ranges.toList.any fun range => range.1 ≤ n && n ≤ range.2 := by
  rw [inRanges, Array.any_toList]

/-- No blank is a character of a word. -/
theorem isWordChar_eq_false_of_isBlank {c : Char} (h : isBlank c = true) :
    isWordChar c = false := by
  have hranges : ∀ code ∈ blankCodes,
      (wordRanges.toList.any fun range => range.1 ≤ code && code ≤ range.2) = false := by
    decide +kernel
  have hascii : ∀ code ∈ blankCodes, (Char.ofNat code).isAlphanum = false
      ∧ (Char.ofNat code == '_') = false := by
    decide
  have hcode := toNat_mem_blankCodes h
  obtain ⟨halphanum, hunderscore⟩ := hascii _ hcode
  rw [Char.ofNat_toNat] at halphanum hunderscore
  rw [isWordChar, inRanges_eq_any_toList, halphanum, hunderscore, hranges _ hcode]
  simp

end Text

namespace UnconditionedQuery

/-! ## A query on a line -/

/-- A query on `record` starts a text: the name, a dot, the word `query` and a parenthesis, with
blanks between them or without. -/
def IsQueryOn (record text : List Char) : Prop :=
  ∃ front middle back rest,
    text = record ++ (front ++ '.' :: (middle ++ ("query".toList ++ (back ++ '(' :: rest))))
      ∧ record ≠ [] ∧ (∀ c ∈ record, isWordChar c = true) ∧ (∀ c ∈ front, isBlank c = true)
      ∧ (∀ c ∈ middle, isBlank c = true) ∧ ∀ c ∈ back, isBlank c = true

/-- The pattern that is searched for. -/
theorem queryReceiver?_eq_some_iff {text record : List Char} :
    queryReceiver? text = some record ↔ IsQueryOn record text := by
  constructor
  · intro h
    rw [queryReceiver?] at h
    split at h
    · contradiction
    · rename_i hsome
      split at h
      · rename_i behindDot hdot
        split at h
        · rename_i behindName hname
          split at h
          · rename_i rest hopen
            obtain rfl := Option.some.inj h
            have hword : ∀ c ∈ text.takeWhile isWordChar, isWordChar c = true :=
              fun c hc => List.mem_takeWhile_imp hc
            have hblank : ∀ part : List Char, ∀ c ∈ part.takeWhile isBlank, isBlank c = true :=
              fun part c hc => List.mem_takeWhile_imp hc
            refine ⟨_, _, _, rest, ?_, ?_, hword, hblank (text.dropWhile isWordChar),
              hblank behindDot, hblank behindName⟩
            · rw [← hopen, List.takeWhile_append_dropWhile, ← eq_append_of_after? hname,
                List.takeWhile_append_dropWhile, ← hdot, List.takeWhile_append_dropWhile,
                List.takeWhile_append_dropWhile]
            · simpa using hsome
          · contradiction
        · contradiction
      · contradiction
  · rintro ⟨front, middle, back, rest, rfl, hsome, hrecord, hfront, hmiddle, hback⟩
    -- the word ends where the blanks start, or at the dot
    have hends : ∀ c ∈ (front
          ++ '.' :: (middle ++ ("query".toList ++ (back ++ '(' :: rest)))).head?,
        isWordChar c = false := by
      cases front with
      | nil =>
          rintro c ⟨⟩
          decide
      | cons d front =>
          rintro c ⟨⟩
          exact isWordChar_eq_false_of_isBlank (hfront d List.mem_cons_self)
    have hempty : record.isEmpty = false := by simpa using hsome
    rw [queryReceiver?, takeWhile_append_of_head? hrecord hends,
      dropWhile_append_of_head? hrecord hends]
    rw [dropWhile_append_of_head? hfront (by rintro c ⟨⟩; decide)]
    simp only [hempty]
    rw [dropWhile_append_of_head? hmiddle (by rintro c ⟨⟩; decide), after?_append]
    simp only
    rw [dropWhile_append_of_head? hback (by rintro c ⟨⟩; decide)]
    rfl

theorem isSome_queryReceiver?_iff {text : List Char} :
    (queryReceiver? text).isSome ↔ ∃ record, IsQueryOn record text := by
  simp only [Option.isSome_iff_exists, queryReceiver?_eq_some_iff]

/-- The first query of a line is one on `record`, or there is none and `record` is the usual
name. -/
def IsFirstQueried (record line : List Char) : Prop :=
  (∃ place, IsFirstFrom (fun rest => ∃ other, IsQueryOn other rest) line 0 place
      ∧ IsQueryOn record (line.drop place))
    ∨ (∀ place other, ¬IsQueryOn other (line.drop place)) ∧ record = "gr".toList

theorem receiverOn_eq_iff {line record : List Char} :
    receiverOn line = record ↔ IsFirstQueried record line := by
  have hpattern : (fun rest => (queryReceiver? rest).isSome = true)
      = fun rest => ∃ other, IsQueryOn other rest :=
    funext fun rest => propext isSome_queryReceiver?_iff
  have hcases := search?_cases queryReceiver? rfl line 0
  rw [List.drop_zero, hpattern] at hcases
  rw [receiverOn]
  rcases hcases with ⟨place, found, hsearch, hfound, hfirst⟩ | ⟨hsearch, hnowhere⟩
  · rw [hsearch]
    simp only
    constructor
    · rintro rfl
      exact .inl ⟨place, hfirst, queryReceiver?_eq_some_iff.mp hfound⟩
    · rintro (⟨other, hother, hquery⟩ | ⟨hnone, -⟩)
      · rw [← queryReceiver?_eq_some_iff, ← hfirst.unique hother, hfound] at hquery
        exact Option.some.inj hquery
      · exact absurd (queryReceiver?_eq_some_iff.mp hfound) (hnone place found)
  · rw [hsearch]
    simp only
    have hnone : ∀ place other, ¬IsQueryOn other (line.drop place) := by
      intro place other hquery
      rw [← queryReceiver?_eq_some_iff, hnowhere place (Nat.zero_le place)] at hquery
      contradiction
    constructor
    · rintro rfl
      exact .inr ⟨hnone, rfl⟩
    · rintro (⟨place, -, hquery⟩ | ⟨-, rfl⟩)
      · exact absurd hquery (hnone place record)
      · rfl

/-! ## The condition -/

/-- The line that adds a condition to a record in front of `line`. -/
def conditionFor (line record : List Char) : String :=
  String.ofList (indentation line ++ record) ++ ".addQuery('active', true);\n"

theorem conditionFor_inj (line : List Char) {record other : List Char} :
    conditionFor line record = conditionFor line other ↔ record = other := by
  constructor
  · intro h
    have htext := congrArg String.toList h
    simp only [conditionFor, String.toList_append, String.toList_ofList] at htext
    exact List.append_cancel_left (List.append_cancel_right htext)
  · rintro rfl
    rfl

end UnconditionedQuery

open UnconditionedQuery in
/-- A condition is put in as a line in front of the one on which the reported call starts. It is one
on the record of the call exactly if the first query on the line is. -/
theorem UnconditionedQuery.adds_condition_to_queried_record_iff {context : CheckContext}
    (hfeeds : BreaksByFeeds context.source.toList)
    (hmarks : Location.MarksAll (calls context.tree.visits) context.source.toList)
    {violation : Violation} (h : violation ∈ check context) :
    let request : AdviceRequest := ⟨violation, context.source, context.fileName⟩
    ∃ query ∈ calls context.tree.visits, isQuery query.node = true
      ∧ violation = info.violationAt message query
      ∧ ∃ suggestion edit, advise request = [suggestion] ∧ suggestion.edits = [edit]
        ∧ edit.startLine = violation.line ∧ edit.startColumn = 0
        ∧ edit.Exchanges context.source []
        ∧ ∀ record ∈ query.node.callReceiver?,
          edit.newText = conditionFor request.line record.toList
            ↔ IsFirstQueried record.toList request.line := by
  intro request
  obtain ⟨query, hquery, rfl⟩ := List.mem_map.mp h
  obtain ⟨hcall, hreported⟩ := List.mem_filter.mp hquery
  rw [Bool.and_eq_true] at hreported
  obtain ⟨location, hlocation, hmark⟩ := hmarks query hcall
  obtain ⟨front, line, back, hstands⟩ := hmark.exists_standsOn hfeeds hlocation info message
  refine ⟨query, hcall, hreported.1, rfl, _, _, rfl, rfl, rfl, rfl, ?_, ?_⟩
  · exact Edit.exchanges_nil hstands.pieces nofun (Nat.zero_le _) ⟨hstands.number_eq, rfl⟩
      ⟨hstands.number_eq, rfl⟩
  · intro record hrecord
    rw [← receiverOn_eq_iff, ← conditionFor_inj request.line]
    rfl

open UnconditionedQuery in
/-- Two queries share a line, and the first is restricted: the other gets its condition. -/
theorem UnconditionedQuery.adds_condition_to_queried_record_iff_shared_line :
    let first : Location := ⟨1, 0, 1, 18⟩
    let second : Location := ⟨2, 0, 2, 9⟩
    let third : Location := ⟨2, 11, 2, 20⟩
    let name := fun text : String => Node.mk "Identifier" none [("name", .leaf (.str text))]
    let call := fun (location : Location) (record method : String) =>
      Node.mk "CallExpression" (some location)
        [("callee", .node (.mk "MemberExpression" none
          [("object", .node (name record)), ("property", .node (name method))]))]
    let context : CheckContext :=
      { tree := ⟨.mk "Program" none [("body", .list [.node (call first "a" "addQuery"),
          .node (call second "a" "query"), .node (call third "b" "query")])]⟩
        source := "a.addQuery('x', 1);\na.query(); b.query();", fileName := "x.js" }
    ∃ violation suggestion edit, check context = [violation]
      ∧ violation.line = 2 ∧ violation.column = 12
      ∧ advise ⟨violation, context.source, context.fileName⟩ = [suggestion]
      ∧ suggestion.edits = [edit]
      ∧ edit.newText ≠ conditionFor
          (AdviceRequest.line ⟨violation, context.source, context.fileName⟩) "b".toList := by
  intro first second third name call context
  let violation : Violation :=
    { ruleId := info.id, message := message, severity := info.severity, line := 2, column := 12
      endLine := some 2, endColumn := some 21, node := some 9 }
  have hcheck : check context = [violation] := by decide +kernel
  have hrecords : (calls context.tree.visits).map
      (fun visit => (visit.index, visit.node.callReceiver?))
      = [(1, some "a"), (5, some "a"), (9, some "b")] := by
    decide +kernel
  have hfeeds : BreaksByFeeds context.source.toList := by decide +kernel
  have hmarks : Location.MarksAll (calls context.tree.visits) context.source.toList :=
    Location.marksAll_of_map_eq (show _ = [first, second, third].map some by decide +kernel)
      (by decide +kernel)
  obtain ⟨query, hcall, -, hviolation, suggestion, edit, hadvise, hedits, -, -, -, hiff⟩ :=
    adds_condition_to_queried_record_iff hfeeds hmarks
      (hcheck ▸ List.mem_singleton_self violation)
  refine ⟨violation, suggestion, edit, hcheck, rfl, rfl, hadvise, hedits, fun hright => ?_⟩
  -- the call that is reported is the last one
  have hrecord : query.node.callReceiver? = some "b" := by
    have hindex : query.index = 9 := by
      have hnode : some 9 = some query.index := congrArg Violation.node hviolation
      exact (Option.some.inj hnode).symm
    have hmem := List.mem_map_of_mem (f := fun visit : Visit =>
      (visit.index, visit.node.callReceiver?)) hcall
    rw [hrecords, hindex] at hmem
    simpa using hmem
  have hfirst := (hiff "b" hrecord).mp hright
  rw [← receiverOn_eq_iff] at hfirst
  exact absurd hfirst (by decide +kernel)

end ScriptAdvisor
