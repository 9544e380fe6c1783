import Mathlib.Data.List.TakeWhile
import ScriptAdvisor.Proofs.Smell.BlockingCall
import ScriptAdvisor.Proofs.Smell.Standing
import ScriptAdvisor.Smell.LoggedError

/-! # What a renaming takes out

Two suggestions write another name for a call of an old interface. The edit bears the text that it
replaces. The provider looks for the call from the place of the finding on, and where it does not
find it takes a stretch of fixed width and says that the usual call stands there. This is wrong for
every such stretch, since the call would have been found if it stood there.

* `BlockingAjax.IsClosedCall`: a call whose arguments end on the line, which is what the search for
  the blocking call finds.
* `BlockingAjax.oldText_eq_iff` and `LoggedError.oldText_eq_iff`: the edit bears the text that it
  replaces exactly if the search finds something.
* `renaming_bears_replaced_text_iff` says so of every finding of the two rules. -/

namespace ScriptAdvisor

open Text

/-! ## The blocking call -/

namespace BlockingAjax

/-- A call that is closed on its line starts a text: its name, blanks, and its arguments in
parentheses. -/
def IsClosedCall (text : List Char) : Prop :=
  ∃ blanks arguments rest, text = callName ++ (blanks ++ '(' :: (arguments ++ ')' :: rest))
    ∧ ∀ c ∈ blanks, isBlank c = true

theorem isSome_callLength?_iff {text : List Char} :
    (callLength? text).isSome ↔ IsClosedCall text := by
  constructor
  · intro h
    rw [callLength?] at h
    split at h
    · contradiction
    · rename_i rest hname
      split at h
      · rename_i arguments hopen
        split at h
        · rename_i behind hclose
          refine ⟨rest.takeWhile isBlank, arguments.takeWhile (· != ')'), behind, ?_,
            fun c hc => List.mem_takeWhile_imp hc⟩
          rw [← hclose, List.takeWhile_append_dropWhile, ← hopen, List.takeWhile_append_dropWhile]
          exact eq_append_of_after? hname
        · contradiction
      · contradiction
  · rintro ⟨blanks, arguments, rest, rfl, hblanks⟩
    have hopen : (blanks ++ '(' :: (arguments ++ ')' :: rest)).dropWhile isBlank
        = '(' :: (arguments ++ ')' :: rest) :=
      dropWhile_append_of_head? hblanks (by rintro c ⟨⟩; rfl)
    -- the arguments may have parentheses of their own; the first that closes one ends the call
    obtain ⟨behind, hclose⟩ : ∃ behind,
        (arguments ++ ')' :: rest).dropWhile (· != ')') = ')' :: behind := by
      cases hend : (arguments ++ ')' :: rest).dropWhile (· != ')') with
      | nil =>
          rw [List.dropWhile_eq_nil_iff] at hend
          exact absurd (hend ')' (by simp)) (by decide)
      | cons c behind =>
          have hc := List.head?_dropWhile_not (· != ')') (arguments ++ ')' :: rest)
          rw [hend] at hc
          exact ⟨behind, by simpa using hc⟩
    rw [callLength?, after?_append]
    simp only [hopen, hclose]
    rfl

variable {context : CheckContext} {violation : Violation}

theorem exists_standsOn (hfeeds : BreaksByFeeds context.source.toList)
    (h : violation ∈ check context) :
    ∃ front line back, violation.StandsOn context.source.toList front line back
      ∧ callName <+: line.drop violation.offset := by
  obtain ⟨front, line, back, start, hpieces, hget, hcall, rfl⟩ := mem_check hfeeds h
  have hoffset : (findingAt (front.length + 1) start).offset = start :=
    info.offset_violationOn _ _ _ _
  have hroom := hcall.length_le
  rw [List.length_drop, show callName.length = 10 from rfl] at hroom
  refine ⟨front, line, back, ⟨hpieces, hget, rfl, ?_⟩, ?_⟩
  · rw [hoffset]
    omega
  · rwa [hoffset]

/-- The edit bears the text that it replaces exactly if a call closed on the line stands at the
place or behind it. -/
theorem oldText_eq_iff (line : List Char) (offset : Nat) :
    (target line offset).2.toList
        = Slice.between line (target line offset).1.start (target line offset).1.stop
      ↔ ∃ place, offset ≤ place ∧ IsClosedCall (line.drop place) := by
  rcases target_cases line offset with ⟨place, taken, -, hfirst, htarget⟩ | ⟨hnowhere, htarget⟩
  · refine iff_of_true ?_ ⟨place, hfirst.start_le, isSome_callLength?_iff.mp hfirst.here⟩
    rw [htarget, Slice.between_natCast, String.toList_ofList, List.take_drop]
  · have hnone : ∀ place, offset ≤ place → ¬IsClosedCall (line.drop place) := by
      intro place hplace hcall
      rw [← isSome_callLength?_iff, hnowhere place hplace] at hcall
      contradiction
    refine iff_of_false (fun hsame => ?_) fun ⟨place, hplace, hcall⟩ => hnone place hplace hcall
    -- the usual call is closed, so that it would have been found
    rw [htarget, Slice.between_natCast, ← List.take_drop] at hsame
    have husual : usualCall.toList = callName ++ ['(', ')'] := by decide
    refine hnone offset le_rfl ⟨[], [], (line.drop offset).drop usualCall.length, ?_, by simp⟩
    conv_lhs => rw [← List.take_append_drop usualCall.length (line.drop offset), ← hsame, husual]
    rw [List.append_assoc]
    rfl

end BlockingAjax

/-! ## The call of the log -/

namespace LoggedError

variable {context : CheckContext} {violations : List Violation} {violation : Violation}

/-- Every finding is made at a call. -/
theorem exists_call_of_check (hcheck : check context = .ok violations)
    (h : violation ∈ violations) :
    ∃ call ∈ calls context.tree.visits, violation = info.violationAt message call := by
  obtain ⟨kept, hkept, rfl⟩ := Except.map_eq_ok_iff.mp hcheck
  obtain ⟨call, hcall, rfl⟩ := List.mem_map.mp h
  have hmem : call ∈ logCalls context.tree :=
    (Except.sublist_of_run (fun visit => logsError visit.node) loggedErrors rfl
      (fun _ _ => rfl) hkept).mem hcall
  obtain ⟨hvisit, hname⟩ := List.mem_filter.mp (List.mem_of_mem_filter hmem)
  rw [Bool.and_eq_true] at hname
  exact ⟨call, List.mem_filter.mpr ⟨hvisit, hname.1⟩, rfl⟩

/-- The edit bears the text that it replaces exactly if the name of the log stands at the place or
behind it. -/
theorem oldText_eq_iff (line : List Char) (offset : Nat) :
    logText.toList
        = Slice.between line (logPlace line offset) (logPlace line offset + logText.length : Nat)
      ↔ ∃ place, offset ≤ place ∧ logText.toList <+: line.drop place := by
  have hwidth : logText.toList.length = logText.length := String.length_toList
  have hread : ∀ place : Nat, Slice.between line place (place + logText.length : Nat)
      = (line.drop place).take logText.toList.length := by
    intro place
    rw [Slice.between_natCast, List.take_drop, hwidth]
  rw [hread, ← List.prefix_iff_eq_take, logPlace]
  rcases findFrom?_cases logText.toList line offset with
    ⟨place, hplace, hfirst⟩ | ⟨hnone, hnowhere⟩
  · rw [hplace, Option.getD_some]
    exact iff_of_true hfirst.here ⟨place, hfirst.start_le, hfirst.here⟩
  · rw [hnone, Option.getD_none]
    refine iff_of_false (hnowhere offset le_rfl) ?_
    rintro ⟨place, hplace, hhere⟩
    exact hnowhere place hplace hhere

/-- The name is looked for on the line. -/
theorem logPlace_le {line : List Char} {offset : Nat} (h : offset ≤ line.length) :
    logPlace line offset ≤ line.length := by
  rw [logPlace]
  rcases findFrom?_cases logText.toList line offset with ⟨place, hplace, hfirst⟩ | ⟨hnone, -⟩
  · have hroom := hfirst.here.length_le
    rw [List.length_drop, show logText.toList.length = 6 from rfl] at hroom
    rw [hplace, Option.getD_some]
    omega
  · rwa [hnone]

end LoggedError

/-! ## Both -/

/-- What is suggested has one edit. It exchanges what stands between its places, and bears this text
as the one that it replaces exactly if `found` holds. -/
def RenamesIff (request : AdviceRequest) (suggestions : List Suggestion) (found : Prop) : Prop :=
  ∃ suggestion edit, suggestions = [suggestion] ∧ suggestion.edits = [edit]
    ∧ edit.Exchanges request.source (edit.spanText request)
    ∧ (edit.oldText.toList = edit.spanText request ↔ found)

/-- It is enough to know the line of the finding. -/
theorem RenamesIff.of_staysOn {violation : Violation} {source fileName : String}
    {front back : List (List Char)} {line : List Char}
    (hstands : violation.StandsOn source.toList front line back) {suggestion : Suggestion}
    {edit : Edit} (hedits : suggestion.edits = [edit]) {start stop : Nat}
    (hstays : edit.StaysOn front.length start stop) (hstart : start ≤ line.length)
    (hle : start ≤ stop) {found : Prop}
    (hold : edit.oldText.toList = Slice.between line start stop ↔ found) :
    RenamesIff ⟨violation, source, fileName⟩ [suggestion] found := by
  refine ⟨suggestion, edit, rfl, hedits, hstands.exchanges fileName hstays hstart hle, ?_⟩
  rwa [hstands.spanText_eq fileName hstays]

/-- The edit that writes another name for a call bears the text that it replaces exactly if the call
is found from the place of the finding on: the blocking call with arguments that end on its line,
the call of the log with `gs.` in front of it. -/
theorem renaming_bears_replaced_text_iff {context : CheckContext}
    (hfeeds : BreaksByFeeds context.source.toList) :
    (∀ violation ∈ BlockingAjax.check context, violation.offset < BlockingAjax.placeBound →
      let request : AdviceRequest := ⟨violation, context.source, context.fileName⟩
      ∃ suggestions, BlockingAjax.advise request = .ok suggestions
        ∧ RenamesIff request suggestions (∃ place, violation.offset ≤ place
            ∧ BlockingAjax.IsClosedCall (request.line.drop place)))
    ∧ (Location.MarksAll (calls context.tree.visits) context.source.toList →
      ∀ violations, LoggedError.check context = .ok violations → ∀ violation ∈ violations,
        let request : AdviceRequest := ⟨violation, context.source, context.fileName⟩
        RenamesIff request (LoggedError.advise request) (∃ place, violation.offset ≤ place
          ∧ LoggedError.logText.toList <+: request.line.drop place)) := by
  constructor
  · intro violation hviolation hplace request
    obtain ⟨front, line, back, hstands, hcall⟩ := BlockingAjax.exists_standsOn hfeeds hviolation
    obtain rfl : request.line = line := hstands.line_eq context.fileName
    obtain ⟨hname, hcovers⟩ := BlockingAjax.target_covers hcall
    have hroom := hname.length_le
    rw [List.length_drop, show BlockingAjax.callName.length = 10 from rfl] at hroom
    refine ⟨_, by rw [BlockingAjax.advise, if_neg (Nat.not_le_of_lt hplace)], ?_⟩
    refine .of_staysOn hstands rfl ⟨?_, hstands.number_eq, rfl, hstands.number_eq, rfl, ?_⟩
      (by omega) ((Nat.le_add_right _ _).trans hcovers) (BlockingAjax.oldText_eq_iff _ _)
    · exact show EditKind.replace ≠ .delete by decide
    · exact show '\n' ∉ BlockingAjax.asyncCall by decide
  · intro hmarks violations hcheck violation hviolation request
    obtain ⟨call, hcall, rfl⟩ := LoggedError.exists_call_of_check hcheck hviolation
    obtain ⟨location, hlocation, hmark⟩ := hmarks call hcall
    obtain ⟨front, line, back, hstands⟩ :=
      hmark.exists_standsOn hfeeds hlocation LoggedError.info LoggedError.message
    obtain rfl : request.line = line := hstands.line_eq context.fileName
    refine .of_staysOn hstands rfl ⟨?_, hstands.number_eq, rfl, hstands.number_eq, rfl, ?_⟩
      (LoggedError.logPlace_le hstands.offset_le) (Nat.le_add_right _ _)
      (LoggedError.oldText_eq_iff _ _)
    · exact show EditKind.replace ≠ .delete by decide
    · exact show '\n' ∉ "gs.error".toList by decide

/-- A blocking call that is named and not made, and a call of the log that is no member of `gs`. -/
theorem renaming_bears_replaced_text_iff_not_found :
    let location : Location := ⟨2, 0, 2, 12⟩
    let callee := Node.mk "Identifier" none [("name", .leaf (.str "log"))]
    let text := Node.mk "Literal" none [("value", .leaf (.str "error"))]
    let call := Node.mk "CallExpression" (some location)
      [("callee", .node callee), ("arguments", .list [.node text])]
    let statement := Node.mk "ExpressionStatement" none [("expression", .node call)]
    let context : CheckContext :=
      { tree := ⟨.mk "Program" none [("body", .list [.node statement])]⟩
        source := "x = ga.getXMLWait;\nlog('error');", fileName := "x.js" }
    ∃ blocking logged, BlockingAjax.check context = [blocking]
      ∧ LoggedError.check context = .ok [logged]
      ∧ (∃ suggestions,
          BlockingAjax.advise ⟨blocking, context.source, context.fileName⟩ = .ok suggestions
            ∧ RenamesIff ⟨blocking, context.source, context.fileName⟩ suggestions False)
      ∧ RenamesIff ⟨logged, context.source, context.fileName⟩
          (LoggedError.advise ⟨logged, context.source, context.fileName⟩) False := by
  intro location callee text call statement context
  let logged : Violation :=
    { ruleId := LoggedError.info.id, message := LoggedError.message
      severity := LoggedError.info.severity, line := 2, column := 1
      endLine := some 2, endColumn := some 13, node := some 2 }
  have hblocking : BlockingAjax.check context = [BlockingAjax.findingAt 1 7] := by decide +kernel
  have hlogged : LoggedError.check context = .ok [logged] := by
    rw [← Except.toOption_eq_some_iff]
    decide +kernel
  have hmarks : Location.MarksAll (calls context.tree.visits) context.source.toList :=
    Location.marksAll_of_map_eq (show _ = [location].map some by decide +kernel) (by decide +kernel)
  have hfeeds : BreaksByFeeds context.source.toList := by decide +kernel
  obtain ⟨hajax, hlog⟩ := renaming_bears_replaced_text_iff hfeeds
  refine ⟨_, _, hblocking, hlogged, ?_, ?_⟩
  · obtain ⟨suggestions, hadvise, hrenames⟩ :=
      hajax _ (hblocking ▸ List.mem_singleton_self _) (by decide +kernel)
    -- the first line has no parenthesis that opens
    have hnone : ¬∃ place, (BlockingAjax.findingAt 1 7).offset ≤ place
        ∧ BlockingAjax.IsClosedCall ((AdviceRequest.line
          ⟨BlockingAjax.findingAt 1 7, context.source, context.fileName⟩).drop place) := by
      rintro ⟨place, -, blanks, arguments, rest, hcall, -⟩
      have hopen : '(' ∈ AdviceRequest.line
          ⟨BlockingAjax.findingAt 1 7, context.source, context.fileName⟩ := by
        refine List.mem_of_mem_drop (i := place) ?_
        rw [hcall]
        simp
      exact absurd hopen (by decide +kernel)
    exact ⟨suggestions, hadvise, eq_false hnone ▸ hrenames⟩
  · have hrenames := hlog hmarks _ hlogged _ (List.mem_singleton_self _)
    -- the second line has no dot
    have hnone : ¬∃ place, logged.offset ≤ place ∧ LoggedError.logText.toList
        <+: (AdviceRequest.line ⟨logged, context.source, context.fileName⟩).drop place := by
      rintro ⟨place, -, hcall⟩
      have hdot : '.' ∈ AdviceRequest.line ⟨logged, context.source, context.fileName⟩ :=
        List.mem_of_mem_drop (hcall.subset (by decide))
      exact absurd hdot (by decide +kernel)
    exact eq_false hnone ▸ hrenames

end ScriptAdvisor
