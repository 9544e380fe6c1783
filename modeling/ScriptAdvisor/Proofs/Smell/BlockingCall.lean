import ScriptAdvisor.Comparison
import ScriptAdvisor.Proofs.Edit.OneLine
import ScriptAdvisor.Proofs.Text.Occurrence
import ScriptAdvisor.Smell.BlockingAjax

/-! # Mending blocking calls one by one

The rule reports the first blocking call of a line. What is replaced for it may be a later one, the
first that has its arguments on the line, or, if none has, as many characters as the usual call
takes. Either way the stretch starts with the name of the call and takes all of it. The new text has
no such name, and none comes about where it meets the rest of the line, since the name has its first
letter and no closing parenthesis inside.

* `BlockingAjax.occurrences_mended_lt`: a line that is mended holds fewer names.
* `BlockingAjax.mendFirst?` is one round, and `BlockingAjax.Rounds` are several.
* `BlockingAjax.Rounds.count_add_occurrences_le`: there are at most as many rounds as names.
* `BlockingAjax.exists_rounds_to_end`: the rounds come to an end, and no name is left. -/

namespace ScriptAdvisor

open Text

namespace BlockingAjax

/-- The call that is written instead. -/
def asyncCall : List Char := "getXML(callback)".toList

/-! ## One line -/

section Line

variable {line : List Char} {start stop offset : Nat}

/-- A call takes its name and more. -/
theorem callLength?_eq_some {text : List Char} {taken : Nat} (h : callLength? text = some taken) :
    callName <+: text ∧ callName.length ≤ taken := by
  rw [callLength?] at h
  split at h
  · contradiction
  · rename_i rest hname
    split at h
    · rename_i arguments hopen
      split at h
      · rename_i behind hclose
        have htext := eq_append_of_after? hname
        have hblanks := (List.dropWhile_suffix (l := rest) isBlank).length_le
        have hinside := (List.dropWhile_suffix (l := arguments) (· != ')')).length_le
        rw [hopen, List.length_cons] at hblanks
        rw [hclose, List.length_cons] at hinside
        obtain rfl : text.length - behind.length = taken := by simpa using h
        refine ⟨⟨rest, htext.symm⟩, ?_⟩
        rw [htext, List.length_append]
        omega
      · contradiction
    · contradiction

/-- What is replaced is the first call with arguments from the place on, or, if there is none, as
many characters as the usual call has. -/
theorem target_cases (line : List Char) (offset : Nat) :
    (∃ place taken, callLength? (line.drop place) = some taken
        ∧ IsFirstFrom (fun rest => (callLength? rest).isSome) line offset place
        ∧ target line offset
          = (⟨place, place + taken⟩, String.ofList ((line.drop place).take taken)))
      ∨ (∀ place, offset ≤ place → callLength? (line.drop place) = none)
        ∧ target line offset = (⟨offset, offset + usualCall.length⟩, usualCall) := by
  rw [target]
  rcases search?_cases callLength? rfl line offset with
    ⟨place, taken, hsearch, hcall, hfirst⟩ | ⟨hsearch, hnowhere⟩
  · exact .inl ⟨place, taken, hcall, hfirst, by rw [hsearch]⟩
  · exact .inr ⟨hnowhere, by rw [hsearch]⟩

/-- What is replaced starts with the name of the call and takes all of it. -/
theorem target_covers (h : callName <+: line.drop offset) :
    callName <+: line.drop (target line offset).1.start
      ∧ (target line offset).1.start + callName.length ≤ (target line offset).1.stop := by
  rcases target_cases line offset with ⟨place, taken, hcall, -, htarget⟩ | ⟨-, htarget⟩
  · obtain ⟨hname, hlength⟩ := callLength?_eq_some hcall
    rw [htarget]
    exact ⟨hname, Nat.add_le_add_left hlength _⟩
  · rw [htarget]
    exact ⟨h, Nat.add_le_add_left (by decide) _⟩

/-- The line with the stretch replaced. -/
def mended (line : List Char) (start stop : Nat) : List Char :=
  line.take start ++ asyncCall ++ line.drop stop

/-- The new call has no blocking name, and none starts in it. -/
theorem occurrences_asyncCall_append (text : List Char) :
    occurrences callName (asyncCall ++ text) = occurrences callName text := by
  have hcut : asyncCall = "getXML(callback".toList ++ [')'] := by decide
  have hnone : occurrences callName "getXML(callback".toList = 0 := by decide
  rw [hcut, List.append_assoc, List.singleton_append,
    occurrences_append_cons (by decide) (by decide), hnone, Nat.zero_add,
    occurrences_cons_of_notMem (by decide) text (by decide)]

/-- A line that is mended holds fewer names. -/
theorem occurrences_mended_lt (hcall : callName <+: line.drop start)
    (hstop : start + callName.length ≤ stop) :
    occurrences callName (mended line start stop) < occurrences callName line := by
  obtain ⟨rest, hrest⟩ := hcall
  have hline : line.take start ++ (callName ++ rest) = line := by
    rw [hrest, List.take_append_drop]
  -- no name reaches over a place where one could start, since its first letter stands in it once
  have hfront (text : List Char) : occurrences callName (line.take start ++ 'g' :: text)
      = occurrences callName (line.take start) + occurrences callName ('g' :: text) :=
    occurrences_append_cons (by decide) (by decide) _ _
  have hbehind : line.drop stop = rest.drop (stop - (start + callName.length)) := by
    rw [← Nat.add_sub_cancel' hstop, ← List.drop_drop, ← List.drop_drop, ← hrest, List.drop_left,
      Nat.add_sub_cancel_left]
  calc occurrences callName (mended line start stop)
      = occurrences callName (line.take start) + occurrences callName (line.drop stop) := by
        rw [mended, List.append_assoc, ← occurrences_asyncCall_append (line.drop stop)]
        exact hfront _
    _ ≤ occurrences callName (line.take start) + occurrences callName rest := by
        rw [hbehind]
        have hend := occurrences_le_append callName
          (rest.take (stop - (start + callName.length)))
          (rest.drop (stop - (start + callName.length)))
        rw [List.take_append_drop] at hend
        exact Nat.add_le_add_left hend _
    _ < occurrences callName (line.take start) + occurrences callName (callName ++ rest) :=
        Nat.add_lt_add_left (occurrences_lt_append (by decide) rest) _
    _ = occurrences callName line := by
        rw [← congrArg (occurrences callName) hline]
        exact (hfront _).symm

/-- The new call is six characters longer than the name it is written for. -/
theorem length_mended_le (hcall : callName <+: line.drop start)
    (hstop : start + callName.length ≤ stop) :
    (mended line start stop).length ≤ line.length + 6 := by
  have hroom := hcall.length_le
  rw [List.length_drop] at hroom
  simp only [mended, List.length_append, List.length_take, List.length_drop,
    show callName.length = 10 from rfl, show asyncCall.length = 16 from rfl] at hroom hstop ⊢
  omega

theorem isUnbroken_mended (h : IsUnbroken line) (start stop : Nat) :
    IsUnbroken (mended line start stop) := by
  rw [mended, isUnbroken_append, isUnbroken_append]
  exact ⟨⟨fun c hc => h c (List.mem_of_mem_take hc), by decide⟩,
    fun c hc => h c (List.mem_of_mem_drop hc)⟩

end Line

/-! ## One finding -/

variable {context : CheckContext}

/-- The finding at a place of the line with the given number. -/
def findingAt (number start : Nat) : Violation :=
  info.violationOn message number start (start + callName.length)

/-- A finding stands on a line between two line feeds, where the name stands. -/
theorem mem_check (hfeeds : BreaksByFeeds context.source.toList) {violation : Violation}
    (h : violation ∈ check context) :
    ∃ (front : List (List Char)) (line : List Char) (back : List (List Char)) (start : Nat),
      splitNewlines context.source.toList = front ++ line :: back
      ∧ (lines context.source.toList)[front.length]? = some line
      ∧ callName <+: line.drop start ∧ violation = findingAt (front.length + 1) start := by
  obtain ⟨⟨line, number⟩, hline, hfound⟩ := List.mem_filterMap.mp h
  obtain ⟨front, back, hpieces, rfl, hget⟩ := exists_pieces_of_mem_lines hfeeds hline
  obtain ⟨start, hstart, rfl⟩ := Option.map_eq_some_iff.mp hfound
  exact ⟨front, line, back, start, hpieces, hget, prefix_drop_of_find? hstart, rfl⟩

/-- A source without findings has no name in it. -/
theorem occurrences_eq_zero (context : CheckContext) (hfeeds : BreaksByFeeds context.source.toList)
    (h : check context = []) : occurrences callName context.source.toList = 0 := by
  have hnone : ((splitNewlines context.source.toList).zipIdx 1).flatMap
      (fun numbered => (checkLine numbered.1 numbered.2).toList) = [] := by
    rw [← flatMap_lines hfeeds fun number => rfl, ← List.filterMap_eq_flatMap_toList]
    exact h
  rw [← joinNewlines_splitNewlines context.source.toList,
    occurrences_joinNewlines (by decide) (by decide), List.sum_eq_zero_iff, List.forall_mem_map]
  intro piece hpiece
  obtain ⟨number, hnumber⟩ := List.mem_iff_getElem?.mp hpiece
  have hmem : (piece, number + 1) ∈ (splitNewlines context.source.toList).zipIdx 1 :=
    List.mem_zipIdx_iff_le_and_getElem?_sub.mpr ⟨Nat.le_add_left _ _, hnumber⟩
  have hunfound := List.flatMap_eq_nil_iff.mp hnone _ hmem
  rwa [Option.toList_eq_nil_iff, checkLine, Option.map_eq_none_iff, find?_eq_none_iff] at hunfound

/-- The edit that is suggested for a finding on a line. -/
def asyncEdit (number : Nat) (line : List Char) (offset : Nat) : Edit :=
  { kind := .replace, startLine := number, startColumn := (target line offset).1.start
    endLine := number, endColumn := (target line offset).1.stop, oldText := (target line offset).2
    newText := "getXML(callback)", description := "Replace with async getXML" }

/-- One edit is suggested for a finding, unless it lies too far to the right. -/
theorem edits_advise {count start : Nat} {line : List Char}
    (hget : (lines context.source.toList)[count]? = some line) (hstart : start < placeBound) :
    ∃ suggestions,
      advise ⟨findingAt (count + 1) start, context.source, context.fileName⟩ = .ok suggestions
        ∧ suggestions.flatMap (·.edits) = [asyncEdit (count + 1) line start] := by
  have hoffset : (findingAt (count + 1) start).offset = start :=
    info.offset_violationOn _ _ _ _
  have hline : AdviceRequest.line
      ⟨findingAt (count + 1) start, context.source, context.fileName⟩ = line :=
    AdviceRequest.lineAt_of_getElem? hget
  rw [advise, hoffset, if_neg (Nat.not_le_of_lt hstart), hline]
  exact ⟨_, rfl, rfl⟩

/-! ## One round -/

/-- A source after one round: what is suggested for the first finding is applied. There is no next
source if nothing is found or nothing can be done about it. -/
def mendFirst? (context : CheckContext) : Option String := do
  let violation ← (check context).head?
  let suggestions ← (advise ⟨violation, context.source, context.fileName⟩).toOption
  (applyEdits context.source (suggestions.flatMap (·.edits))).toOption

/-- One source is nearer to the end than another: it holds fewer names, and is not much longer. -/
structure IsNearer (after source : String) : Prop where
  /-- There are no other line breaks than line feeds. -/
  breaksByFeeds : BreaksByFeeds after.toList
  /-- It holds fewer names. -/
  occurrences_lt : occurrences callName after.toList < occurrences callName source.toList
  /-- It has at most six characters more. -/
  length_le : after.length ≤ source.length + 6

/-- A line that is mended brings a source nearer to the end. -/
theorem isNearer_of_pieces {source after : String} {front back : List (List Char)}
    {line : List Char} {start stop : Nat} (hfeeds : BreaksByFeeds source.toList)
    (hsource : splitNewlines source.toList = front ++ line :: back)
    (hafter : splitNewlines after.toList = front ++ mended line start stop :: back)
    (hcall : callName <+: line.drop start) (hstop : start + callName.length ≤ stop) :
    IsNearer after source := by
  have hline : IsUnbroken line :=
    breaksByFeeds_iff.mp hfeeds line (by simp [hsource])
  refine ⟨hfeeds.of_pieces hsource hafter (isUnbroken_mended hline start stop), ?_, ?_⟩
  · have hlt := occurrences_mended_lt hcall hstop
    rw [← joinNewlines_splitNewlines source.toList, ← joinNewlines_splitNewlines after.toList,
      hsource, hafter, occurrences_joinNewlines (by decide) (by decide),
      occurrences_joinNewlines (by decide) (by decide)]
    simp only [List.map_append, List.map_cons, List.sum_append, List.sum_cons]
    omega
  · have hle := length_mended_le hcall hstop
    rw [← String.length_toList, ← String.length_toList, eq_append_of_pieces hsource,
      eq_append_of_pieces hafter]
    simp only [List.length_append]
    omega

/-- What is suggested for any finding can be applied, and brings the source nearer to the end. -/
theorem exists_isNearer (hfeeds : BreaksByFeeds context.source.toList) {violation : Violation}
    (h : violation ∈ check context) (hplace : violation.offset < placeBound) :
    ∃ suggestions after, advise ⟨violation, context.source, context.fileName⟩ = .ok suggestions
      ∧ applyEdits context.source (suggestions.flatMap (·.edits)) = .ok after
      ∧ IsNearer after context.source := by
  obtain ⟨front, line, back, start, hpieces, hget, hcall, rfl⟩ := mem_check hfeeds h
  rw [findingAt, RuleInfo.offset_violationOn] at hplace
  obtain ⟨suggestions, hadvise, hedits⟩ := edits_advise hget hplace
  obtain ⟨hname, hstop⟩ := target_covers hcall
  have hstays : (asyncEdit (front.length + 1) line start).StaysOn front.length
      (target line start).1.start (target line start).1.stop :=
    ⟨nofun, rfl, rfl, rfl, rfl, show '\n' ∉ asyncCall by decide⟩
  obtain ⟨after, hafter, hchanged⟩ := applyEdits_of_staysOn hpieces hstays
  exact ⟨suggestions, after, hadvise, hedits ▸ hafter,
    isNearer_of_pieces hfeeds hpieces hchanged hname hstop⟩

theorem offset_lt_length (hfeeds : BreaksByFeeds context.source.toList) {violation : Violation}
    (h : violation ∈ check context) : violation.offset < context.source.length := by
  obtain ⟨front, line, back, start, hpieces, -, hcall, rfl⟩ := mem_check hfeeds h
  have hroom := hcall.length_le
  rw [List.length_drop, show callName.length = 10 from rfl] at hroom
  rw [findingAt, RuleInfo.offset_violationOn, ← String.length_toList, eq_append_of_pieces hpieces]
  simp only [List.length_append]
  omega

/-- A round brings the source nearer to the end. If there is none, nothing is found, or the source
is too long. -/
theorem mendFirst?_cases (context : CheckContext) (hfeeds : BreaksByFeeds context.source.toList) :
    (∃ after, mendFirst? context = some after ∧ IsNearer after context.source)
      ∨ mendFirst? context = none ∧ (check context = [] ∨ placeBound < context.source.length) := by
  cases hcheck : check context with
  | nil =>
      refine .inr ⟨?_, .inl rfl⟩
      rw [mendFirst?, hcheck]
      rfl
  | cons violation others =>
      have hmem : violation ∈ check context := hcheck ▸ List.mem_cons_self
      by_cases hplace : violation.offset < placeBound
      · obtain ⟨suggestions, after, hadvise, hafter, hnearer⟩ := exists_isNearer hfeeds hmem hplace
        refine .inl ⟨after, ?_, hnearer⟩
        rw [mendFirst?, hcheck, List.head?_cons, Option.bind_eq_bind, Option.bind_some, hadvise]
        exact congrArg Except.toOption hafter
      · have hlength := offset_lt_length hfeeds hmem
        refine .inr ⟨?_, .inr (by omega)⟩
        rw [mendFirst?, hcheck, List.head?_cons, Option.bind_eq_bind, Option.bind_some, advise,
          if_pos (Nat.le_of_not_lt hplace)]
        rfl

/-! ## All rounds -/

/-- So many rounds lead from a source to another. -/
inductive Rounds (context : CheckContext) : Nat → String → String → Prop
  /-- A source is left as it is. -/
  | none (source : String) : Rounds context 0 source source
  /-- One round comes first. -/
  | next {count : Nat} {source between after : String}
      (first : mendFirst? { context with source } = some between)
      (others : Rounds context count between after) : Rounds context (count + 1) source after

theorem isNearer_of_mendFirst? (context : CheckContext)
    (hfeeds : BreaksByFeeds context.source.toList) {after : String}
    (h : mendFirst? context = some after) : IsNearer after context.source := by
  rcases mendFirst?_cases context hfeeds with ⟨between, hround, hnearer⟩ | ⟨hnone, -⟩
  · obtain rfl := Option.some.inj (hround.symm.trans h)
    exact hnearer
  · rw [hnone] at h
    contradiction

/-- Every round takes a name away, and none makes the source much longer. -/
theorem Rounds.count_add_occurrences_le {count : Nat} {source after : String}
    (h : Rounds context count source after) (hfeeds : BreaksByFeeds source.toList) :
    BreaksByFeeds after.toList
      ∧ count + occurrences callName after.toList ≤ occurrences callName source.toList
      ∧ after.length ≤ source.length + 6 * count := by
  induction h with
  | none source => exact ⟨hfeeds, by omega, by omega⟩
  | @next count source between after first others ih =>
      have hnearer : IsNearer between source :=
        isNearer_of_mendFirst? { context with source } hfeeds first
      obtain ⟨hafter, hcount, hlength⟩ := ih hnearer.breaksByFeeds
      have hfewer := hnearer.occurrences_lt
      have hlonger := hnearer.length_le
      exact ⟨hafter, by omega, by omega⟩

/-- There are rounds that lead to a source that has no further one. -/
theorem exists_rounds (context : CheckContext) {source : String}
    (hfeeds : BreaksByFeeds source.toList) :
    ∃ count after, Rounds context count source after
      ∧ mendFirst? { context with source := after } = none := by
  induction hcount : occurrences callName source.toList using Nat.strong_induction_on
    generalizing source with
  | _ names ih =>
      rcases mendFirst?_cases { context with source } hfeeds with
        ⟨between, hround, hnearer⟩ | ⟨hnone, -⟩
      · obtain ⟨count, after, hrounds, hend⟩ :=
          ih _ (hcount ▸ hnearer.occurrences_lt) hnearer.breaksByFeeds rfl
        exact ⟨count + 1, after, .next hround hrounds, hend⟩
      · exact ⟨0, source, .none source, hnone⟩

/-- On a source whose only line breaks are line feeds, mending the first finding again and again
takes at most as many rounds as the source has names of the blocking call. It ends in a source that
is not much longer, and that has no name and no findings. The only way to end before is a line that
is longer than the places a search can start from, of which a text in memory falls far short. -/
theorem exists_rounds_to_end (hfeeds : BreaksByFeeds context.source.toList) :
    (∀ count after, Rounds context count context.source after →
        count ≤ occurrences callName context.source.toList)
      ∧ ∃ count after, Rounds context count context.source after
        ∧ mendFirst? { context with source := after } = none
        ∧ after.length ≤ context.source.length + 6 * count
        ∧ (after.length ≤ placeBound →
            occurrences callName after.toList = 0
              ∧ rule.check { context with source := after } = .found []) := by
  constructor
  · intro count after hrounds
    obtain ⟨-, hcount, -⟩ := hrounds.count_add_occurrences_le hfeeds
    omega
  · obtain ⟨count, after, hrounds, hend⟩ := exists_rounds context hfeeds
    obtain ⟨hafter, -, hlength⟩ := hrounds.count_add_occurrences_le hfeeds
    refine ⟨count, after, hrounds, hend, hlength, fun hroom => ?_⟩
    rcases mendFirst?_cases { context with source := after } hafter with
      ⟨between, hround, -⟩ | ⟨-, hclear | hlong⟩
    · rw [hend] at hround
      contradiction
    · exact ⟨occurrences_eq_zero { context with source := after } hafter hclear,
        congrArg CheckOutcome.found hclear⟩
    · simp only at hlong
      omega

/-- A call that is not closed on its line, and a name without arguments in front of a call. -/
theorem exists_rounds_to_end_three_calls :
    let context : CheckContext :=
      { tree := default, source := "a.getXMLWait(\nx = getXMLWait, y.getXMLWait(z);"
        fileName := "x.js" }
    BreaksByFeeds context.source.toList
      ∧ occurrences callName context.source.toList = 3
      ∧ ∃ count after, Rounds context count context.source after ∧ count ≤ 3
        ∧ occurrences callName after.toList = 0
        ∧ rule.check { context with source := after } = .found [] := by
  intro context
  have hfeeds : BreaksByFeeds context.source.toList := by
    decide +kernel
  have hthree : occurrences callName context.source.toList = 3 := by
    decide +kernel
  obtain ⟨hbound, count, after, hrounds, -, hlength, hclear⟩ := exists_rounds_to_end hfeeds
  have hcount : count ≤ 3 := hthree ▸ hbound count after hrounds
  have hroom : context.source.length + 18 ≤ placeBound := by
    decide +kernel
  exact ⟨hfeeds, hthree, count, after, hrounds, hcount, hclear (by omega)⟩

end BlockingAjax

end ScriptAdvisor
