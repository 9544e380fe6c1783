import ScriptAdvisor.Proofs.Except
import ScriptAdvisor.Proofs.Smell.AnyType
import ScriptAdvisor.Proofs.Text.Search
import ScriptAdvisor.Smell.MissingReturnType

/-! # Where the return type is put

The return type belongs behind the parenthesis that closes the parameter list. The suggestion puts
it behind the first parenthesis that closes anything. This is another one if a parameter has
parentheses of its own, or if some are closed between the place of the finding and the list.

* `Text.IsBalanced` is said of a text whose parentheses are closed in it.
* `Text.IsParameterList` splits a text at the first parenthesis that opens and the one that closes
  it, and `Text.IsParameterList.unique` says that there is only one.
* `AdviceRequest.FollowsFeeds`: the line of a finding has the same number by the line breaks of any
  kind and by the line feeds.
* `MissingReturnType.annotates_parameter_list_iff` says when the return type is put behind the
  latter. -/

namespace ScriptAdvisor

open Text

/-! ## Parentheses -/

namespace Text

/-- Every parenthesis of a text is opened and closed in it. -/
inductive IsBalanced : List Char → Prop
  /-- There are none. -/
  | nil : IsBalanced []
  /-- Another character comes first. -/
  | other {c : Char} {rest : List Char} (hopen : c ≠ '(') (hclose : c ≠ ')')
      (hrest : IsBalanced rest) : IsBalanced (c :: rest)
  /-- A text in parentheses comes first. -/
  | group {inner rest : List Char} (hinner : IsBalanced inner) (hrest : IsBalanced rest) :
      IsBalanced ('(' :: (inner ++ ')' :: rest))

/-- A parenthesis is closed in a balanced text exactly if one is opened. -/
theorem IsBalanced.close_mem_iff {text : List Char} (h : IsBalanced text) :
    ')' ∈ text ↔ '(' ∈ text := by
  induction h with
  | nil => simp
  | @other c rest hopen hclose _ ih =>
      rw [List.mem_cons, List.mem_cons, ih]
      simp [hopen.symm, hclose.symm]
  | group => exact iff_of_true (by simp) List.mem_cons_self

/-- A balanced text ends at one place at most if a parenthesis is closed behind it. -/
theorem IsBalanced.eq_of_append_close {text other rest rest' : List Char} (h : IsBalanced text)
    (hother : IsBalanced other) (heq : text ++ ')' :: rest = other ++ ')' :: rest') :
    text = other := by
  induction h generalizing other rest rest' with
  | nil =>
      cases hother with
      | nil => rfl
      | other _ hclose _ => exact absurd (List.cons.inj heq).1.symm hclose
      | group => exact absurd (List.cons.inj heq).1 (by decide)
  | other hopen hclose _ ih =>
      cases hother with
      | nil => exact absurd (List.cons.inj heq).1 hclose
      | other _ _ hrest =>
          obtain ⟨rfl, htail⟩ := List.cons.inj heq
          rw [ih hrest htail]
      | group => exact absurd (List.cons.inj heq).1 hopen
  | @group inner text _ _ ihinner ihrest =>
      cases hother with
      | nil => exact absurd (List.cons.inj heq).1 (by decide)
      | other hopen _ _ => exact absurd (List.cons.inj heq).1.symm hopen
      | @group inner' other hinner hrest =>
          simp only [List.cons_append, List.append_assoc, List.cons.injEq, true_and] at heq
          -- the first groups are the same, and so is what follows them
          obtain rfl := ihinner hinner heq
          rw [ihrest hrest (List.cons.inj (List.append_cancel_left heq)).2]

/-- A text has a parameter list: the first parenthesis that opens stands behind `lead`, and the one
that closes it behind `inner`. -/
structure IsParameterList (text lead inner rest : List Char) : Prop where
  /-- These are the parts. -/
  eq_append : text = lead ++ '(' :: (inner ++ ')' :: rest)
  /-- None opens before. -/
  open_notMem : '(' ∉ lead
  /-- What is opened inside is closed inside. -/
  isBalanced : IsBalanced inner

/-- A text has at most one parameter list: a text tells which parenthesis closes the first that
opens. -/
theorem IsParameterList.unique {text lead inner rest lead' inner' rest' : List Char}
    (h : IsParameterList text lead inner rest) (hother : IsParameterList text lead' inner' rest') :
    lead = lead' ∧ inner = inner' ∧ rest = rest' := by
  have hparts := h.eq_append.symm.trans hother.eq_append
  -- the first parenthesis that opens ends either lead
  have hlead : lead = lead' := by
    have hends (front behind : List Char) (hfront : '(' ∉ front) :
        (front ++ '(' :: behind).takeWhile (· != '(') = front := by
      refine takeWhile_append_of_head? (fun c hc => ?_) (by rintro c ⟨⟩; rfl)
      rw [bne_iff_ne]
      rintro rfl
      exact hfront hc
    rw [← hends lead _ h.open_notMem, ← hends lead' _ hother.open_notMem, hparts]
  subst hlead
  have hbehind := (List.cons.inj (List.append_cancel_left hparts)).2
  obtain rfl := h.isBalanced.eq_of_append_close hother.isBalanced hbehind
  exact ⟨rfl, rfl, (List.cons.inj (List.append_cancel_left hbehind)).2⟩

/-- The closing parenthesis is the first one exactly if none is closed before the list, and none is
opened inside. -/
theorem IsParameterList.close_notMem_iff {text lead inner rest : List Char}
    (h : IsParameterList text lead inner rest) :
    ')' ∉ lead ++ '(' :: inner ↔ ')' ∉ lead ∧ '(' ∉ inner := by
  rw [List.mem_append, List.mem_cons, h.isBalanced.close_mem_iff]
  simp

/-! ## Insertions -/

/-- A text with a word put in at a place. -/
def insertedAt (text : List Char) (place : Nat) (word : List Char) : List Char :=
  text.take place ++ (word ++ text.drop place)

theorem insertedAt_append (front word rest : List Char) :
    insertedAt (front ++ rest) front.length word = front ++ (word ++ rest) := by
  rw [insertedAt, List.take_left, List.drop_left]

/-- A word that is put in before a stretch and not behind it makes another text if the two do not
end alike. -/
theorem append_insertion_ne {word between : List Char} (hlast : between.getLast? ≠ word.getLast?)
    (hbetween : between ≠ []) (hword : word ≠ []) (front rest : List Char) :
    front ++ (word ++ (between ++ rest)) ≠ front ++ (between ++ (word ++ rest)) := by
  intro heq
  have hswap : word ++ between = between ++ word := by
    have hcancel := List.append_cancel_left heq
    rw [← List.append_assoc, ← List.append_assoc] at hcancel
    exact List.append_cancel_right hcancel
  have hend := congrArg List.getLast? hswap
  rw [List.getLast?_append_of_ne_nil _ hbetween, List.getLast?_append_of_ne_nil _ hword] at hend
  exact hlast hend

end Text

/-! ## The line of a finding -/

namespace AdviceRequest

open AnyType (linesBefore placeIn)

/-- The line that a provider gets to see stands behind those before it in the source, and in front
of `behind`. -/
structure SeesLine (request : AdviceRequest) (behind : List Char) : Prop where
  /-- These are the parts of the source. -/
  source_eq : request.source.toList
    = (linesBefore request.source.toList request.violation).flatten ++ (request.line ++ behind)
  /-- It is one line. -/
  newline_notMem : '\n' ∉ request.line
  /-- The finding bears its number. -/
  number_eq : request.violation.line
    = (linesBefore request.source.toList request.violation).length + 1

/-- Every line before the finding ends in a line feed. -/
def FollowsFeeds (request : AdviceRequest) : Prop :=
  ∀ line ∈ linesBefore request.source.toList request.violation, line.getLast? = some '\n'

/-- A line that is not empty is one of the source. -/
theorem exists_seesLine {request : AdviceRequest} (h : request.line ≠ []) :
    ∃ behind, request.SeesLine behind := by
  have hnumber : 1 ≤ request.violation.line := by
    by_contra hlt
    rw [line, lineAt, if_pos (by omega)] at h
    exact h rfl
  have hget : (Text.lines request.source.toList)[(request.violation.line - 1).toNat]?
      = some request.line := by
    rw [line, lineAt, if_neg (by omega)] at h ⊢
    cases hline : request.lines[(request.violation.line - 1).toNat]? with
    | none =>
        rw [hline] at h
        exact absurd rfl h
    | some found => exact hline
  obtain ⟨behind, hsource, hfeed, hcount⟩ := exists_cut_of_lines hget
  refine ⟨behind, ?_, hfeed, ?_⟩
  · rw [← List.append_assoc]
    exact hsource
  · rw [linesBefore, hcount]
    omega

/-- The source up to the place behind the finding where `front` ends. -/
def textTo (request : AdviceRequest) (front : List Char) : List Char :=
  (linesBefore request.source.toList request.violation).flatten
    ++ (request.line.take request.violation.offset ++ front)

variable {request : AdviceRequest} {behind front rest : List Char}

theorem length_textTo (h : request.violation.offset ≤ request.line.length) (front : List Char) :
    (request.textTo front).length
      = placeIn request.source.toList request.violation + front.length := by
  rw [textTo, placeIn, List.length_append, List.length_append, List.length_take_of_le h,
    Nat.add_assoc]

theorem textTo_append (request : AdviceRequest) (front more : List Char) :
    request.textTo (front ++ more) = request.textTo front ++ more := by
  simp only [textTo, List.append_assoc]

namespace SeesLine

variable (h : request.SeesLine behind)
  (hline : request.line.drop request.violation.offset = front ++ rest)
include h hline

theorem source_eq_textTo : request.source.toList = request.textTo front ++ (rest ++ behind) := by
  have hparts : request.line = request.line.take request.violation.offset ++ (front ++ rest) := by
    rw [← hline, List.take_append_drop]
  conv_lhs => rw [h.source_eq, hparts]
  simp only [textTo, List.append_assoc]

theorem newline_notMem_append : '\n' ∉ request.line.take request.violation.offset ++ front := by
  intro hmem
  refine h.newline_notMem ?_
  rw [← List.take_append_drop request.violation.offset request.line, hline, ← List.append_assoc]
  exact List.mem_append_left _ hmem

theorem count_textTo : (request.textTo front).count '\n'
    = (linesBefore request.source.toList request.violation).flatten.count '\n' := by
  rw [textTo, List.count_append, List.count_eq_zero.mpr (h.newline_notMem_append hline),
    Nat.add_zero]

/-- If the lines before end in line feeds, the place has the same number by either way of counting
lines. -/
theorem endsAt_textTo (hoffset : request.violation.offset ≤ request.line.length)
    (hfeeds : request.FollowsFeeds) :
    EndsAt (request.textTo front) request.violation.line
      (request.violation.offset + front.length : Nat) := by
  have hcount : (linesBefore request.source.toList request.violation).flatten.count '\n'
      = (linesBefore request.source.toList request.violation).length :=
    (count_newline_flatten_take_eq_iff _ _).mpr hfeeds
  have hends := endsAt_append (getLast?_flatten hfeeds) (h.newline_notMem_append hline)
  rwa [hcount, ← h.number_eq, List.length_append, List.length_take_of_le hoffset] at hends

/-- If a line before ends otherwise, the edits that bear the number of the finding lie below. -/
theorem count_textTo_lt (hfeeds : ¬request.FollowsFeeds) :
    ((request.textTo front).count '\n' : Int) + 1 < request.violation.line := by
  have hle : (linesBefore request.source.toList request.violation).flatten.count '\n'
      ≤ (linesBefore request.source.toList request.violation).length :=
    count_newline_flatten_take_le _ _
  have hne : (linesBefore request.source.toList request.violation).flatten.count '\n'
      ≠ (linesBefore request.source.toList request.violation).length :=
    mt (count_newline_flatten_take_eq_iff _ _).mp hfeeds
  rw [h.count_textTo hline, h.number_eq]
  omega

end SeesLine

end AdviceRequest

namespace MissingReturnType

/-- What is put in. -/
def returnType : List Char := ": void".toList

/-- The suggestion finds the first parenthesis that closes. -/
theorem annotation_eq {line front rest : List Char} {offset : Nat}
    (hline : line.drop offset = front ++ ')' :: rest) (hfront : ')' ∉ front) :
    annotation line offset = (offset + front.length, ")", "): void") := by
  have hfirst : IsFirstFrom (")".toList <+: ·) line offset (offset + front.length) :=
    (isFirstFrom_singleton_iff hline).mpr hfront
  unfold annotation
  rcases findFrom?_cases ")".toList line offset with ⟨place, hplace, hfound⟩ | ⟨-, hnowhere⟩
  · rw [hplace, hfound.unique hfirst]
  · exact absurd hfirst.here (hnowhere _ hfirst.start_le)

/-- The edit that puts the return type behind the parenthesis at a place of a line. -/
def typeEdit (number : Int) (place : Nat) : Edit :=
  { kind := .replace, startLine := number, startColumn := place, endLine := number
    endColumn := place + 1, oldText := ")", newText := "): void"
    description := "Add return type annotation" }

variable {request : AdviceRequest} {front rest behind : List Char}

theorem exists_suggestion
    (hline : request.line.drop request.violation.offset = front ++ ')' :: rest)
    (hfront : ')' ∉ front) :
    ∃ suggestion, advise request = [suggestion] ∧ suggestion.edits
      = [typeEdit request.violation.line (request.violation.offset + front.length)] := by
  rw [advise, annotation_eq hline hfront]
  exact ⟨_, rfl, rfl⟩

/-- Where the lines before the finding end in line feeds, the return type comes behind the
parenthesis. -/
theorem applyEdits_typeEdit (h : request.SeesLine behind)
    (hline : request.line.drop request.violation.offset = front ++ ')' :: rest)
    (hoffset : request.violation.offset ≤ request.line.length) (hfeeds : request.FollowsFeeds) :
    applyEdits request.source
        [typeEdit request.violation.line (request.violation.offset + front.length)]
      = .ok (String.ofList
          (request.textTo front ++ ([')'] ++ (returnType ++ (rest ++ behind))))) := by
  have hcut : request.source.toList = request.textTo front ++ [')'] ++ (rest ++ behind) := by
    rw [h.source_eq_textTo hline, List.append_assoc]
    rfl
  have hclosed : request.line.drop request.violation.offset = (front ++ [')']) ++ rest := by
    rw [hline, List.append_assoc]
    rfl
  have hstop := h.endsAt_textTo hclosed hoffset hfeeds
  rw [AdviceRequest.textTo_append, List.length_append, ← Nat.add_assoc] at hstop
  have hkind : EditKind.replace ≠ .delete := by decide
  have hnew : (typeEdit request.violation.line
      (request.violation.offset + front.length)).newText.toList = [')'] ++ returnType :=
    show "): void".toList = [')'] ++ returnType by decide
  rw [applyEdits_singleton_of_endsAt hkind hcut (h.endsAt_textTo hline hoffset hfeeds) hstop, hnew,
    List.append_assoc, List.append_assoc]

/-- The return type is put behind a parenthesis that closes exactly if this is the first one, and
the lines before end in line feeds. -/
theorem applyEdits_eq_insertedAt_iff (h : request.SeesLine behind)
    (hline : request.line.drop request.violation.offset = front ++ ')' :: rest)
    (hoffset : request.violation.offset ≤ request.line.length) :
    ∃ suggestion edit, advise request = [suggestion] ∧ suggestion.edits = [edit]
      ∧ (applyEdits request.source [edit]
            = .ok (String.ofList (insertedAt request.source.toList
                (AnyType.placeIn request.source.toList request.violation + front.length + 1)
                returnType))
          ↔ ')' ∉ front ∧ request.FollowsFeeds) := by
  have hclosed : request.line.drop request.violation.offset = (front ++ [')']) ++ rest := by
    rw [hline, List.append_assoc]
    rfl
  have hcut := h.source_eq_textTo hclosed
  have hinserted : insertedAt request.source.toList
        (AnyType.placeIn request.source.toList request.violation + front.length + 1) returnType
      = request.textTo (front ++ [')']) ++ (returnType ++ (rest ++ behind)) := by
    have hlength := AdviceRequest.length_textTo hoffset (front ++ [')'])
    rw [List.length_append, List.length_singleton, ← Nat.add_assoc] at hlength
    rw [← hlength, hcut, insertedAt_append]
  -- where the numbers of lines differ, the edit misses the line
  have hmissed : ∀ place, ¬request.FollowsFeeds →
      applyEdits request.source [typeEdit request.violation.line place]
        ≠ .ok (String.ofList (request.textTo (front ++ [')'])
          ++ (returnType ++ (rest ++ behind)))) := by
    intro place hfeeds
    exact applyEdits_singleton_ne_insertion hcut (h.count_textTo_lt hclosed hfeeds) (by decide)
      (by decide)
  rw [hinserted]
  by_cases hfront : ')' ∈ front
  · obtain ⟨before, inside, rfl, hbefore⟩ := List.eq_append_cons_of_mem hfront
    have hfirst : request.line.drop request.violation.offset
        = before ++ ')' :: (inside ++ ')' :: rest) := by
      rw [hline, List.append_assoc, List.cons_append]
    obtain ⟨suggestion, hadvise, hedits⟩ := exists_suggestion hfirst hbefore
    refine ⟨suggestion, _, hadvise, hedits, iff_of_false ?_ fun hboth => hboth.1 hfront⟩
    by_cases hfeeds : request.FollowsFeeds
    · -- the return type comes too early, and what follows up to the right place ends otherwise
      rw [applyEdits_typeEdit h hfirst hoffset hfeeds]
      intro heq
      have htext := congrArg String.toList (Except.ok.inj heq)
      have hlast : (inside ++ [')']).getLast? ≠ returnType.getLast? := by
        rw [List.getLast?_concat]
        decide
      refine append_insertion_ne hlast (by simp) (by decide) (request.textTo before ++ [')'])
        (rest ++ behind) ?_
      simpa [AdviceRequest.textTo_append] using htext
    · exact hmissed _ hfeeds
  · obtain ⟨suggestion, hadvise, hedits⟩ := exists_suggestion hline hfront
    refine ⟨suggestion, _, hadvise, hedits, ?_⟩
    rw [and_iff_right hfront]
    constructor
    · intro hafter
      by_contra hfeeds
      exact hmissed _ hfeeds hafter
    · intro hfeeds
      rw [applyEdits_typeEdit h hline hoffset hfeeds, AdviceRequest.textTo_append,
        List.append_assoc]

end MissingReturnType

open AnyType (placeIn)

open MissingReturnType in
/-- If the first parenthesis that opens behind the place of a finding is closed on the same line,
the return type is put behind the parenthesis that closes it, and nothing else is changed, exactly
if no parenthesis is closed before that list, none is opened inside it, and every line before ends
in a line feed. -/
theorem MissingReturnType.annotates_parameter_list_iff {request : AdviceRequest}
    {lead inner rest : List Char}
    (h : IsParameterList (request.line.drop request.violation.offset) lead inner rest) :
    let source := request.source.toList
    let closing := placeIn source request.violation + (lead ++ '(' :: inner).length
    source[closing]? = some ')'
      ∧ ∃ suggestion edit, advise request = [suggestion] ∧ suggestion.edits = [edit]
        ∧ (applyEdits request.source [edit]
              = .ok (String.ofList (insertedAt source (closing + 1) returnType))
            ↔ (')' ∉ lead ∧ '(' ∉ inner) ∧ request.FollowsFeeds) := by
  intro source closing
  have hline : request.line.drop request.violation.offset
      = (lead ++ '(' :: inner) ++ ')' :: rest := by
    rw [h.eq_append, List.append_assoc, List.cons_append]
  have hroom : request.violation.offset < request.line.length := by
    rw [← List.drop_eq_nil_iff.not.trans Nat.not_le, hline]
    simp
  obtain ⟨behind, hsees⟩ :=
    AdviceRequest.exists_seesLine (List.ne_nil_of_length_pos (Nat.zero_lt_of_lt hroom))
  constructor
  · have hclosing : closing = (request.textTo (lead ++ '(' :: inner)).length :=
      (AdviceRequest.length_textTo hroom.le _).symm
    show request.source.toList[closing]? = _
    rw [hsees.source_eq_textTo hline, hclosing, List.getElem?_append_right le_rfl, Nat.sub_self]
    rfl
  · rw [← h.close_notMem_iff]
    exact applyEdits_eq_insertedAt_iff hsees hline hroom.le

open MissingReturnType in
/-- The default of a parameter is a call: the return type is put inside the list. -/
theorem MissingReturnType.annotates_parameter_list_iff_call_as_default :
    let function := Node.mk "FunctionDeclaration" (some ⟨1, 0, 1, 22⟩)
      [("id", .node (.mk "Identifier" none [("name", .leaf (.str "f"))]))]
    let context : CheckContext :=
      { tree := ⟨.mk "Program" none [("body", .list [.node function])]⟩
        source := "function f(a = g()) {}", fileName := "x.ts" }
    ∃ violation suggestion edit, check context = .ok [violation]
      ∧ advise ⟨violation, context.source, context.fileName⟩ = [suggestion]
      ∧ suggestion.edits = [edit]
      ∧ applyEdits context.source [edit] ≠ .ok "function f(a = g()): void {}" := by
  intro function context
  let violation : Violation :=
    { ruleId := info.id, message := message, severity := info.severity, line := 1, column := 1
      endLine := some 1, endColumn := some 23, node := some 1 }
  let request : AdviceRequest := ⟨violation, context.source, context.fileName⟩
  have hcheck : check context = .ok [violation] := by
    rw [← Except.toOption_eq_some_iff]
    decide +kernel
  have hline : request.line.drop request.violation.offset
      = "function f".toList ++ '(' :: ("a = g()".toList ++ ')' :: " {}".toList) := by
    decide +kernel
  have hbalanced : IsBalanced "a = g()".toList := by
    have hcall : IsBalanced "()".toList := .group .nil .nil
    exact .other (by decide) (by decide) (.other (by decide) (by decide)
      (.other (by decide) (by decide) (.other (by decide) (by decide)
        (.other (by decide) (by decide) hcall))))
  have hlist : IsParameterList (request.line.drop request.violation.offset) "function f".toList
      "a = g()".toList " {}".toList :=
    ⟨hline, by decide, hbalanced⟩
  obtain ⟨-, suggestion, edit, hadvise, hedits, hiff⟩ := annotates_parameter_list_iff hlist
  refine ⟨violation, suggestion, edit, hcheck, hadvise, hedits, fun hright => ?_⟩
  have hexpected : insertedAt request.source.toList
        (placeIn request.source.toList request.violation
          + ("function f".toList ++ '(' :: "a = g()".toList).length + 1) returnType
      = "function f(a = g()): void {}".toList := by
    decide +kernel
  rw [hexpected] at hiff
  -- a parenthesis is opened inside the list
  exact absurd (hiff.mp hright).1.2 (by decide)

end ScriptAdvisor
