import ScriptAdvisor.Proofs.Edit.ListingOrder
import ScriptAdvisor.Proofs.Edit.SingleEdit
import ScriptAdvisor.Proofs.Text.Feed
import ScriptAdvisor.Suggestion.Provider

/-! # Edits that stay on a line

An edit that starts and ends on one line and has no line feed in its new text changes this line and
no other. Its columns may lie behind the end of the line, where they are moved back to it.

* `AdviceRequest.lineAt_of_getElem?` and `AdviceRequest.spanText_of_getElem?`: what a provider reads
  on a line.
* `Edit.StaysOn.applyTo`: what such an edit makes of the lines.
* `applyEdits_of_staysOn`: what it makes of a source, told by the pieces between the line feeds.
* `Edit.applyInOrder_reverse_columns` and `Edit.applyInOrder_reverse_flatMap`: several edits of one
  line replace their columns, and edits of several lines change each of them on its own.
* `Edit.bottomUp_eq_reverse`: edits listed from the first to the last are applied from the last to
  the first. -/

namespace ScriptAdvisor

open Text

/-! ## Reading a line -/

namespace Slice

variable {α : Type _}

theorem between_natCast (items : List α) (start stop : Nat) :
    between items start stop = (items.take stop).drop start := by
  rw [between, position_natCast, position_natCast, ← List.take_take, List.take_length]
  rcases Nat.le_total start items.length with h | h
  · rw [Nat.min_eq_left h]
  · have hshort : (items.take stop).length ≤ items.length := List.length_take_le' stop items
    rw [Nat.min_eq_right h, List.drop_of_length_le hshort, List.drop_of_length_le (hshort.trans h)]

/-- The items before a place and those between it and a later one are those before the latter. -/
theorem take_append_between (items : List α) {start stop : Nat} (h : start ≤ stop) :
    items.take start ++ between items start stop = items.take stop := by
  have hfront : items.take start = (items.take stop).take start := by
    rw [List.take_take, Nat.min_eq_left h]
  rw [between_natCast, hfront, List.take_append_drop]

end Slice

namespace AdviceRequest

variable {request : AdviceRequest} {count : Nat} {line : List Char}

/-- The line before which there are `count` others. -/
theorem lineAt_of_getElem? (h : request.lines[count]? = some line) :
    request.lineAt (count + 1 : Nat) = line := by
  have hplace : ((count + 1 : Nat) - 1 : Int).toNat = count := by omega
  rw [lineAt, if_neg (by omega), hplace, h, Option.getD_some]

/-- The text between two columns of that line. -/
theorem spanText_of_getElem? (h : request.lines[count]? = some line) (first last : Int) :
    request.spanText (count + 1 : Nat) first (count + 1 : Nat) last
      = Slice.between line first last := by
  have hlt : count < request.lines.length := (List.getElem?_eq_some_iff.mp h).1
  have hinside : (0 : Int) < (count + 1 : Nat) ∧ ((count + 1 : Nat) : Int) ≤ (count + 1 : Nat)
      ∧ ((count + 1 : Nat) : Int) ≤ request.lines.length := by omega
  rw [spanText, if_pos hinside, if_pos rfl, lineAt_of_getElem? h]

end AdviceRequest

/-- The text of a source between the places of an edit. -/
def Edit.spanText (edit : Edit) (request : AdviceRequest) : List Char :=
  request.spanText edit.startLine edit.startColumn edit.endLine edit.endColumn

/-- A finding on a line starts where its stretch starts. -/
theorem RuleInfo.offset_violationOn (info : RuleInfo) (message : String) (number start stop : Nat) :
    (info.violationOn message number start stop).offset = start := by
  simp only [Violation.offset, violationOn]
  omega

/-! ## One edit -/

namespace Edit

/-- An edit that replaces the columns from `start` to `stop` of the line before which there are
`count` others, and does not break it. -/
structure StaysOn (edit : Edit) (count start stop : Nat) : Prop where
  /-- It leaves the line there even if nothing is left on it. -/
  kind_ne : edit.kind ≠ .delete
  /-- It starts on the line. -/
  startLine_eq : edit.startLine = count + 1
  /-- It starts at this column. -/
  startColumn_eq : edit.startColumn = start
  /-- It ends on the line. -/
  endLine_eq : edit.endLine = count + 1
  /-- It ends at this column. -/
  endColumn_eq : edit.endColumn = stop
  /-- It puts no line feed in. -/
  newline_notMem : '\n' ∉ edit.newText.toList

/-- The line is still one line. -/
theorem StaysOn.newline_notMem_line {edit : Edit} {count start stop : Nat}
    (h : edit.StaysOn count start stop) {line : List Char} (hline : '\n' ∉ line) :
    '\n' ∉ line.take start ++ edit.newText.toList ++ line.drop stop := by
  rw [List.mem_append, List.mem_append]
  rintro ((hmem | hmem) | hmem)
  · exact hline (List.mem_of_mem_take hmem)
  · exact h.newline_notMem hmem
  · exact hline (List.mem_of_mem_drop hmem)

/-- The line is changed, and no other. -/
theorem StaysOn.applyTo {edit : Edit} {front back : List (List Char)} {line : List Char}
    {start stop : Nat} (h : edit.StaysOn front.length start stop) (hline : '\n' ∉ line) :
    edit.applyTo (front ++ line :: back)
      = .ok (front ++ (line.take start ++ edit.newText.toList ++ line.drop stop) :: back) := by
  have hinside : edit.isInside (front ++ line :: back).length = true := by
    rw [isInside, h.startLine_eq, h.endLine_eq, List.length_append, List.length_cons]
    simp only [Bool.and_eq_true, decide_eq_true_eq]
    omega
  have hmerged : edit.merged (front ++ line :: back)
      = line.take start ++ edit.newText.toList ++ line.drop stop := by
    rw [merged, h.startLine_eq, h.startColumn_eq, h.endLine_eq, h.endColumn_eq, lineAt_append_cons,
      Slice.upTo_natCast, Slice.startingAt_natCast]
  have hkept : ¬(edit.kind = .delete ∧ edit.merged (front ++ line :: back) = []) :=
    fun hdelete => h.kind_ne hdelete.1
  rw [Edit.applyTo, if_pos hinside, newLines, if_neg hkept, hmerged,
    splitNewlines_eq_singleton (h.newline_notMem_line hline), h.startLine_eq, h.endLine_eq,
    take_append_cons, drop_append_cons, List.append_assoc, List.singleton_append]

end Edit

/-- What an edit on one line makes of a source. -/
theorem applyEdits_of_staysOn {source : String} {edit : Edit} {front back : List (List Char)}
    {line : List Char} (hpieces : splitNewlines source.toList = front ++ line :: back)
    {start stop : Nat} (h : edit.StaysOn front.length start stop) :
    ∃ after, applyEdits source [edit] = .ok after
      ∧ splitNewlines after.toList
        = front ++ (line.take start ++ edit.newText.toList ++ line.drop stop) :: back := by
  have hfeeds : ∀ piece ∈ front ++ line :: back, '\n' ∉ piece := by
    rw [← hpieces]
    exact fun piece hpiece => newline_notMem_of_mem_splitNewlines hpiece
  rw [List.forall_mem_append, List.forall_mem_cons] at hfeeds
  obtain ⟨hfront, hline, hback⟩ := hfeeds
  set changed := line.take start ++ edit.newText.toList ++ line.drop stop with hchanged
  refine ⟨String.ofList (joinNewlines (front ++ changed :: back)), ?_, ?_⟩
  · rw [applyEdits_singleton, hpieces, h.applyTo hline]
    rfl
  · rw [String.toList_ofList]
    refine splitNewlines_joinNewlines (by simp) ?_
    rw [List.forall_mem_append, List.forall_mem_cons]
    exact ⟨hfront, h.newline_notMem_line hline, hback⟩

/-! ## Exchanges -/

namespace Edit

/-- An edit exchanges the text `old` for its new text: `old` stands where the edit starts, and
applying the edit puts the new text there and leaves everything else as it is. -/
def Exchanges (edit : Edit) (source : String) (old : List Char) : Prop :=
  ∃ lead behind, source.toList = lead ++ (old ++ behind)
    ∧ EndsAt lead edit.startLine edit.startColumn
    ∧ applyEdits source [edit] = .ok (String.ofList (lead ++ (edit.newText.toList ++ behind)))

/-- What stands before a column of a line ends there. -/
theorem endsAt_before_append {text line : List Char} {front back : List (List Char)}
    (hpieces : splitNewlines text = front ++ line :: back) {column : Nat}
    (hcolumn : column ≤ line.length) :
    EndsAt (before front ++ line.take column) (front.length + 1) column := by
  have hcut : splitNewlines text = front ++ (line.take column ++ line.drop column) :: back := by
    rw [List.take_append_drop, hpieces]
  have hends := endsAt_of_cut hcut
  have hjoined := joinNewlines_append_eq front (line.take column) []
  rw [joinNewlines_singleton, List.append_nil] at hjoined
  rwa [hjoined, List.length_take_of_le hcolumn] at hends

/-- An edit that stays on a line exchanges what stands between its columns. -/
theorem StaysOn.exchanges {source : String} {edit : Edit} {front back : List (List Char)}
    {line : List Char} (hpieces : splitNewlines source.toList = front ++ line :: back)
    {start stop : Nat} (h : edit.StaysOn front.length start stop) (hstart : start ≤ line.length)
    (hle : start ≤ stop) : edit.Exchanges source (Slice.between line start stop) := by
  obtain ⟨after, hafter, hchanged⟩ := applyEdits_of_staysOn hpieces h
  refine ⟨before front ++ line.take start, line.drop stop ++ joinNewlines ([] :: back), ?_, ?_, ?_⟩
  · rw [eq_append_of_pieces hpieces]
    conv_lhs => rw [← List.take_append_drop stop line, ← Slice.take_append_between line hle]
    simp only [List.append_assoc]
  · rw [h.startLine_eq, h.startColumn_eq]
    exact endsAt_before_append hpieces hstart
  · have htext := eq_append_of_pieces hchanged
    rw [hafter, ← String.ofList_toList (s := after), htext]
    simp only [List.append_assoc]

/-- An edit without width puts its new text at a column of a line, whatever lines it has. -/
theorem exchanges_nil {source : String} {edit : Edit} {front back : List (List Char)}
    {line : List Char} (hpieces : splitNewlines source.toList = front ++ line :: back)
    (hkind : edit.kind ≠ .delete) {column : Nat} (hcolumn : column ≤ line.length)
    (hstart : edit.startLine = front.length + 1 ∧ edit.startColumn = column)
    (hend : edit.endLine = front.length + 1 ∧ edit.endColumn = column) :
    edit.Exchanges source [] := by
  have hends := endsAt_before_append hpieces hcolumn
  have hsource : source.toList = before front ++ line.take column ++ []
      ++ (line.drop column ++ joinNewlines ([] :: back)) := by
    conv_lhs => rw [eq_append_of_pieces hpieces, ← List.take_append_drop column line]
    simp only [List.append_assoc, List.nil_append]
  have hstartsAt : EndsAt (before front ++ line.take column) edit.startLine edit.startColumn := by
    rwa [hstart.1, hstart.2]
  have hstopsAt : EndsAt (before front ++ line.take column ++ []) edit.endLine edit.endColumn := by
    rwa [hend.1, hend.2, List.append_nil]
  refine ⟨before front ++ line.take column, line.drop column ++ joinNewlines ([] :: back), ?_,
    hstartsAt, ?_⟩
  · rw [hsource, List.append_assoc _ []]
  · rw [applyEdits_singleton_of_endsAt hkind hsource hstartsAt hstopsAt, List.append_assoc]

end Edit

/-! ## Several edits -/

namespace Replacement

theorem mem_newTextAt {replacements : List Replacement} {place : Nat} {c : Char}
    (h : c ∈ newTextAt replacements place) : ∃ r ∈ replacements, c ∈ r.newText := by
  obtain ⟨r, hr, hc⟩ := List.mem_flatMap.mp h
  exact ⟨r, (List.mem_filter.mp hr).1, hc⟩

/-- What stands in a text after replacements was there before or is new text. -/
theorem mem_carryOut {replacements : List Replacement} {place : Nat} {text : List Char} {c : Char}
    (h : c ∈ carryOut replacements place text) :
    c ∈ text ∨ ∃ r ∈ replacements, c ∈ r.newText := by
  induction text generalizing place with
  | nil => exact .inr (mem_newTextAt h)
  | cons d text ih =>
      rw [carryOut, List.mem_append, List.mem_append] at h
      rcases h with (hnew | hcopied) | hrest
      · exact .inr (mem_newTextAt hnew)
      · refine .inl ?_
        split at hcopied
        · contradiction
        · rw [List.mem_singleton] at hcopied
          exact hcopied ▸ List.mem_cons_self
      · exact (ih hrest).imp_left (List.mem_cons_of_mem d)

/-- A text cut in three at two places. -/
theorem exists_cut_of_le {text : List Char} {start stop : Nat} (hle : start ≤ stop)
    (hlength : stop ≤ text.length) :
    ∃ a b c, text = a ++ b ++ c ∧ start = a.length ∧ stop = (a ++ b).length := by
  have hfront := Slice.take_append_between text hle
  refine ⟨text.take start, Slice.between text start stop, text.drop stop, ?_, ?_, ?_⟩
  · rw [hfront, List.take_append_drop]
  · rw [List.length_take_of_le (hle.trans hlength)]
  · rw [hfront, List.length_take_of_le hlength]

/-- A replacement in front of all others acts on what the others leave. -/
theorem carryOut_cons_eq {r : Replacement} {replacements : List Replacement} {text : List Char}
    (hle : r.start ≤ r.stop) (hlength : r.stop ≤ text.length)
    (hstarts : ∀ s ∈ replacements, r.start < s.start)
    (hstops : ∀ s ∈ replacements, r.stop ≤ s.start) :
    carryOut (r :: replacements) 0 text
      = (carryOut replacements 0 text).take r.start ++ r.newText
        ++ (carryOut replacements 0 text).drop r.stop := by
  obtain ⟨a, b, c, rfl, hstart, hstop⟩ := exists_cut_of_le hle hlength
  have hcopy : ∀ s ∈ replacements, 0 + (a ++ b).length ≤ s.start := by
    rw [Nat.zero_add, ← hstop]
    exact hstops
  rw [carryOut_cons hstart hstop hstarts hstops, carryOut_append_of_le hcopy, Nat.zero_add,
    hstop, List.drop_left, hstart, List.append_assoc a b, List.take_left]

end Replacement

namespace Edit

/-- The columns that an edit on one line replaces. -/
def columns (edit : Edit) : Replacement :=
  { start := edit.startColumn.toNat, stop := edit.endColumn.toNat, newText := edit.newText.toList }

/-- An edit that replaces columns of a line of some length behind `count` others. -/
structure ReplacesOn (edit : Edit) (count length : Nat) : Prop where
  /-- It stays on the line. -/
  staysOn : edit.StaysOn count edit.columns.start edit.columns.stop
  /-- It does not end before it starts. -/
  start_le_stop : edit.columns.start ≤ edit.columns.stop
  /-- It ends on the line. -/
  stop_le_length : edit.columns.stop ≤ length

/-- Edits on one line that come in order, carried out from the last to the first: the columns of all
of them are replaced. -/
theorem applyInOrder_reverse_columns (edits : List Edit) (front back : List (List Char))
    {line : List Char} (hline : '\n' ∉ line)
    (hedits : ∀ edit ∈ edits, edit.ReplacesOn front.length line.length)
    (happart : edits.Pairwise fun edit later =>
      edit.columns.start < later.columns.start ∧ edit.columns.stop ≤ later.columns.start) :
    applyInOrder (front ++ line :: back) edits.reverse
      = .ok (front ++ Replacement.carryOut (edits.map columns) 0 line :: back) := by
  induction edits with
  | nil =>
      rw [List.map_nil, Replacement.carryOut_nil]
      rfl
  | cons edit edits ih =>
      rw [List.forall_mem_cons] at hedits
      rw [List.pairwise_cons] at happart
      obtain ⟨hedit, hlater⟩ := hedits
      have hfeed : '\n' ∉ Replacement.carryOut (edits.map columns) 0 line := by
        intro hmem
        rcases Replacement.mem_carryOut hmem with hold | ⟨r, hr, hnew⟩
        · exact hline hold
        · obtain ⟨later, hmem', rfl⟩ := List.mem_map.mp hr
          exact (hlater later hmem').staysOn.newline_notMem hnew
      have hfirst := Replacement.carryOut_cons_eq hedit.start_le_stop hedit.stop_le_length
        (List.forall_mem_map.mpr fun later hmem => (happart.1 later hmem).1)
        (List.forall_mem_map.mpr fun later hmem => (happart.1 later hmem).2)
      rw [List.reverse_cons, applyInOrder_append_of_ok (ih hlater happart.2), applyInOrder,
        hedit.staysOn.applyTo hfeed, List.map_cons, hfirst]
      rfl

/-- Edits on several lines, carried out from the last to the first: every line is changed as if it
were the only one. -/
theorem applyInOrder_reverse_flatMap (editsOn : List Char × Nat → List Edit)
    (change : List Char → List Char) (front : List (List Char)) {lines : List (List Char)}
    (hlines : ∀ line ∈ lines, ∀ before behind,
      applyInOrder (before ++ line :: behind) (editsOn (line, before.length + 1)).reverse
        = .ok (before ++ change line :: behind)) :
    applyInOrder (front ++ lines) ((lines.zipIdx (front.length + 1)).flatMap editsOn).reverse
      = .ok (front ++ lines.map change) := by
  induction lines generalizing front with
  | nil => rfl
  | cons line lines ih =>
      rw [List.forall_mem_cons] at hlines
      -- the lines behind come first, and this one is still as it was
      have hbehind := ih (front ++ [line]) hlines.2
      rw [List.length_append, List.length_singleton, List.append_assoc, List.singleton_append,
        List.append_assoc, List.singleton_append] at hbehind
      rw [List.zipIdx_cons, List.flatMap_cons, List.reverse_append,
        applyInOrder_append_of_ok hbehind, hlines.1 front (lines.map change), List.map_cons]

/-- Edits listed from the first start to the last are applied from the last to the first. -/
theorem bottomUp_eq_reverse {edits : List Edit}
    (h : edits.Pairwise fun edit later => edit.start < later.start) :
    bottomUp edits = edits.reverse := by
  have hperm : (bottomUp edits).Perm edits.reverse :=
    (bottomUp_perm edits).trans (List.reverse_perm edits).symm
  have hreverse : edits.reverse.Pairwise fun edit other => other.start ≤ edit.start := by
    rw [List.pairwise_reverse]
    exact h.imp le_of_lt
  have hdistinct : edits.reverse.Pairwise fun edit other => edit.start ≠ other.start := by
    rw [List.pairwise_reverse]
    exact h.imp fun hlt => hlt.ne'
  have hsorted := (pairwise_bottomUp edits).and (hperm.symm.pairwise hdistinct Ne.symm)
  exact hperm.eq_of_pairwise (fun edit other _ _ hle hge => absurd (le_antisymm hge.1 hle.1) hle.2)
    hsorted (hreverse.and hdistinct)

end Edit

end ScriptAdvisor
