import ScriptAdvisor.Proofs.Edit.SingleEdit
import ScriptAdvisor.Proofs.Smell.Ownership

/-! # Which imports a removal spares

The rule reports the specifiers of imports one by one, but the suggestion for one of them deletes
the line on which it starts. What else stands on that line is deleted, too.

* `Location.Marks` says that a location is the position of a node in the text.
* `Location.Marks.apart_removedSpan_iff`: a node is left alone by the deletion of the first columns
  of a line exactly if it covers none of these columns.
* `UnusedImport.spares_unreported_iff`: a removal spares the specifiers that are not reported
  exactly if none of them covers a column that the suggestion deletes. -/

namespace ScriptAdvisor

open Text

/-! ## Locations in a text -/

namespace Location

/-- The place a location starts at. -/
def start (location : Location) : Int ×ₗ Int := place location.startLine location.startColumn

/-- The place a location ends at. -/
def stop (location : Location) : Int ×ₗ Int := place location.endLine location.endColumn

/-- A location covers a column of a line. -/
def Covers (location : Location) (line column : Int) : Prop :=
  location.start ≤ place line column ∧ place line column < location.stop

/-- The stretch of a text at a location. -/
def spanIn (location : Location) (text : List Char) : Span :=
  { start := offset text location.startLine location.startColumn
    stop := offset text location.endLine location.endColumn }

/-- A location is the position of a node in the text: its places are in the text, the second one
behind the first, and no line feed stands at either end of the stretch between them. -/
structure Marks (location : Location) (text : List Char) : Prop where
  /-- The place it starts at is in the text. -/
  start : HoldsPlace text location.startLine location.startColumn
  /-- The place it ends at is in the text. -/
  stop : HoldsPlace text location.endLine location.endColumn
  /-- It ends behind its start. -/
  start_lt_stop : location.start < location.stop
  /-- It does not start with a line feed. -/
  first_ne : text[(location.spanIn text).start]? ≠ some '\n'
  /-- It does not end with a line feed. -/
  last_ne : text[(location.spanIn text).stop - 1]? ≠ some '\n'

variable {location : Location} {text : List Char}

/-- A column that a text holds is covered by a location exactly if it is one of the stretch. -/
theorem Marks.covers_iff (h : location.Marks text) {line column : Int}
    (hcolumn : HoldsPlace text line column) :
    location.Covers line column ↔ (location.spanIn text).Covers (offset text line column) := by
  constructor
  · rintro ⟨hstart, hstop⟩
    exact ⟨h.start.offset_le_offset hstart, hcolumn.offset_lt_offset hstop⟩
  · rintro ⟨hstart, hstop⟩
    constructor
    · by_contra hlt
      exact absurd (hcolumn.offset_lt_offset (not_le.mp hlt)) (not_lt.mpr hstart)
    · by_contra hle
      exact absurd (h.stop.offset_le_offset (not_lt.mp hle)) (not_le.mpr hstop)

/-- The columns of a line of the text are places that the text holds. -/
theorem holdsPlace_column {line : Int} (hline : HoldsPlace text line 0) {column : Nat}
    (hcolumn : column < (Edit.lineAt (splitNewlines text) line).length) :
    HoldsPlace text line column :=
  { one_le := hline.one_le, line_le := hline.line_le, zero_le := Int.natCast_nonneg column
    column_le := by omega }

/-- A node keeps its stretch when the first `width` characters of a line that is not empty are
deleted exactly if it covers none of these columns. -/
theorem Marks.apart_removedSpan_iff (h : location.Marks text) {line : Int}
    (hline : HoldsPlace text line 0) (hsome : Edit.lineAt (splitNewlines text) line ≠ [])
    (width : Nat) :
    (location.spanIn text).Apart (removedSpan text line width)
      ↔ ∀ column : Nat, column < width →
        column < (Edit.lineAt (splitNewlines text) line).length → ¬location.Covers line column := by
  have hpos : 0 < (Edit.lineAt (splitNewlines text) line).length := List.length_pos_iff.mpr hsome
  constructor
  · intro hapart column hwidth hcolumn hcovers
    have hholds := holdsPlace_column hline hcolumn
    exact hapart _ ((h.covers_iff hholds).mp hcovers) (covers_removedSpan hwidth hcolumn)
  · intro hnone place hplace hremoved
    -- no column of the line that is deleted is one of the stretch
    have hclear : ∀ column : Nat, column < width →
        column < (Edit.lineAt (splitNewlines text) line).length →
          ¬(location.spanIn text).Covers (offset text line 0 + column) := by
      intro column hwidth hcolumn hcovers
      rw [← offset_natCast, ← h.covers_iff (holdsPlace_column hline hcolumn)] at hcovers
      exact hnone column hwidth hcolumn hcovers
    obtain ⟨hfirst, hlast⟩ := hplace
    rcases eq_offset_of_covers_removedSpan hline hremoved with
      ⟨column, hwidth, hcolumn, rfl⟩ | ⟨hfeed, hwidth, rfl | hbefore⟩
    · rw [offset_natCast] at hfirst hlast
      exact hclear column hwidth hcolumn ⟨hfirst, hlast⟩
    · -- the line feed behind the line, so the last column is one of the stretch as well
      have hne : (location.spanIn text).start
          ≠ offset text line 0 + (Edit.lineAt (splitNewlines text) line).length := by
        intro heq
        rw [← heq] at hfeed
        exact h.first_ne hfeed
      refine hclear ((Edit.lineAt (splitNewlines text) line).length - 1) (by omega) (by omega) ?_
      constructor
      · omega
      · omega
    · -- the line feed before the line, so the first column is one of the stretch as well
      have hne : (location.spanIn text).stop ≠ offset text line 0 := by
        intro heq
        have hplace : (location.spanIn text).stop - 1 = place := by omega
        rw [← hplace] at hfeed
        exact h.last_ne hfeed
      refine hclear 0 (by omega) hpos ?_
      constructor
      · omega
      · omega

/-- The line on which a node starts is not empty. -/
theorem Marks.line_ne_nil (h : location.Marks text) :
    HoldsPlace text location.startLine 0
      ∧ Edit.lineAt (splitNewlines text) location.startLine ≠ [] := by
  have hline : HoldsPlace text location.startLine 0 :=
    { one_le := h.start.one_le, line_le := h.start.line_le, zero_le := le_rfl
      column_le := h.start.zero_le.trans h.start.column_le }
  refine ⟨hline, fun hempty => ?_⟩
  have hcolumn : location.startColumn = 0 := by
    have hle := h.start.column_le
    have hge := h.start.zero_le
    rw [hempty, List.length_nil] at hle
    omega
  obtain ⟨front, line, back, hcut, hnumber⟩ := hline.exists_pieces
  obtain rfl : line = [] := by
    rwa [hcut, hnumber, Edit.lineAt_append_cons] at hempty
  have hstart : (location.spanIn text).start = (before front).length := by
    show offset text location.startLine location.startColumn = _
    rw [hcolumn, hnumber, offset_of_pieces hcut]
  cases back with
  | cons next back =>
      -- the node would start with the line feed behind the line
      have hfeed := getElem?_behind hcut
      rw [List.length_nil, Nat.add_zero, ← hstart] at hfeed
      exact h.first_ne hfeed
  | nil =>
      -- the node would start at the end of the text
      have hlength : text.length = (location.spanIn text).start := by
        rw [hstart, eq_append_of_pieces hcut, joinNewlines_singleton, List.append_nil,
          List.append_nil]
      have hlt := h.start.offset_lt_offset h.start_lt_stop
      have hle := h.stop.offset_le_length
      exact absurd (hlt.trans_le hle) (by rw [hlength]; exact lt_irrefl _)

end Location

namespace UnusedImport

/-! ## The specifiers of a tree -/

/-- The import specifiers of a tree. -/
def importSpecifiers (tree : Tree) : List Visit :=
  ((imports tree).flatMap fun declaration => (specifiers declaration).toOption.getD []).filter
    fun specifier => specifierKinds.contains specifier.node.kind

/-- The import specifiers of a tree at which nothing is reported. -/
def unreported (tree : Tree) (violations : List Violation) : List Visit :=
  (importSpecifiers tree).filter fun specifier =>
    violations.all fun violation => violation.node != some specifier.index

/-- Every finding is made at an import specifier. -/
theorem exists_importSpecifier_of_check {context : CheckContext} {violations : List Violation}
    (hcheck : check context = .ok violations) {violation : Violation}
    (h : violation ∈ violations) :
    ∃ specifier ∈ importSpecifiers context.tree, ∃ name,
      violation = info.violationAt (message name) specifier := by
  obtain ⟨declaration, hdeclaration, here, hhere, specifier, hspecifier, hreported⟩ :=
    exists_specifier_of_checkImports hcheck h
  obtain ⟨name, hname, hviolation⟩ := eq_violationAt_of_checkSpecifier hreported
  refine ⟨specifier, List.mem_filter.mpr ⟨List.mem_flatMap.mpr ?_, ?_⟩, name, hviolation⟩
  · refine ⟨declaration, hdeclaration, ?_⟩
    rw [hhere]
    exact hspecifier
  · by_contra hkind
    rw [localName?, if_neg hkind] at hname
    contradiction

end UnusedImport

open UnusedImport in
/-- The suggestion for a finding deletes the line on which the finding stands, or as many of its
columns as the provider counts. If the locations of the import specifiers are their positions in
the source, all specifiers that are not reported keep their stretch of the text exactly if none of
them covers one of these columns. -/
theorem UnusedImport.spares_unreported_iff {context : CheckContext} {violations : List Violation}
    (hcheck : check context = .ok violations)
    (hmarks : ∀ specifier ∈ importSpecifiers context.tree, ∃ location,
      specifier.node.loc = some location ∧ location.Marks context.source.toList)
    {violation : Violation} (h : violation ∈ violations) :
    let text := context.source.toList
    let request : AdviceRequest := ⟨violation, context.source, context.fileName⟩
    let removed := removedSpan text violation.line request.line.length
    ∃ suggestion, advise request = [suggestion]
      ∧ applyEdits context.source suggestion.edits = .ok (String.ofList (without text removed))
      ∧ ((∀ specifier ∈ unreported context.tree violations, ∀ location ∈ specifier.node.loc,
            (location.spanIn text).Apart removed)
          ↔ ∀ specifier ∈ unreported context.tree violations, ∀ location ∈ specifier.node.loc,
              ∀ column : Nat, column < request.line.length →
                column < (Edit.lineAt (splitNewlines text) violation.line).length →
                  ¬location.Covers violation.line column) := by
  intro text request removed
  obtain ⟨found, hfound, name, hviolation⟩ := exists_importSpecifier_of_check hcheck h
  obtain ⟨location, hlocation, hmark⟩ := hmarks found hfound
  have hnumber : violation.line = location.startLine := by
    rw [hviolation]
    show found.node.line = _
    rw [Node.line, hlocation]
    rfl
  obtain ⟨hline, hsome⟩ := hmark.line_ne_nil
  rw [← hnumber] at hline hsome
  refine ⟨_, rfl, applyEdits_delete rfl rfl rfl rfl rfl rfl hline, ?_⟩
  have hothers : ∀ specifier ∈ unreported context.tree violations,
      ∀ location ∈ specifier.node.loc, location.Marks text := by
    intro specifier hspecifier other hother
    obtain ⟨location, hlocation, hmark⟩ := hmarks specifier (List.mem_of_mem_filter hspecifier)
    rw [Option.mem_def, hlocation] at hother
    rwa [← Option.some.inj hother]
  refine forall₂_congr fun specifier hspecifier => forall₂_congr fun location hlocation => ?_
  exact (hothers specifier hspecifier location hlocation).apart_removedSpan_iff hline hsome _

open UnusedImport in
/-- Two specifiers share a line and only the first is reported: the import of both is deleted. -/
theorem UnusedImport.spares_unreported_iff_shared_line :
    let first : Location := ⟨1, 9, 1, 10⟩
    let second : Location := ⟨1, 12, 1, 13⟩
    let specifier := fun (name : String) (location : Location) =>
      Node.mk "ImportSpecifier" (some location)
        [("local", .node (.mk "Identifier" none [("name", .leaf (.str name))]))]
    let declaration := Node.mk "ImportDeclaration" none
      [("specifiers", .list [.node (specifier "a" first), .node (specifier "b" second)])]
    let call := Node.mk "CallExpression" none
      [("callee", .node (.mk "Identifier" none [("name", .leaf (.str "b"))]))]
    let context : CheckContext :=
      { tree := ⟨.mk "Program" none [("body", .list [.node declaration, .node call])]⟩
        source := "import { a, b } from 'm';\nb();\n", fileName := "x.ts" }
    ∃ violation suggestion, check context = .ok [violation]
      ∧ (unreported context.tree [violation]).map (·.node.loc) = [some second]
      ∧ advise ⟨violation, context.source, context.fileName⟩ = [suggestion]
      ∧ applyEdits context.source suggestion.edits = .ok "b();\n"
      ∧ ¬∀ visit ∈ unreported context.tree [violation], ∀ location ∈ visit.node.loc,
          (location.spanIn context.source.toList).Apart
            (removedSpan context.source.toList violation.line 25) := by
  intro first second specifier declaration call context
  let violation : Violation :=
    { ruleId := info.id, message := message "a", severity := info.severity, line := 1, column := 10
      endLine := some 1, endColumn := some 11, node := some 2 }
  have hcheck : check context = .ok [violation] := by
    rw [← Except.toOption_eq_some_iff]
    decide +kernel
  have hlocations : (importSpecifiers context.tree).map (·.node.loc)
      = [some first, some second] := by
    decide +kernel
  have hkept : (unreported context.tree [violation]).map (·.node.loc) = [some second] := by
    decide +kernel
  have hfirst : first.Marks context.source.toList :=
    ⟨⟨by decide, by decide +kernel, by decide, by decide +kernel⟩,
      ⟨by decide, by decide +kernel, by decide, by decide +kernel⟩, by decide +kernel,
      by decide +kernel, by decide +kernel⟩
  have hsecond : second.Marks context.source.toList :=
    ⟨⟨by decide, by decide +kernel, by decide, by decide +kernel⟩,
      ⟨by decide, by decide +kernel, by decide, by decide +kernel⟩, by decide +kernel,
      by decide +kernel, by decide +kernel⟩
  have hmarks : ∀ visit ∈ importSpecifiers context.tree, ∃ location,
      visit.node.loc = some location ∧ location.Marks context.source.toList := by
    intro visit hvisit
    have hmem : visit.node.loc ∈ (importSpecifiers context.tree).map (·.node.loc) :=
      List.mem_map_of_mem hvisit
    rw [hlocations, List.mem_cons, List.mem_singleton] at hmem
    rcases hmem with hloc | hloc
    · exact ⟨first, hloc, hfirst⟩
    · exact ⟨second, hloc, hsecond⟩
  obtain ⟨suggestion, hadvise, hafter, hiff⟩ :=
    spares_unreported_iff hcheck hmarks (List.mem_singleton_self violation)
  have hwidth : (AdviceRequest.line ⟨violation, context.source, context.fileName⟩).length = 25 := by
    decide +kernel
  rw [hwidth] at hafter hiff
  refine ⟨violation, suggestion, hcheck, hkept, hadvise, ?_, fun hspared => ?_⟩
  · rw [hafter]
    decide +kernel
  · -- the second specifier starts in one of the columns
    obtain ⟨visit, hvisit, hloc⟩ := List.mem_map.mp
      (show some second ∈ (unreported context.tree [violation]).map (·.node.loc) by simp [hkept])
    exact hiff.mp hspared visit hvisit second hloc 12 (by decide) (by decide +kernel)
      ⟨by decide +kernel, by decide +kernel⟩

end ScriptAdvisor
