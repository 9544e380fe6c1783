import ScriptAdvisor.Proofs.Edit.OneLine
import ScriptAdvisor.Proofs.Smell.UnusedImport

/-! # The line of a finding

A provider gets the line of a finding by its number, and the edits that it suggests bear this number
again. Where line feeds are the only line breaks both mean the same line.

* `Location.MarksAll` says that the locations of nodes are their positions in the text.
* `Violation.StandsOn` says which line of a text a finding stands on.
* `Violation.StandsOn.line_eq` and `Violation.StandsOn.spanText_eq`: what a provider reads there.
* `Location.Marks.exists_standsOn`: a finding at a node whose location is its position in the text
  stands on a line. -/

namespace ScriptAdvisor

open Text

/-! ## Nodes with positions -/

instance (text : List Char) (line column : Int) : Decidable (HoldsPlace text line column) :=
  decidable_of_iff
    (1 ≤ line ∧ line ≤ (splitNewlines text).length ∧ 0 ≤ column
      ∧ column ≤ (Edit.lineAt (splitNewlines text) line).length)
    ⟨fun ⟨hone, hline, hzero, hcolumn⟩ => ⟨hone, hline, hzero, hcolumn⟩,
      fun h => ⟨h.one_le, h.line_le, h.zero_le, h.column_le⟩⟩

namespace Location

instance (location : Location) (text : List Char) : Decidable (location.Marks text) :=
  decidable_of_iff
    (HoldsPlace text location.startLine location.startColumn
      ∧ HoldsPlace text location.endLine location.endColumn ∧ location.start < location.stop
      ∧ text[(location.spanIn text).start]? ≠ some '\n'
      ∧ text[(location.spanIn text).stop - 1]? ≠ some '\n')
    ⟨fun ⟨hstart, hstop, hlt, hfirst, hlast⟩ => ⟨hstart, hstop, hlt, hfirst, hlast⟩,
      fun h => ⟨h.start, h.stop, h.start_lt_stop, h.first_ne, h.last_ne⟩⟩

/-- Every visited node has a location, and this is its position in the text. -/
def MarksAll (visits : List Visit) (text : List Char) : Prop :=
  ∀ visit ∈ visits, ∃ location, visit.node.loc = some location ∧ location.Marks text

theorem marksAll_of_map_eq {visits : List Visit} {locations : List Location} {text : List Char}
    (hvisits : visits.map (·.node.loc) = locations.map some)
    (hmarks : ∀ location ∈ locations, location.Marks text) : MarksAll visits text := by
  intro visit hvisit
  have hmem : visit.node.loc ∈ visits.map (·.node.loc) := List.mem_map_of_mem hvisit
  rw [hvisits] at hmem
  obtain ⟨location, hlocation, hloc⟩ := List.mem_map.mp hmem
  exact ⟨location, hloc.symm, hmarks location hlocation⟩

end Location

/-! ## Findings on a line -/

/-- A finding stands on `line`, which has the lines `front` before it and `back` behind it in a
text, and starts at one of its columns. -/
structure Violation.StandsOn (violation : Violation) (text : List Char)
    (front : List (List Char)) (line : List Char) (back : List (List Char)) : Prop where
  /-- It is a line of the text. -/
  pieces : splitNewlines text = front ++ line :: back
  /-- It is the same line if breaks of other kinds count. -/
  getElem?_eq : (lines text)[front.length]? = some line
  /-- The finding bears its number. -/
  number_eq : violation.line = front.length + 1
  /-- The finding does not start behind its end. -/
  offset_le : violation.offset ≤ line.length

namespace Violation.StandsOn

variable {violation : Violation} {source : String} {front back : List (List Char)}
  {line : List Char}

/-- The provider gets to see the line. -/
theorem line_eq (h : violation.StandsOn source.toList front line back) (fileName : String) :
    AdviceRequest.line ⟨violation, source, fileName⟩ = line := by
  rw [AdviceRequest.line, h.number_eq]
  exact AdviceRequest.lineAt_of_getElem? h.getElem?_eq

/-- What the provider reads between two columns of the line. -/
theorem spanText_eq (h : violation.StandsOn source.toList front line back) (fileName : String)
    {edit : Edit} {start stop : Nat} (hedit : edit.StaysOn front.length start stop) :
    edit.spanText ⟨violation, source, fileName⟩ = Slice.between line start stop := by
  rw [Edit.spanText, hedit.startLine_eq, hedit.startColumn_eq, hedit.endLine_eq,
    hedit.endColumn_eq]
  exact AdviceRequest.spanText_of_getElem? h.getElem?_eq _ _

/-- An edit on the line exchanges what the provider reads there. -/
theorem exchanges (h : violation.StandsOn source.toList front line back) (fileName : String)
    {edit : Edit} {start stop : Nat} (hedit : edit.StaysOn front.length start stop)
    (hstart : start ≤ line.length) (hle : start ≤ stop) :
    edit.Exchanges source (edit.spanText ⟨violation, source, fileName⟩) := by
  rw [h.spanText_eq fileName hedit]
  exact hedit.exchanges h.pieces hstart hle

end Violation.StandsOn

/-- A node starts on a line of its text, and a finding at it stands on this line. -/
theorem Location.Marks.exists_standsOn {location : Location} {text : List Char}
    (h : location.Marks text) (hfeeds : BreaksByFeeds text) {visit : Visit}
    (hvisit : visit.node.loc = some location) (info : RuleInfo) (message : String) :
    ∃ front line back, (info.violationAt message visit).StandsOn text front line back := by
  obtain ⟨-, hsome⟩ := h.line_ne_nil
  obtain ⟨front, lead, rest, back, hpieces, hnumber, hcolumn⟩ := h.start.exists_cut
  rw [hpieces, hnumber, Edit.lineAt_append_cons] at hsome
  have hline : visit.node.line = location.startLine := by
    rw [Node.line, hvisit]
    rfl
  have hstart : visit.node.column = location.startColumn := by
    rw [Node.column, hvisit]
    rfl
  refine ⟨front, lead ++ rest, back, hpieces, getElem?_lines_of_pieces hfeeds hpieces hsome, ?_, ?_⟩
  · show visit.node.line = _
    rw [hline, hnumber]
  · show (visit.node.column + 1 - 1).toNat ≤ _
    rw [hstart, hcolumn, List.length_append]
    omega

end ScriptAdvisor
