import ScriptAdvisor.Comparison
import ScriptAdvisor.Proofs.Diff.Format
import ScriptAdvisor.Proofs.Except

/-! # What a comparison shows

The diff of a comparison is there exactly if something changes: the lines keep their ends, so that
two texts with the same lines are the same, and a diff is empty only between the same lines.

The lines of the diff also keep whatever ends they have, and are put together as they are. A line
that ends in no line feed, be it the last one of a file or one that ends in another kind of break,
runs into the line below it.

* `diff_ne_empty_iff`: there is a diff exactly if the source changes.
* `isUnified_diff`: when the text of the diff falls into its lines, and that it has the form of a
  unified diff then. -/

namespace ScriptAdvisor

namespace Comparison

variable {source fileName : String} {suggestion : Suggestion} {comparison : Comparison}

/-! ## Whether there is a diff -/

/-- Nothing of a text is lost in its lines. -/
theorem join_diffLines (text : String) : String.join (diffLines text) = text := by
  rw [← String.toList_inj, String.toList_join, diffLines, List.flatMap_map]
  simp only [String.toList_ofList]
  rw [List.flatMap_id', Text.flatten_linesWithEnds]

theorem diffLines_inj {first second : String} :
    diffLines first = diffLines second ↔ first = second := by
  constructor
  · intro h
    rw [← join_diffLines first, h, join_diffLines]
  · rintro rfl
    rfl

theorem isChanged_iff : comparison.isChanged = true ↔ comparison.before ≠ comparison.after := by
  rw [isChanged, bne_iff_ne]

/-- What a comparison is about, and its diff. -/
theorem before_and_diff_of_build (hbuild : build source suggestion fileName = .ok comparison) :
    comparison.before = source
      ∧ comparison.diff = diffOf fileName comparison.before comparison.after := by
  rw [build] at hbuild
  cases happly : applyEdits source suggestion.edits with
  | error fault =>
      rw [happly] at hbuild
      contradiction
  | ok after =>
      rw [happly] at hbuild
      obtain rfl := Except.ok.inj hbuild
      exact ⟨rfl, rfl⟩

/-- There is a diff exactly if the source changes. -/
theorem diff_ne_empty_iff (hbuild : build source suggestion fileName = .ok comparison) :
    comparison.diff ≠ "" ↔ comparison.isChanged = true := by
  rw [(before_and_diff_of_build hbuild).2, diffOf, Ne, Diff.unified_eq_empty_iff, diffLines_inj,
    isChanged_iff]

/-- A line feed added at the end is a change that the diff shows. -/
theorem diff_ne_empty_iff_final_feed :
    ∃ (suggestion : Suggestion) (comparison : Comparison),
      build "a" suggestion "source" = .ok comparison ∧ comparison.after = "a\n"
        ∧ comparison.isChanged = true ∧ comparison.diff ≠ "" := by
  let edit : Edit := ⟨.insert, 1, 1, 1, 1, "", "\n", ""⟩
  let suggestion : Suggestion := { (default : Suggestion) with edits := [edit] }
  obtain ⟨comparison, hbuild, hafter⟩ :
      ∃ comparison, build "a" suggestion "source" = .ok comparison ∧ comparison.after = "a\n" := by
    rw [exists_build_iff, ← Except.toOption_eq_some_iff]
    decide +kernel
  have hbefore := (before_and_diff_of_build hbuild).1
  have hchanged : comparison.isChanged = true := by
    rw [isChanged_iff, hbefore, hafter]
    decide
  exact ⟨suggestion, comparison, hbuild, hafter, hchanged, (diff_ne_empty_iff hbuild).mpr hchanged⟩

/-! ## What the diff looks like -/

/-- The lines of the diff of a comparison, with the ends they have. -/
def listing (fileName : String) (comparison : Comparison) : List String :=
  Diff.unifiedLines ("a/" ++ fileName) ("b/" ++ fileName) (diffLines comparison.before)
    (diffLines comparison.after)

/-- Whether every line of a diff is a line of its text: no name breaks its line, and no line but the
last runs into the next one. -/
def IsSeparable (fileName : String) (comparison : Comparison) : Prop :=
  '\n' ∉ fileName.toList
    ∧ ∀ line ∈ (listing fileName comparison).dropLast, line.toList.getLast? = some '\n'

/-- A line of a source holds no line feed but at its end. -/
theorem newline_notMem_of_mem_diffLines {text line : String} (h : line ∈ diffLines text) :
    '\n' ∉ Text.withoutFeed line.toList := by
  obtain ⟨full, hfull, rfl⟩ := List.mem_map.mp h
  obtain ⟨body, hended⟩ := Text.exists_ended_of_mem hfull
  rw [String.toList_ofList]
  exact hended.newline_notMem_withoutFeed

theorem splitNewlines_diff_iff (hbuild : build source suggestion fileName = .ok comparison)
    (hchanged : comparison.isChanged = true) :
    Text.splitNewlines (Text.withoutFeed comparison.diff.toList)
        = Diff.bareLines (listing fileName comparison)
      ↔ IsSeparable fileName comparison := by
  have hne : diffLines comparison.before ≠ diffLines comparison.after := fun h =>
    isChanged_iff.mp hchanged (diffLines_inj.mp h)
  have hlines : ∀ line ∈ diffLines comparison.before ++ diffLines comparison.after,
      '\n' ∉ Text.withoutFeed line.toList := by
    intro line hline
    rcases List.mem_append.mp hline with hline | hline
    · exact newline_notMem_of_mem_diffLines hline
    · exact newline_notMem_of_mem_diffLines hline
  have hname : ∀ side : String, '\n' ∉ side.toList →
      ('\n' ∉ (side ++ fileName).toList ↔ '\n' ∉ fileName.toList) := by
    intro side hside
    rw [String.toList_append, List.mem_append, or_iff_right hside]
  rw [(before_and_diff_of_build hbuild).2, diffOf, listing,
    Diff.splitNewlines_unified_iff hne hlines, hname "a/" (by decide), hname "b/" (by decide),
    and_self, IsSeparable, listing]

/-- If the source changes, the lines of the diff have the form of a unified diff. The text of the
diff, up to a line feed at its end, falls into these lines at its line feeds exactly if it is
separable, and so it has the form then, too. -/
theorem isUnified_diff (hbuild : build source suggestion fileName = .ok comparison)
    (hchanged : comparison.isChanged = true) :
    let lines := Diff.bareLines (listing fileName comparison)
    let pieces := Text.splitNewlines (Text.withoutFeed comparison.diff.toList)
    Diff.IsUnified lines ∧ (pieces = lines ↔ IsSeparable fileName comparison)
      ∧ (IsSeparable fileName comparison → Diff.IsUnified pieces) := by
  intro lines pieces
  have hlines : Diff.IsUnified lines := Diff.isUnified_unifiedLines _ _ fun h =>
    isChanged_iff.mp hchanged (diffLines_inj.mp h)
  have hpieces : pieces = lines ↔ IsSeparable fileName comparison :=
    splitNewlines_diff_iff hbuild hchanged
  refine ⟨hlines, hpieces, fun hseparable => ?_⟩
  rw [hpieces.mpr hseparable]
  exact hlines

/-- A source of one line that ends in no line feed: what stands below it runs into it, so that the
hunk lacks a line. -/
theorem isUnified_diff_no_final_feed :
    ∃ (suggestion : Suggestion) (comparison : Comparison),
      build "a" suggestion "source" = .ok comparison ∧ comparison.isChanged = true
        ∧ comparison.diff = "--- a/source\n+++ b/source\n@@ -1 +1 @@\n-a+b"
        ∧ ¬IsSeparable "source" comparison
        ∧ ¬Diff.IsUnified (Text.splitNewlines (Text.withoutFeed comparison.diff.toList)) := by
  let edit : Edit := ⟨.replace, 1, 0, 1, 1, "a", "b", ""⟩
  let suggestion : Suggestion := { (default : Suggestion) with edits := [edit] }
  obtain ⟨comparison, hbuild, hafter⟩ :
      ∃ comparison, build "a" suggestion "source" = .ok comparison ∧ comparison.after = "b" := by
    rw [exists_build_iff, ← Except.toOption_eq_some_iff]
    decide +kernel
  obtain ⟨hbefore, hdiff⟩ := before_and_diff_of_build hbuild
  rw [hbefore, hafter] at hdiff
  have htext : diffOf "source" "a" "b" = "--- a/source\n+++ b/source\n@@ -1 +1 @@\n-a+b" := by
    decide +kernel
  rw [htext] at hdiff
  have hchanged : comparison.isChanged = true := by
    rw [isChanged_iff, hbefore, hafter]
    decide
  obtain ⟨-, hpieces, -⟩ := isUnified_diff hbuild hchanged
  refine ⟨suggestion, comparison, hbuild, hchanged, hdiff, ?_, ?_⟩
  · rw [← hpieces, hdiff, listing, hbefore, hafter]
    decide +kernel
  · have hsplit : Text.splitNewlines (Text.withoutFeed
          "--- a/source\n+++ b/source\n@@ -1 +1 @@\n-a+b".toList)
        = ["--- a/source".toList, "+++ b/source".toList, "@@ -1 +1 @@".toList, "-a+b".toList] := by
      decide +kernel
    rw [hdiff, hsplit]
    rintro ⟨before, after, hunks, hhunks, hlines⟩
    have hbody : hunks.flatMap Diff.HunkText.lines = ["@@ -1 +1 @@".toList, "-a+b".toList] :=
      (List.cons.inj (List.cons.inj hlines).2).2.symm
    obtain ⟨hunk, rest, rfl⟩ := List.exists_cons_of_ne_nil hhunks
    rw [List.flatMap_cons, Diff.HunkText.lines, List.cons_append, List.cons.injEq] at hbody
    -- no line is marked as new, so that the head would have to say so
    have hcount : hunk.rightCount = 0 := by
      have htotal := congrArg (List.countP Diff.isNew) hbody.2
      rw [List.countP_append, hunk.countP_isNew] at htotal
      exact (Nat.add_eq_zero_iff.mp (htotal.trans (by decide))).1
    have hcomma : ',' ∈ hunk.head.toList := by
      have hrange := Diff.comma_mem_rangeOf hunk.rightFirst (hcount.trans_ne (by decide))
      simp [Diff.HunkText.head, hrange]
    rw [hbody.1] at hcomma
    exact absurd hcomma (by decide)

end Comparison

end ScriptAdvisor
