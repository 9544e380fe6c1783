import ScriptAdvisor.Diff.Unified
import ScriptAdvisor.Suggestion.Apply

/-! # Comparisons

What a source looks like before and after a suggestion. Nothing is written to a file. -/

namespace ScriptAdvisor

/-- A source before and after a suggestion. -/
structure Comparison where
  /-- The suggestion. -/
  id : SuggestionId
  /-- Its title. -/
  title : String
  /-- The source. -/
  before : String
  /-- The source after the edits. -/
  after : String
  /-- The difference between the two. -/
  diff : String
  /-- The example that comes with the suggestion. -/
  preview : Option String
  deriving DecidableEq, Repr, Inhabited

namespace Comparison

/-- Whether the edits change the source. -/
def isChanged (comparison : Comparison) : Bool := comparison.before != comparison.after

/-- The lines of a text with their line breaks. -/
def diffLines (text : String) : List String :=
  (Text.linesWithEnds text.toList).map String.ofList

/-- The unified diff between two versions of a file. -/
def diffOf (fileName before after : String) : String :=
  Diff.unified ("a/" ++ fileName) ("b/" ++ fileName) (diffLines before) (diffLines after)

/-- The comparison for a suggestion. -/
def build (source : String) (suggestion : Suggestion) (fileName : String) :
    Except EditError Comparison := do
  let after ← applyEdits source suggestion.edits
  return { id := suggestion.id, title := suggestion.title, before := source, after
           diff := diffOf fileName source after, preview := suggestion.preview }

/-- There is a comparison exactly if the edits can be applied, and it shows their result. -/
theorem exists_build_iff {source after fileName : String} {suggestion : Suggestion} :
    (∃ comparison, build source suggestion fileName = .ok comparison ∧ comparison.after = after)
      ↔ applyEdits source suggestion.edits = .ok after := by
  rw [build]
  cases applyEdits source suggestion.edits with
  | error fault =>
      constructor
      · rintro ⟨comparison, hbuild, -⟩
        contradiction
      · intro hafter
        contradiction
  | ok result =>
      constructor
      · rintro ⟨comparison, hbuild, rfl⟩
        obtain rfl := Except.ok.inj hbuild
        rfl
      · intro hafter
        exact ⟨_, rfl, Except.ok.inj hafter⟩

end Comparison

end ScriptAdvisor
