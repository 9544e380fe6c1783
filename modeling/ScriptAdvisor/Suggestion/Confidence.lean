import ScriptAdvisor.Number.Decimal
import ScriptAdvisor.Suggestion.Basic

/-! # Confidence

How sure a suggestion is follows from six factors: the complexity and the number of its edits, the
lines it changes, whether it may break callers, whether it needs testing, and how reliable its rule
is. The score is computed in decimals and lies between 0 and 100.

* `Factors` are the factors, `Factors.score` the score and `Factors.reasoning` its explanation.
* `Scorer` holds the reliability of the rules; `Scorer.rate` scores one suggestion and
  `Scorer.rateAll` a list of them. -/

namespace ScriptAdvisor

/-- What the score of a suggestion depends on. -/
structure Factors where
  /-- How complex the edits are. -/
  editComplexity : Int
  /-- How many edits there are. -/
  editCount : Int
  /-- How many lines change. -/
  codeImpact : Int
  /-- Whether callers may break. -/
  breakingChange : Bool
  /-- Whether the change needs testing. -/
  testingRequired : Bool
  /-- How reliable the rule is. -/
  ruleConfidence : Int
  deriving DecidableEq, Repr, Inhabited

/-- Why there is no score: it has more digits than decimals keep. -/
inductive ScoreError where
  /-- The rounded score has too many digits. -/
  | tooManyDigits
  deriving DecidableEq, Repr, Inhabited

/-- The wording of the error. -/
def ScoreError.message : ScoreError → String
  | tooManyDigits => "[<class 'decimal.InvalidOperation'>]"

namespace Factors

/-- The share of the complexity that is taken off the score. -/
def complexityWeight : Decimal := ⟨2, -1⟩

/-- What the number of edits adds to the score. -/
def editBonus (factors : Factors) : Int :=
  if factors.editCount = 1 then 10 else if factors.editCount > 3 then -15 else 0

/-- What the number of changed lines adds to the score. -/
def impactBonus (factors : Factors) : Int :=
  if factors.codeImpact ≤ 3 then 10 else if factors.codeImpact > 10 then -10 else 0

/-- What the danger to callers adds to the score. -/
def breakingBonus (factors : Factors) : Int := if factors.breakingChange then -20 else 0

/-- What the need for testing adds to the score. -/
def testingBonus (factors : Factors) : Int := if factors.testingRequired then -5 else 0

/-- The score before it is rounded. -/
def rawScore (factors : Factors) : Decimal :=
  .ofInt factors.ruleConfidence - .ofInt factors.editComplexity * complexityWeight
    + .ofInt factors.editBonus + .ofInt factors.impactBonus + .ofInt factors.breakingBonus
    + .ofInt factors.testingBonus

/-- A number moved into the range of scores. -/
def clamp (n : Int) : Int := max 0 (min 100 n)

/-- The score. -/
def score (factors : Factors) : Except ScoreError Int :=
  match factors.rawScore.toInt? with
  | some n => .ok (clamp n)
  | none => .error .tooManyDigits

/-- What the complexity of the edits gives reason to say. -/
def complexityReason (factors : Factors) : List String :=
  if factors.editComplexity < 30 then ["Simple syntax transformation"]
  else if factors.editComplexity > 60 then ["Complex syntax transformation"]
  else []

/-- What the number of edits gives reason to say. -/
def editReason (factors : Factors) : List String :=
  if factors.editCount = 1 then ["Single transformation"]
  else if factors.editCount > 3 then ["Multiple transformations required"]
  else []

/-- What the number of changed lines gives reason to say. -/
def impactReason (factors : Factors) : List String :=
  if factors.codeImpact ≤ 3 then ["Minimal code impact"]
  else if factors.codeImpact > 10 then ["Significant code changes"]
  else []

/-- What the tier gives reason to say. -/
def tierReason : Tier → String
  | .high => "High confidence - safe to apply"
  | .medium => "Medium confidence - review recommended"
  | .low => "Low confidence - manual review required"

/-- The reasons for a score, that of the tier last. -/
def reasons (factors : Factors) (score : Int) : List String :=
  factors.complexityReason ++ factors.editReason ++ factors.impactReason
    ++ (if factors.breakingChange then ["Potential breaking change"] else [])
    ++ (if factors.testingRequired then ["Testing recommended"] else [])
    ++ [tierReason (.ofScore score)]

/-- The explanation of a score. -/
def reasoning (factors : Factors) (score : Int) : String :=
  "; ".intercalate (factors.reasons score)

end Factors

/-- How complex an edit is. -/
def Edit.complexity (edit : Edit) : Nat :=
  match edit.kind with
  | .replace => if edit.isSingleLine then 10 else 40
  | .insert | .delete => 20
  | .move | .extract | .inline => 40

/-- How complex the edits of a suggestion are together, at most 100. -/
def Suggestion.editComplexity (suggestion : Suggestion) : Nat :=
  min (suggestion.edits.foldl (fun total edit => total + edit.complexity) 0) 100

/-- How reliable the rules are. -/
structure Scorer where
  /-- The reliability by rule. -/
  ruleConfidence : Entries Int
  deriving DecidableEq, Repr, Inhabited

namespace Scorer

/-- The reliability of the rules of the catalogue. -/
def defaultConfidence : Entries Int :=
  [("glide-deprecated-ajax", 90), ("glide-log-for-errors", 95), ("ts-no-any", 85),
    ("ts-unused-imports", 90), ("glide-nested-query", 70), ("glide-query-no-conditions", 50),
    ("ts-missing-types", 60), ("glide-hardcoded-values", 70), ("ts-large-loops", 75)]

/-- The reliability of every other rule. -/
def fallbackConfidence : Int := 50

/-- The scorer with some reliabilities changed. -/
def withConfidence (changes : Entries Int) : Scorer :=
  ⟨Entries.merge defaultConfidence changes⟩

/-- The reliability of a rule. -/
def confidenceOf (scorer : Scorer) (ruleId : String) : Int :=
  (Entries.get? scorer.ruleConfidence ruleId).getD fallbackConfidence

/-- The factors of a suggestion for a violation of the rule `ruleId`. -/
def factors (scorer : Scorer) (suggestion : Suggestion) (ruleId : String) : Factors :=
  { editComplexity := suggestion.editComplexity
    editCount := suggestion.edits.length
    codeImpact := suggestion.impact.linesChanged
    breakingChange := suggestion.impact.breakingChange
    testingRequired := suggestion.impact.testingRequired
    ruleConfidence := scorer.confidenceOf ruleId }

/-- The suggestion with its score, tier and reasoning for a violation. -/
def rate (scorer : Scorer) (suggestion : Suggestion) (violation : Violation) :
    Except ScoreError Suggestion := do
  let factors := scorer.factors suggestion violation.ruleId
  let score ← factors.score
  return { suggestion with score, tier := .ofScore score, reasoning := factors.reasoning score }

/-- The suggestion rated for the first violation of its rule; unchanged if there is none. -/
def rateAmong (scorer : Scorer) (violations : List Violation) (suggestion : Suggestion) :
    Except ScoreError Suggestion :=
  match violations.find? fun violation => violation.ruleId == suggestion.ruleId with
  | some violation => scorer.rate suggestion violation
  | none => .ok suggestion

/-- Suggestions rated one after the other. -/
def rateAll (scorer : Scorer) (suggestions : List Suggestion) (violations : List Violation) :
    Except ScoreError (List Suggestion) :=
  suggestions.mapM (scorer.rateAmong violations)

end Scorer

end ScriptAdvisor
