import ScriptAdvisor.Rule.Run
import ScriptAdvisor.Suggestion.Confidence
import ScriptAdvisor.Suggestion.Provider

/-! # From violations to suggestions

Every violation is put to the providers that take it on, in the order of registration. A provider
that fails is recorded and does not affect the others. Of the suggestions for one violation only the
first few are kept, and all that are kept are rated.

* `ProviderError` is the record of a failure, `AdviceReport` that of a run.
* `Advisor` holds the providers and the settings; `Advisor.advise` runs it and
  `Advisor.autoFixable` picks the suggestions that may be applied without asking. -/

namespace ScriptAdvisor

/-- The failure of a provider on a violation. -/
structure ProviderError where
  /-- The provider. -/
  provider : String
  /-- The rule of the violation. -/
  ruleId : String
  /-- The line of the violation. -/
  line : Int
  /-- What went wrong. -/
  error : String
  deriving DecidableEq, Repr, Inhabited

/-- What the providers have to say about a file. -/
structure AdviceReport where
  /-- The file. -/
  fileName : String
  /-- Its language. -/
  language : Language
  /-- The rated suggestions. -/
  suggestions : List Suggestion
  /-- The failures. -/
  errors : List ProviderError
  deriving DecidableEq, Repr, Inhabited

/-- Why there is no advice. -/
inductive AdviceError where
  /-- The run lacks something. -/
  | run (error : RunError)
  /-- A suggestion has no score. -/
  | score (error : ScoreError)
  deriving DecidableEq, Repr, Inhabited

/-- The wording of the error. -/
def AdviceError.message : AdviceError → String
  | run error => error.message "generate_suggestions"
  | score error => error.message

/-- Providers and the settings they are consulted with. -/
structure Advisor where
  /-- The providers. -/
  providers : ProviderRegistry
  /-- The scorer. -/
  scorer : Scorer := .withConfidence []
  /-- How many suggestions are kept for a violation. Negative numbers count from the end. -/
  limit : Int := 3
  /-- Whether suggestions may be applied without asking. -/
  autoFix : Bool := false
  /-- The score from which on they may. -/
  autoFixThreshold : Int := 80
  deriving Inhabited

/-- The suggestions of the providers for one violation, and their failures. -/
def consult (request : AdviceRequest) : List Provider → List Suggestion × List ProviderError
  | [] => ([], [])
  | provider :: rest =>
    let (suggestions, errors) := consult request rest
    if provider.accepts request.violation then
      match (provider.advise request).toExcept with
      | .ok given => (given ++ suggestions, errors)
      | .error fault =>
        (suggestions,
          { provider := provider.name, ruleId := request.violation.ruleId
            line := request.violation.line, error := fault.record } :: errors)
    else (suggestions, errors)

namespace Advisor

/-- The unrated suggestions for violations of a source, and the failures. -/
def collect (advisor : Advisor) (source fileName : String) :
    List Violation → List Suggestion × List ProviderError
  | [] => ([], [])
  | violation :: rest =>
    let (suggestions, errors) :=
      consult { violation, source, fileName } advisor.providers.providers
    let (more, moreErrors) := collect advisor source fileName rest
    (Slice.upTo suggestions advisor.limit ++ more, errors ++ moreErrors)

/-- The advice on the violations of a file. -/
def advise (advisor : Advisor) (parse : Option ParseResult) (violations : List Violation)
    (fileName : String) : Except AdviceError AdviceReport := do
  let (result, _) ← (ParseResult.context? parse fileName).mapError .run
  let (suggestions, errors) := advisor.collect result.source fileName violations
  let rated ← (advisor.scorer.rateAll suggestions violations).mapError .score
  return { fileName, language := result.languageOf fileName, suggestions := rated, errors }

/-- Whether a suggestion may be applied without asking. -/
def isAutoFixable (advisor : Advisor) (suggestion : Suggestion) : Bool :=
  advisor.autoFix && suggestion.score ≥ advisor.autoFixThreshold

/-- The suggestions that may be applied without asking. -/
def autoFixable (advisor : Advisor) (suggestions : List Suggestion) : List Suggestion :=
  suggestions.filter advisor.isAutoFixable

end Advisor

end ScriptAdvisor
