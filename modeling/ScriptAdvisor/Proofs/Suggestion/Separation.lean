import Mathlib.Data.List.Basic
import ScriptAdvisor.Proofs.Smell.Ownership
import ScriptAdvisor.Suggestion.Dispatch

/-! # Advice rule by rule

When every provider serves one rule, what is suggested for the violations of some rules does not
depend on the violations of the others: leaving violations out leaves out the suggestions and the
failures that belong to them, and nothing else.

* `Advisor.collect_filter` says so of the unrated suggestions.
* `Scorer.rateAll_filter` says so of the ratings, which look up a violation among those of all
  rules.
* `Advisor.advise_filter` puts the two together. -/

namespace ScriptAdvisor

variable (isKept : String → Bool)

/-! ## Unrated suggestions -/

/-- What the providers say about a violation belongs to its rule. -/
theorem consult_ruleId {providers : List Provider}
    (hown : ∀ provider ∈ providers, provider.OwnsAdvice) (request : AdviceRequest) :
    (∀ suggestion ∈ (consult request providers).1,
        suggestion.ruleId = request.violation.ruleId)
      ∧ ∀ error ∈ (consult request providers).2, error.ruleId = request.violation.ruleId := by
  induction providers with
  | nil => exact ⟨List.forall_mem_nil _, List.forall_mem_nil _⟩
  | cons provider providers ih =>
      rw [List.forall_mem_cons] at hown
      obtain ⟨hsuggestions, herrors⟩ := ih hown.2
      rw [consult]
      by_cases haccepts : provider.accepts request.violation = true
      · have hrule := hown.1.accepts _ haccepts
        simp only [if_pos haccepts]
        cases hadvise : provider.advise request with
        | given given =>
            refine ⟨fun suggestion hsuggestion => ?_, herrors⟩
            rcases List.mem_append.mp hsuggestion with hsuggestion | hsuggestion
            · rw [hown.1.advise request given hadvise suggestion hsuggestion, hrule]
            · exact hsuggestions suggestion hsuggestion
        | nothing => exact ⟨hsuggestions, List.forall_mem_cons.mpr ⟨rfl, herrors⟩⟩
        | failed fault => exact ⟨hsuggestions, List.forall_mem_cons.mpr ⟨rfl, herrors⟩⟩
      · simp only [if_neg haccepts]
        exact ⟨hsuggestions, herrors⟩

/-- Leaving violations out leaves out what belongs to them. -/
theorem Advisor.collect_filter (advisor : Advisor)
    (hown : ∀ provider ∈ advisor.providers.providers, provider.OwnsAdvice)
    (source fileName : String) (violations : List Violation) :
    advisor.collect source fileName (violations.filter fun violation => isKept violation.ruleId)
      = (((advisor.collect source fileName violations).1.filter fun suggestion =>
            isKept suggestion.ruleId),
          (advisor.collect source fileName violations).2.filter fun error =>
            isKept error.ruleId) := by
  induction violations with
  | nil => rfl
  | cons violation violations ih =>
      obtain ⟨hsuggestions, herrors⟩ := consult_ruleId hown { violation, source, fileName }
      -- the limit cuts what one violation gives, so nothing of another rule can take its place
      have hcut : ∀ suggestion ∈ Slice.upTo
          (consult { violation, source, fileName } advisor.providers.providers).1 advisor.limit,
          isKept suggestion.ruleId = isKept violation.ruleId := by
        intro suggestion hsuggestion
        rw [hsuggestions suggestion (List.mem_of_mem_take hsuggestion)]
      have hfailed : ∀ error ∈
          (consult { violation, source, fileName } advisor.providers.providers).2,
          isKept error.ruleId = isKept violation.ruleId := by
        intro error herror
        rw [herrors error herror]
      simp only [collect]
      rw [List.filter_append, List.filter_append, filter_eq_ite hcut,
        filter_eq_ite hfailed]
      cases hkept : isKept violation.ruleId with
      | true =>
          rw [List.filter_cons, if_pos hkept, collect, ih]
          rfl
      | false =>
          rw [List.filter_cons_of_neg (by simp [hkept]), ih]
          rfl

/-! ## Ratings -/

namespace Scorer

variable (scorer : Scorer)

/-- Rating a suggestion leaves it with its rule. -/
theorem rateAmong_ruleId {violations : List Violation} {suggestion rated : Suggestion}
    (h : scorer.rateAmong violations suggestion = .ok rated) :
    rated.ruleId = suggestion.ruleId := by
  rw [rateAmong] at h
  split at h
  · obtain ⟨score, _, hrated⟩ := Except.bind_eq_ok_iff.mp h
    rw [← Except.ok.inj hrated]
  · rw [← Except.ok.inj h]

/-- A suggestion that is kept is rated for the same violation. -/
theorem rateAmong_filter (violations : List Violation) {suggestion : Suggestion}
    (hkept : isKept suggestion.ruleId = true) :
    scorer.rateAmong (violations.filter fun violation => isKept violation.ruleId) suggestion
      = scorer.rateAmong violations suggestion := by
  rw [rateAmong, rateAmong, List.find?_filter]
  -- every violation of the rule is kept, so the first one is found again
  have hfind : (fun violation : Violation =>
        decide (isKept violation.ruleId = true ∧ (violation.ruleId == suggestion.ruleId) = true))
      = fun violation => violation.ruleId == suggestion.ruleId := by
    funext violation
    by_cases hrule : violation.ruleId = suggestion.ruleId
    · simp [hrule, hkept]
    · simp [hrule]
  rw [hfind]

/-- Leaving violations out together with the suggestions for them leaves the other ratings alone. -/
theorem rateAll_filter {suggestions rated : List Suggestion} {violations : List Violation}
    (h : scorer.rateAll suggestions violations = .ok rated) :
    scorer.rateAll (suggestions.filter fun suggestion => isKept suggestion.ruleId)
        (violations.filter fun violation => isKept violation.ruleId)
      = .ok (rated.filter fun suggestion => isKept suggestion.ruleId) := by
  refine Except.mapM_filter_eq_ok ?_ ?_ h
  · intro suggestion hkept
    exact scorer.rateAmong_filter isKept violations hkept
  · intro suggestion result hrated
    rw [scorer.rateAmong_ruleId hrated]

end Scorer

/-! ## Advice -/

namespace Advisor

/-- The advice on some of the violations is what belongs to them in the advice on all. -/
theorem advise_filter (advisor : Advisor)
    (hown : ∀ provider ∈ advisor.providers.providers, provider.OwnsAdvice)
    {parse : Option ParseResult} {violations : List Violation} {fileName : String}
    {report : AdviceReport} (h : advisor.advise parse violations fileName = .ok report) :
    advisor.advise parse (violations.filter fun violation => isKept violation.ruleId) fileName
      = .ok
        { report with
          suggestions := report.suggestions.filter fun suggestion => isKept suggestion.ruleId
          errors := report.errors.filter fun error => isKept error.ruleId } := by
  rw [advise] at h ⊢
  obtain ⟨⟨result, context⟩, hcontext, h⟩ := Except.bind_eq_ok_iff.mp h
  obtain ⟨rated, hrated, h⟩ := Except.bind_eq_ok_iff.mp h
  rw [Except.mapError_eq_ok_iff] at hrated
  have hrest := advisor.scorer.rateAll_filter isKept hrated
  rw [hcontext, ← Except.ok.inj h]
  simp only [bind, Except.bind, advisor.collect_filter isKept hown]
  rw [hrest]
  rfl

/-- Which suggestions may be applied without asking is decided for each by itself. -/
theorem autoFixable_filter (advisor : Advisor) (suggestions : List Suggestion) :
    advisor.autoFixable (suggestions.filter fun suggestion => isKept suggestion.ruleId)
      = (advisor.autoFixable suggestions).filter fun suggestion => isKept suggestion.ruleId := by
  rw [autoFixable, autoFixable, List.filter_filter, List.filter_filter]
  exact List.filter_congr fun suggestion _ => Bool.and_comm _ _

end Advisor

end ScriptAdvisor
