import Mathlib.Data.List.Basic
import ScriptAdvisor.Proofs.Except
import ScriptAdvisor.Suggestion.Dispatch

/-! # What the providers come to

Which suggestions are kept and which failures are recorded, said without going through the
providers one by one: a provider that fails on a violation takes no part in the answer to it, and
takes no room below the limit either.

* `offered` lists what the providers suggest for a violation, `failures` how they fail on it.
* `consult_eq` and `Advisor.collect_eq` say that these are what one violation and what all
  violations come to, and `Advisor.advise_eq` that they are what is rated.
* `Advisor.advise_dispatch` adds that providers which only fail can be taken out, and that a lower
  limit only thins the suggestions out. -/

namespace ScriptAdvisor

/-! ## One violation -/

namespace AdviceOutcome

/-- The suggestions of an advice. One that fails has none. -/
def suggestions : AdviceOutcome → List Suggestion
  | given suggestions => suggestions
  | nothing | failed _ => []

/-- The fault by which an advice fails. To have no result is one. -/
def fault? : AdviceOutcome → Option Fault
  | given _ => none
  | nothing => some (.notIterable .null)
  | failed fault => some fault

end AdviceOutcome

namespace Provider

/-- Whether the provider takes on a violation and does not fail on it. -/
def helpsWith (provider : Provider) (request : AdviceRequest) : Bool :=
  provider.accepts request.violation && (provider.advise request).fault?.isNone

/-- Whether the provider takes on a violation and fails on it. -/
def failsOn (provider : Provider) (request : AdviceRequest) : Bool :=
  provider.accepts request.violation && (provider.advise request).fault?.isSome

/-- The record of a failure on a violation. -/
def errorOn (provider : Provider) (request : AdviceRequest) : ProviderError :=
  { provider := provider.name, ruleId := request.violation.ruleId, line := request.violation.line
    error := ((provider.advise request).fault?.map Fault.record).getD "" }

/-- A provider that fails on whatever it takes on helps with nothing. -/
theorem helpsWith_eq_false {provider : Provider} {request : AdviceRequest}
    (h : provider.accepts request.violation = true → provider.failsOn request = true) :
    provider.helpsWith request = false := by
  by_cases haccepts : provider.accepts request.violation = true
  · have hfails := h haccepts
    rw [failsOn, haccepts, Bool.true_and] at hfails
    rw [helpsWith, ← Option.not_isSome, hfails, Bool.not_true, Bool.and_false]
  · rw [helpsWith, Bool.eq_false_iff.mpr haccepts, Bool.false_and]

end Provider

/-- The suggestions for a violation by the providers that help with it, in their order. -/
def offered (providers : List Provider) (request : AdviceRequest) : List Suggestion :=
  (providers.filter (·.helpsWith request)).flatMap fun provider =>
    (provider.advise request).suggestions

/-- The records of the providers that fail on a violation, in their order. -/
def failures (providers : List Provider) (request : AdviceRequest) : List ProviderError :=
  (providers.filter (·.failsOn request)).map (·.errorOn request)

/-- The providers are consulted one by one, and each adds to one of the two lists or to none. -/
theorem consult_eq (request : AdviceRequest) (providers : List Provider) :
    consult request providers = (offered providers request, failures providers request) := by
  induction providers with
  | nil => rfl
  | cons provider providers ih =>
      rw [consult, ih]
      by_cases haccepts : provider.accepts request.violation = true
      · simp only [if_pos haccepts]
        cases hadvise : provider.advise request <;>
          simp [offered, failures, Provider.helpsWith, Provider.failsOn, Provider.errorOn,
            haccepts, hadvise, AdviceOutcome.toExcept, AdviceOutcome.fault?,
            AdviceOutcome.suggestions]
      · simp [offered, failures, Provider.helpsWith, Provider.failsOn, haccepts]

/-- Providers that help with nothing can be taken out of a list of providers. -/
theorem filter_helpsWith_eraseIdx {providers : List Provider} {place : Nat} {provider : Provider}
    {request : AdviceRequest} (hplace : providers[place]? = some provider)
    (hhelps : provider.helpsWith request = false) :
    (providers.eraseIdx place).filter (·.helpsWith request)
      = providers.filter (·.helpsWith request) := by
  induction providers generalizing place with
  | nil => rfl
  | cons first providers ih =>
      cases place with
      | zero =>
          rw [List.getElem?_cons_zero, Option.some.injEq] at hplace
          rw [List.eraseIdx_cons_zero, List.filter_cons_of_neg (by simp [hplace, hhelps])]
      | succ place =>
          rw [List.getElem?_cons_succ] at hplace
          rw [List.eraseIdx_cons_succ, List.filter_cons, List.filter_cons, ih hplace]

/-! ## All violations -/

/-- A lower limit on each part of a list thins the list out. -/
theorem flatMap_take_sublist {α β : Type _} (items : List α) (part : α → List β)
    {fewer count : Nat} (h : fewer ≤ count) :
    (items.flatMap fun item => (part item).take fewer).Sublist
      (items.flatMap fun item => (part item).take count) := by
  induction items with
  | nil => exact List.Sublist.refl _
  | cons item items ih =>
      rw [List.flatMap_cons, List.flatMap_cons]
      exact ((List.take_prefix_take_left h).sublist).append ih

namespace Advisor

/-- The advisor with other providers. -/
def withProviders (advisor : Advisor) (providers : ProviderRegistry) : Advisor :=
  { advisor with providers }

/-- The advisor that keeps so many suggestions for a violation. -/
def withLimit (advisor : Advisor) (limit : Nat) : Advisor := { advisor with limit := limit }

/-- Each violation comes to what is offered for it, up to the limit, and to the failures on it. -/
theorem collect_eq (advisor : Advisor) (source fileName : String) (violations : List Violation) :
    advisor.collect source fileName violations
      = (violations.flatMap fun violation =>
            Slice.upTo (offered advisor.providers.providers { violation, source, fileName })
              advisor.limit,
          violations.flatMap fun violation =>
            failures advisor.providers.providers { violation, source, fileName }) := by
  induction violations with
  | nil => rfl
  | cons violation violations ih =>
      rw [collect, consult_eq, ih]
      rfl

/-- What is collected was suggested for a violation by a provider that takes it on. -/
theorem exists_of_mem_collect {advisor : Advisor} {source fileName : String}
    {violations : List Violation} {suggestion : Suggestion}
    (h : suggestion ∈ (advisor.collect source fileName violations).1) :
    ∃ violation ∈ violations, ∃ provider ∈ advisor.providers.providers,
      provider.accepts violation = true
        ∧ suggestion ∈ (provider.advise { violation, source, fileName }).suggestions := by
  rw [collect_eq] at h
  obtain ⟨violation, hviolation, hkept⟩ := List.mem_flatMap.mp h
  obtain ⟨provider, hprovider, hsuggestion⟩ := List.mem_flatMap.mp (List.mem_of_mem_take hkept)
  obtain ⟨hregistered, hhelps⟩ := List.mem_filter.mp hprovider
  rw [Provider.helpsWith, Bool.and_eq_true] at hhelps
  exact ⟨violation, hviolation, provider, hregistered, hhelps.1, hsuggestion⟩

theorem collect_withLimit (advisor : Advisor) (limit : Nat) (source fileName : String)
    (violations : List Violation) :
    (advisor.withLimit limit).collect source fileName violations
      = (violations.flatMap fun violation =>
            (offered advisor.providers.providers { violation, source, fileName }).take limit,
          violations.flatMap fun violation =>
            failures advisor.providers.providers { violation, source, fileName }) := by
  rw [collect_eq]
  simp only [withLimit, Slice.upTo_natCast]

end Advisor

/-! ## The advice on a file -/

/-- What a run gets to see of a parse result with a tree, if the file has a name. -/
theorem ParseResult.context?_eq {result : ParseResult} {tree : Tree}
    (htree : result.tree = some tree) (fileName : String) :
    ParseResult.context? (some result) fileName
      = if fileName = "" then .error .noFileName
        else .ok (result, { tree, source := result.source, fileName }) := by
  simp only [ParseResult.context?, htree, String.isEmpty_iff]

namespace Advisor

variable (advisor : Advisor) {result : ParseResult} {tree : Tree} {fileName : String}

/-- What is collected is rated, and nothing else is. -/
theorem advise_eq (htree : result.tree = some tree) (hname : fileName ≠ "")
    (violations : List Violation) :
    advisor.advise (some result) violations fileName
      = ((advisor.scorer.rateAll (advisor.collect result.source fileName violations).1
            violations).mapError AdviceError.score).map fun rated =>
          { fileName, language := result.languageOf fileName, suggestions := rated
            errors := (advisor.collect result.source fileName violations).2 } := by
  rw [advise, ParseResult.context?_eq htree, if_neg hname]
  simp only [Except.mapError_ok, bind, Except.bind]
  cases advisor.scorer.rateAll (advisor.collect result.source fileName violations).1 violations <;>
    rfl

/-- Providers of which the same ones help come to the same suggestions. -/
theorem advise_withProviders_suggestions (htree : result.tree = some tree) (hname : fileName ≠ "")
    {violations : List Violation} {rest : ProviderRegistry}
    (hrest : ∀ violation ∈ violations,
      rest.providers.filter (·.helpsWith { violation, source := result.source, fileName })
        = advisor.providers.providers.filter
            (·.helpsWith { violation, source := result.source, fileName })) :
    ((advisor.withProviders rest).advise (some result) violations fileName).map
        AdviceReport.suggestions
      = (advisor.advise (some result) violations fileName).map AdviceReport.suggestions := by
  have hkept : ((advisor.withProviders rest).collect result.source fileName violations).1
      = (advisor.collect result.source fileName violations).1 := by
    rw [collect_eq, collect_eq]
    refine List.flatMap_congr fun violation hviolation => ?_
    rw [offered, offered, withProviders, hrest violation hviolation]
  rw [advise_eq _ htree hname, advise_eq _ htree hname, hkept, withProviders]
  cases advisor.scorer.rateAll (advisor.collect result.source fileName violations).1 violations <;>
    rfl

/-- A lower limit thins the suggestions out and leaves the failures alone. -/
theorem advise_withLimit_of_le (htree : result.tree = some tree) (hname : fileName ≠ "")
    {violations : List Violation} {fewer limit : Nat} (hfewer : fewer ≤ limit)
    {report : AdviceReport}
    (h : (advisor.withLimit limit).advise (some result) violations fileName = .ok report) :
    ∃ thinned, (advisor.withLimit fewer).advise (some result) violations fileName = .ok thinned
      ∧ thinned.suggestions.Sublist report.suggestions ∧ thinned.errors = report.errors := by
  rw [advise_eq _ htree hname, collect_withLimit] at h
  obtain ⟨rated, hrated, rfl⟩ := Except.map_eq_ok_iff.mp h
  rw [Except.mapError_eq_ok_iff] at hrated
  -- every suggestion is rated by itself, so those that are kept have the ratings they had
  obtain ⟨kept, hkept, hsublist⟩ :=
    Except.mapM_eq_ok_of_sublist (flatMap_take_sublist violations _ hfewer) hrated
  refine ⟨{ fileName, language := result.languageOf fileName, suggestions := kept, errors := _ },
    ?_, hsublist, rfl⟩
  rw [advise_eq _ htree hname, collect_withLimit]
  exact Except.map_eq_ok_iff.mpr ⟨kept, Except.mapError_eq_ok_iff.mpr hkept, rfl⟩

end Advisor

/-- On a file with a tree and a name the suggestions to be rated are, violation by violation, the
first ones of those by the providers that take the violation on and do not fail on it, in the order
of registration, and every failure of a provider on a violation it takes on is recorded once, in the
same order. A provider that fails on all it takes on can be removed, alone or with the others that
serve its rule, without a change to the suggestions. A lower limit thins the suggestions out. -/
theorem Advisor.advise_dispatch (advisor : Advisor) (result : ParseResult) (tree : Tree)
    (htree : result.tree = some tree) (fileName : String) (hname : fileName ≠ "")
    (violations : List Violation) (limit : Nat) :
    let providers := advisor.providers.providers
    let request := fun violation : Violation =>
      ({ violation, source := result.source, fileName } : AdviceRequest)
    let kept := fun limit : Nat => violations.flatMap fun violation =>
      ((providers.filter (·.helpsWith (request violation))).flatMap fun provider =>
        (provider.advise (request violation)).suggestions).take limit
    let errors := violations.flatMap fun violation =>
      (providers.filter (·.failsOn (request violation))).map (·.errorOn (request violation))
    let onlyFails := fun provider : Provider => ∀ violation ∈ violations,
      provider.accepts violation = true → provider.failsOn (request violation) = true
    let ofRated := fun suggestions : List Suggestion =>
      ({ fileName, language := result.languageOf fileName, suggestions, errors } : AdviceReport)
    let advice := fun limit : Nat =>
      (advisor.withLimit limit).advise (some result) violations fileName
    let suggestionsBy := fun rest : ProviderRegistry =>
      (((advisor.withLimit limit).withProviders rest).advise (some result) violations
        fileName).map AdviceReport.suggestions
    (advisor.withLimit limit).collect result.source fileName violations = (kept limit, errors)
      ∧ advice limit
        = ((advisor.scorer.rateAll (kept limit) violations).mapError AdviceError.score).map ofRated
      ∧ (∀ place provider, providers[place]? = some provider → onlyFails provider →
          suggestionsBy ⟨providers.eraseIdx place⟩ = suggestionsBy advisor.providers)
      ∧ (∀ ruleId, (∀ provider ∈ advisor.providers.forRule ruleId, onlyFails provider) →
          suggestionsBy (advisor.providers.unregister ruleId) = suggestionsBy advisor.providers)
      ∧ ∀ fewer ≤ limit, (kept fewer).Sublist (kept limit)
        ∧ ∀ report, advice limit = .ok report →
          ∃ thinned, advice fewer = .ok thinned
            ∧ thinned.suggestions.Sublist report.suggestions
            ∧ thinned.errors = report.errors := by
  intro providers request kept errors onlyFails ofRated advice suggestionsBy
  have hcollect := advisor.collect_withLimit limit result.source fileName violations
  refine ⟨hcollect, ?_, ?_, ?_, ?_⟩
  · rw [show advice limit = _ from advise_eq _ htree hname violations, hcollect]
    rfl
  · intro place provider hplace honly
    refine (advisor.withLimit limit).advise_withProviders_suggestions htree hname ?_
    intro violation hviolation
    exact filter_helpsWith_eraseIdx hplace
      (Provider.helpsWith_eq_false (honly violation hviolation))
  · intro ruleId honly
    refine (advisor.withLimit limit).advise_withProviders_suggestions htree hname ?_
    intro violation hviolation
    rw [ProviderRegistry.unregister, List.filter_filter]
    refine List.filter_congr fun provider hprovider => ?_
    by_cases hrule : provider.ruleId = ruleId
    · have hserves : provider ∈ advisor.providers.forRule ruleId :=
        List.mem_filter.mpr ⟨hprovider, beq_iff_eq.mpr hrule⟩
      rw [Provider.helpsWith_eq_false (honly provider hserves violation hviolation),
        Bool.false_and]
    · rw [bne_iff_ne.mpr hrule, Bool.and_true]
  · intro fewer hfewer
    refine ⟨flatMap_take_sublist violations _ hfewer, fun report hreport => ?_⟩
    exact advisor.advise_withLimit_of_le htree hname hfewer hreport

/-- Two violations put to four providers, of which one fails and one has no result, with a limit of
two. -/
theorem Advisor.advise_dispatch_two_of_three :
    let titled := fun title => ({ (default : Suggestion) with title } : Suggestion)
    let stub := fun name outcome => Provider.mk name "rule" (fun _ => true) fun _ => outcome
    let advisor : Advisor :=
      { providers :=
          ⟨[stub "A" (.given [titled "a"]), stub "B" (.failed (.reported "broken")),
            stub "C" .nothing, stub "D" (.given [titled "b", titled "c"])]⟩ }
    let violation := fun line => ({ (default : Violation) with line } : Violation)
    let collected := (advisor.withLimit 2).collect "" "x.js" [violation 1, violation 2]
    collected.1.map (·.title) = ["a", "b", "a", "b"]
      ∧ collected.2.map (fun error => (error.provider, error.line, error.error))
        = [("B", 1, "broken"), ("C", 1, "'NoneType' object is not iterable"), ("B", 2, "broken"),
            ("C", 2, "'NoneType' object is not iterable")] := by
  intro titled stub advisor violation collected
  let parse : ParseResult :=
    { tree := some default, source := "", fileName := "x.js", language := none, errors := [] }
  have hcollected := (advisor.advise_dispatch parse default rfl "x.js" (by decide)
    [violation 1, violation 2] 2).1
  rw [show collected = _ from hcollected]
  decide +kernel

end ScriptAdvisor
