import ScriptAdvisor.Proofs.Analysis.Injection
import ScriptAdvisor.Proofs.Suggestion.Rating

/-! # The ratings in a report

Every suggestion of a report is rated for one of its violations. An analysis that has a suggestion
without a score fails as a whole, so there are no other ratings in a report either.

* `Engine.analyze_eq_ite` says what an analysis comes to once the rules have been run.
* `Engine.analyze_rated` is what holds of the ratings in a report: score, tier and reasoning go
  together, and to rate once more changes nothing.
* `Engine.analyze_isOk_iff_isScorable` says for which reliabilities of the rules suggestions have a
  score, and that the analysis fails without one. -/

namespace ScriptAdvisor

/-! ## Suggestions for violations -/

/-- Providers that own their advice make suggestions for the rules of the violations only. -/
theorem Advisor.ruleId_mem_of_mem_collect {advisor : Advisor}
    (hown : ∀ provider ∈ advisor.providers.providers, provider.OwnsAdvice)
    {source fileName : String} {violations : List Violation} :
    ∀ suggestion ∈ (advisor.collect source fileName violations).1,
      suggestion.ruleId ∈ violations.map (·.ruleId) := by
  intro suggestion hsuggestion
  obtain ⟨violation, hviolation, provider, hprovider, haccepts, hadvised⟩ :=
    exists_of_mem_collect hsuggestion
  cases hadvice : provider.advise { violation, source, fileName } with
  | given suggestions =>
      rw [hadvice] at hadvised
      have hsame : suggestion.ruleId = violation.ruleId :=
        ((hown provider hprovider).advise _ _ hadvice suggestion hadvised).trans
          ((hown provider hprovider).accepts violation haccepts).symm
      exact hsame ▸ List.mem_map_of_mem hviolation
  | nothing =>
      rw [hadvice] at hadvised
      exact absurd hadvised List.not_mem_nil
  | failed fault =>
      rw [hadvice] at hadvised
      exact absurd hadvised List.not_mem_nil

namespace Scorer

variable (scorer : Scorer)

theorem lacksScore_of_mem {violations : List Violation} {suggestion : Suggestion}
    (h : suggestion.ruleId ∈ violations.map (·.ruleId)) :
    scorer.lacksScore violations suggestion
      = !decide (scorer.factors suggestion suggestion.ruleId).IsScorable := by
  rw [lacksScore, List.contains_iff_mem.mpr h, Bool.true_and]

end Scorer

/-- Score, tier and reasoning of a suggestion go together. -/
structure Suggestion.IsRated (suggestion : Suggestion) : Prop where
  /-- The score is not negative. -/
  score_nonneg : 0 ≤ suggestion.score
  /-- The score is at most 100. -/
  score_le : suggestion.score ≤ 100
  /-- The tier is that of the score. -/
  tier_eq : suggestion.tier = .ofScore suggestion.score
  /-- One phrase of the reasoning tells a tier, and it tells that of the suggestion. -/
  filter_phrases :
    ((Text.pieces "; ".toList suggestion.reasoning.toList).map String.ofList).filter
      Factors.isTierReason = [Factors.tierReason suggestion.tier]
  /-- That phrase is the last. -/
  getLast?_phrases :
    ((Text.pieces "; ".toList suggestion.reasoning.toList).map String.ofList).getLast?
      = some (Factors.tierReason suggestion.tier)

theorem Scorer.isRated_rated (scorer : Scorer) (ruleId : String) (suggestion : Suggestion) :
    (scorer.rated ruleId suggestion).IsRated := by
  rw [rated]
  refine ⟨Factors.clamp_nonneg _, Factors.clamp_le _, rfl, ?_, ?_⟩
  · rw [Factors.pieces_reasoning, Factors.filter_isTierReason_reasons]
  · rw [Factors.pieces_reasoning, Factors.getLast?_reasons]

/-! ## The analysis -/

namespace Engine

variable {engine : Engine} {parse : ParseResult}

/-- Once the rules have been run, an analysis fails if a suggestion lacks a score, and comes to a
report otherwise. -/
theorem analyze_eq_ite {tree : Tree} (htree : parse.tree = some tree) (hname : parse.fileName ≠ "")
    {found : RuleReport}
    (hfound : engine.rules.execute engine.limits (some parse) parse.fileName = .ok found) :
    let unrated := (engine.advisor.collect parse.source parse.fileName found.violations).1
    let suggestions := unrated.map (engine.advisor.scorer.ratedAmong found.violations)
    engine.analyze (some parse)
      = if unrated.any (engine.advisor.scorer.lacksScore found.violations) then
          .error (.advice (.score .tooManyDigits))
        else .ok
          { parse, violations := found.violations, issues := found.issues, suggestions
            autoFixable := engine.advisor.autoFixable suggestions
            ruleErrors := found.failures
            providerErrors :=
              (engine.advisor.collect parse.source parse.fileName found.violations).2 } := by
  intro unrated suggestions
  have hadvice := engine.advisor.advise_eq htree hname found.violations
  rw [Scorer.rateAll_eq] at hadvice
  split
  · rename_i hlacks
    rw [if_pos hlacks] at hadvice
    simp only [analyze, hfound, Except.mapError_ok, bind, Except.bind, hadvice]
    rfl
  · rename_i hscores
    rw [if_neg hscores] at hadvice
    exact analyze_eq hfound hadvice

/-- The suggestions of a report are those collected for its violations, rated. -/
theorem rateAll_of_analyze {report : Report} (h : engine.analyze (some parse) = .ok report) :
    engine.advisor.scorer.rateAll
        (engine.advisor.collect parse.source parse.fileName report.violations).1 report.violations
      = .ok report.suggestions
      ∧ report.autoFixable = engine.advisor.autoFixable report.suggestions := by
  obtain ⟨tree, found, advice, htree, hname, -, hadvice, rfl⟩ := exists_stages_of_analyze h
  rw [Advisor.advise_eq _ htree hname] at hadvice
  obtain ⟨rated, hrated, rfl⟩ := Except.map_eq_ok_iff.mp hadvice
  rw [Except.mapError_eq_ok_iff] at hrated
  exact ⟨hrated, rfl⟩

/-- With the providers of the catalogue, every suggestion of a report is the rating of one that was
collected for a violation of its rule. -/
theorem suggestions_eq_map_rated {settings : Settings} {rules : Option RuleRegistry}
    {report : Report} (h : (create settings rules none).analyze (some parse) = .ok report) :
    report.suggestions
      = ((create settings rules none).advisor.collect parse.source parse.fileName
            report.violations).1.map fun suggestion =>
          (Scorer.withConfidence settings.ruleConfidence).rated suggestion.ruleId suggestion :=
  Scorer.eq_map_rated_of_rateAll _
    (Advisor.ruleId_mem_of_mem_collect (ownsAdvice_create settings rules))
    (rateAll_of_analyze h).1

/-- In a report every suggestion is for a rule that was violated, its score, tier and reasoning go
together, and to rate the suggestions once more changes nothing. -/
theorem analyze_rated (settings : Settings) (parse : ParseResult) (report : Report)
    (h : (create settings none none).analyze (some parse) = .ok report) :
    (∀ suggestion ∈ report.suggestions,
      suggestion.ruleId ∈ report.violations.map (·.ruleId) ∧ suggestion.IsRated)
      ∧ (Scorer.withConfidence settings.ruleConfidence).rateAll report.suggestions
          report.violations = .ok report.suggestions := by
  refine ⟨fun suggestion hsuggestion => ?_, Scorer.rateAll_of_rateAll _ (rateAll_of_analyze h).1⟩
  rw [suggestions_eq_map_rated h] at hsuggestion
  obtain ⟨unrated, hunrated, rfl⟩ := List.mem_map.mp hsuggestion
  exact ⟨Advisor.ruleId_mem_of_mem_collect (ownsAdvice_create settings none) unrated hunrated,
    Scorer.isRated_rated _ _ _⟩

/-- An annotation `any`, and a rule that is said to be more than reliable: both suggestions have the
highest score. -/
theorem analyze_rated_any_type :
    let settings : Settings := { ruleConfidence := [("ts-no-any", 200)] }
    let parse : ParseResult :=
      { tree := some default, source := "let x: any", fileName := "x.ts"
        language := some .typescript, errors := [] }
    ∃ report, (create settings none none).analyze (some parse) = .ok report
      ∧ report.suggestions.map (fun suggestion => (suggestion.score, suggestion.tier))
          = [(100, .high), (100, .high)]
      ∧ (∀ suggestion ∈ report.suggestions, suggestion.IsRated) := by
  intro settings parse
  have hrun : ((create settings none none).analyze (some parse)).toOption.map (fun report =>
        report.suggestions.map fun suggestion => (suggestion.score, suggestion.tier))
      = some [(100, .high), (100, .high)] := by
    decide +kernel
  obtain ⟨report, hreport, hscores⟩ := Option.map_eq_some_iff.mp hrun
  rw [Except.toOption_eq_some_iff] at hreport
  obtain ⟨hrated, -⟩ := analyze_rated settings parse report hreport
  exact ⟨report, hreport, hscores, fun suggestion hsuggestion =>
    (hrated suggestion hsuggestion).2⟩

/-! ## Scores that have too many digits -/

/-- With the providers of the catalogue, an analysis fails exactly if a suggestion that was
collected has no score. -/
theorem analyze_create_isOk_iff {settings : Settings} {tree : Tree}
    (htree : parse.tree = some tree) (hname : parse.fileName ≠ "") {found : RuleReport}
    (hfound : (create settings none none).rules.execute (create settings none none).limits
      (some parse) parse.fileName = .ok found) :
    let scorer := Scorer.withConfidence settings.ruleConfidence
    let unrated :=
      ((create settings none none).advisor.collect parse.source parse.fileName found.violations).1
    ((∃ report, (create settings none none).analyze (some parse) = .ok report)
        ↔ ∀ suggestion ∈ unrated, (scorer.factors suggestion suggestion.ruleId).IsScorable)
      ∧ ((create settings none none).analyze (some parse) = .error (.advice (.score .tooManyDigits))
        ↔ ∃ suggestion ∈ unrated,
            ¬ (scorer.factors suggestion suggestion.ruleId).IsScorable) := by
  intro scorer unrated
  have hlacks : unrated.any (scorer.lacksScore found.violations) = true
      ↔ ∃ suggestion ∈ unrated,
          ¬ (scorer.factors suggestion suggestion.ruleId).IsScorable := by
    rw [List.any_eq_true]
    refine exists_congr fun suggestion => and_congr_right fun hsuggestion => ?_
    rw [scorer.lacksScore_of_mem (Advisor.ruleId_mem_of_mem_collect
      (ownsAdvice_create settings none) suggestion hsuggestion), Bool.not_eq_true',
      decide_eq_false_iff_not]
  have hanalysis := analyze_eq_ite htree hname hfound
  by_cases hsome : ∃ suggestion ∈ unrated,
      ¬ (scorer.factors suggestion suggestion.ruleId).IsScorable
  · -- the error of one suggestion is that of the analysis
    have hfails : (create settings none none).analyze (some parse)
        = .error (.advice (.score .tooManyDigits)) :=
      hanalysis.trans (if_pos (hlacks.mpr hsome))
    rw [hfails]
    refine ⟨iff_of_false ?_ fun hall => ?_, iff_of_true rfl hsome⟩
    · rintro ⟨report, hok⟩
      exact absurd hok (by simp)
    · obtain ⟨suggestion, hsuggestion, hnot⟩ := hsome
      exact hnot (hall suggestion hsuggestion)
  · have hreport : ∃ report, (create settings none none).analyze (some parse) = .ok report :=
      ⟨_, hanalysis.trans (if_neg fun h => hsome (hlacks.mp h))⟩
    refine ⟨iff_of_true hreport fun suggestion hsuggestion => ?_, iff_of_false ?_ hsome⟩
    · by_contra hnot
      exact hsome ⟨suggestion, hsuggestion, hnot⟩
    · obtain ⟨report, hok⟩ := hreport
      rw [hok]
      exact fun herror => absurd herror (by simp)

/-- A suggestion is rated, with a score from 0 to 100, exactly if the sum for its score has no more
digits than decimals keep. It has no more if the reliability of the rule is less than `10 ^ 28` by
100, and more if the reliability exceeds `10 ^ 28` by 100, in either direction. One suggestion
without a score, among those collected for a file, makes the analysis of the file fail. -/
theorem analyze_isOk_iff_isScorable (settings : Settings) :
    let engine := create settings none none
    let scorer := Scorer.withConfidence settings.ruleConfidence
    (∀ (suggestion : Suggestion) (violation : Violation),
      let factors := scorer.factors suggestion violation.ruleId
      let confidence := scorer.confidenceOf violation.ruleId
      ((∃ rated, scorer.rate suggestion violation = .ok rated
          ∧ 0 ≤ rated.score ∧ rated.score ≤ 100) ↔ factors.IsScorable)
        ∧ (scorer.rate suggestion violation = .error .tooManyDigits ↔ ¬ factors.IsScorable)
        ∧ (confidence.natAbs + 100 ≤ 10 ^ 28 → factors.IsScorable)
        ∧ (10 ^ 28 + 100 ≤ confidence.natAbs → ¬ factors.IsScorable))
      ∧ ∀ (parse : ParseResult) (tree : Tree), parse.tree = some tree → parse.fileName ≠ "" →
        ∃ found, engine.rules.execute engine.limits (some parse) parse.fileName = .ok found
          ∧ let unrated :=
              (engine.advisor.collect parse.source parse.fileName found.violations).1
            ((∃ report, engine.analyze (some parse) = .ok report)
                ↔ ∀ suggestion ∈ unrated, (scorer.factors suggestion suggestion.ruleId).IsScorable)
              ∧ (engine.analyze (some parse) = .error (.advice (.score .tooManyDigits))
                ↔ ∃ suggestion ∈ unrated,
                    ¬ (scorer.factors suggestion suggestion.ruleId).IsScorable) := by
  intro engine scorer
  refine ⟨fun suggestion violation => ?_, fun parse tree htree hname => ?_⟩
  · have hwhole := scorer.isWhole_factors suggestion violation.ruleId
    exact ⟨scorer.exists_rate_eq_ok_iff, scorer.rate_eq_error_iff, hwhole.isScorable_of_le,
      hwhole.not_isScorable_of_le⟩
  · have hfound := execute_eq_foundBy settings (wellFormed_create settings none) htree hname
    exact ⟨_, hfound, analyze_create_isOk_iff htree hname hfound⟩

/-- A reliability of `10 ^ 30`: the analysis of a file with an annotation `any` fails, because the
suggestions to mend it have no score. -/
theorem analyze_isOk_iff_isScorable_any_type :
    let settings : Settings := { ruleConfidence := [("ts-no-any", 10 ^ 30)] }
    let violation : Violation := { (default : Violation) with ruleId := "ts-no-any" }
    let parse : ParseResult :=
      { tree := some default, source := "let x: any", fileName := "x.ts"
        language := some .typescript, errors := [] }
    (Scorer.withConfidence settings.ruleConfidence).confidenceOf "ts-no-any" = 10 ^ 30
      ∧ (Scorer.withConfidence settings.ruleConfidence).rate default violation
          = .error .tooManyDigits
      ∧ (create settings none none).analyze (some parse)
          = .error (.advice (.score .tooManyDigits)) := by
  intro settings violation parse
  obtain ⟨hrate, hanalysis⟩ := analyze_isOk_iff_isScorable settings
  have hconfidence :
      (Scorer.withConfidence settings.ruleConfidence).confidenceOf "ts-no-any" = 10 ^ 30 := by
    decide +kernel
  have hnone : ∀ suggestion : Suggestion,
      ¬ ((Scorer.withConfidence settings.ruleConfidence).factors suggestion
        "ts-no-any").IsScorable := by
    intro suggestion
    refine (hrate suggestion violation).2.2.2 ?_
    rw [hconfidence]
    decide
  refine ⟨hconfidence, (hrate default violation).2.1.mpr (hnone default), ?_⟩
  obtain ⟨found, hfound, -, hfails⟩ := hanalysis parse default rfl (by decide)
  have hrun : ((create settings none none).rules.execute (create settings none none).limits
        (some parse) parse.fileName).toOption.map (fun found =>
          ((create settings none none).advisor.collect parse.source parse.fileName
            found.violations).1.any fun suggestion => suggestion.ruleId == "ts-no-any")
      = some true := by
    decide +kernel
  rw [hfound] at hrun
  obtain ⟨suggestion, hsuggestion, hrule⟩ := List.any_eq_true.mp (Option.some.inj hrun)
  exact hfails.mpr ⟨suggestion, hsuggestion, beq_iff_eq.mp hrule ▸ hnone suggestion⟩

end Engine

end ScriptAdvisor
