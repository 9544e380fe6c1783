import ScriptAdvisor.Proofs.Analysis.Rating

/-! # What may be applied without asking

With the reliabilities of the catalogue and a threshold of 80, the suggestions that may be applied
without asking are those of four rules, and the interface in place of an annotation `any`. All of
them keep to one line.

* `Suggestion.isMechanical` picks these suggestions out.
* `Suggestion.allowance` is what a suggestion scores before something is taken off for its edits,
  and `Suggestion.le_score_rated_iff` says when it reaches the threshold. At least two are taken
  off, so 80 is not enough; edits on one line cost at most four, so 85 are.
* `Catalogue.grades_of_mem` goes through the providers, and `Engine.autoFixable_analyze` is the
  result. -/

namespace ScriptAdvisor

/-! ## Mechanical suggestions -/

/-- The rules whose suggestions may all be applied without asking. -/
def Catalogue.mechanicalRuleIds : List String :=
  ["glide-deprecated-ajax", "glide-log-for-errors", "glide-hardcoded-values", "ts-unused-imports"]

namespace Suggestion

/-- Whether the suggestion is for one of these rules, or puts an interface in place of `any`. -/
def isMechanical (suggestion : Suggestion) : Bool :=
  Catalogue.mechanicalRuleIds.contains suggestion.ruleId
    || (suggestion.ruleId == "ts-no-any" && suggestion.id == .fresh "ts-no-any-interface")

/-- A rating leaves a suggestion as mechanical as it was. -/
theorem isMechanical_rated (scorer : Scorer) (ruleId : String) (suggestion : Suggestion) :
    (scorer.rated ruleId suggestion).isMechanical = suggestion.isMechanical := by
  rw [isMechanical, isMechanical, Scorer.rated_ruleId, Scorer.rated_id]

/-- Every edit of the suggestion starts and ends on the line. -/
def KeepsToLine (suggestion : Suggestion) (line : Int) : Prop :=
  ∀ edit ∈ suggestion.edits, edit.startLine = line ∧ edit.endLine = line

end Suggestion

/-! ## Scores by the reliabilities of the catalogue -/

namespace Catalogue

/-- The scorer with the reliabilities of the catalogue. -/
def scorer : Scorer := .withConfidence []

/-- The reliabilities of the catalogue are far from those at which scores have too many digits. -/
theorem natAbs_confidenceOf_le (ruleId : String) :
    (scorer.confidenceOf ruleId).natAbs + 100 ≤ 10 ^ 28 := by
  have htable : ∀ entry ∈ scorer.ruleConfidence, entry.2.natAbs + 100 ≤ 10 ^ 28 := by decide
  rw [Scorer.confidenceOf]
  cases hfound : Entries.get? scorer.ruleConfidence ruleId with
  | none => decide
  | some confidence => exact htable _ (Entries.mem_of_get?_eq_some hfound)

end Catalogue

/-- A score reaches a mark if the sum does not fall short of it by more than half. -/
theorem Factors.le_clamp_roundTenths_iff {mark tenths : Int} (hpos : 0 < mark) (hle : mark ≤ 100) :
    mark ≤ clamp (roundTenths tenths) ↔ 10 * mark - 5 ≤ tenths := by
  simp only [clamp, roundTenths, Decimal.signedLike, Decimal.divHalfUp]
  split_ifs <;> omega

/-- A replacement on one line costs little. -/
theorem Edit.complexity_le_of_isSingleLine {edit : Edit} (hkind : edit.kind = .replace)
    (hline : edit.startLine = edit.endLine) : edit.complexity ≤ 20 := by
  rw [complexity, hkind, isSingleLine, hline]
  simp

namespace Suggestion

variable {suggestion : Suggestion} {edit : Edit}

/-- What the suggestion scores before something is taken off for its edits. -/
def allowance (suggestion : Suggestion) : Int :=
  let factors := Catalogue.scorer.factors suggestion suggestion.ruleId
  factors.ruleConfidence + factors.bonuses.sum

theorem editComplexity_eq (h : suggestion.edits = [edit]) :
    suggestion.editComplexity = edit.complexity := by
  rw [editComplexity, h, List.foldl_cons, List.foldl_nil, Nat.zero_add]
  have hcost := edit.complexity_cases
  exact min_eq_left (by omega)

/-- No suggestion lacks a score. -/
theorem isScorable (suggestion : Suggestion) :
    (Catalogue.scorer.factors suggestion suggestion.ruleId).IsScorable :=
  (Catalogue.scorer.isWhole_factors suggestion suggestion.ruleId).isScorable_of_le
    (Catalogue.natAbs_confidenceOf_le suggestion.ruleId)

/-- When a suggestion reaches the threshold. -/
theorem le_score_rated_iff (suggestion : Suggestion) :
    80 ≤ (Catalogue.scorer.rated suggestion.ruleId suggestion).score
      ↔ 795 ≤ 10 * suggestion.allowance - 2 * suggestion.editComplexity := by
  have htenths : (Catalogue.scorer.factors suggestion suggestion.ruleId).tenths
      = 10 * suggestion.allowance - 2 * suggestion.editComplexity :=
    (Catalogue.scorer.isWhole_factors suggestion suggestion.ruleId).tenths_eq
      (Catalogue.natAbs_confidenceOf_le suggestion.ruleId)
  rw [← htenths]
  -- 795 tenths are a tie, which goes to the even 80
  exact Factors.le_clamp_roundTenths_iff (by decide) (by decide)

/-- Rated, the suggestion reaches the threshold exactly if it is mechanical, and then it keeps to
the line. -/
structure IsGraded (suggestion : Suggestion) (line : Int) : Prop where
  /-- The score tells whether the suggestion is mechanical. -/
  le_score_iff :
    80 ≤ (Catalogue.scorer.rated suggestion.ruleId suggestion).score
      ↔ suggestion.isMechanical = true
  /-- A mechanical suggestion keeps to the line. -/
  keepsToLine : suggestion.isMechanical = true → suggestion.KeepsToLine line

/-- An edit takes at least two off. -/
theorem isGraded_of_le (allowance : Int) {line : Int}
    (hallowance : suggestion.allowance = allowance) (hle : allowance ≤ 80)
    (hkind : suggestion.isMechanical = false) (hedits : suggestion.edits = [edit]) :
    suggestion.IsGraded line := by
  have hcost := edit.complexity_cases
  refine ⟨?_, fun hmechanical => absurd hmechanical (by simp [hkind])⟩
  rw [le_score_rated_iff, hallowance, editComplexity_eq hedits, hkind]
  exact iff_of_false (by omega) (by decide)

/-- An edit that costs little takes at most four off. -/
theorem isGraded_of_ge (allowance : Int) {line : Int}
    (hallowance : suggestion.allowance = allowance) (hge : 85 ≤ allowance)
    (hkind : suggestion.isMechanical = true) (hedits : suggestion.edits = [edit])
    (hcost : edit.complexity ≤ 20)
    (hline : edit.startLine = line ∧ edit.endLine = line) : suggestion.IsGraded line := by
  refine ⟨?_, fun _ => ?_⟩
  · rw [le_score_rated_iff, hallowance, editComplexity_eq hedits, hkind]
    exact iff_of_true (by omega) rfl
  · rw [KeepsToLine, hedits, List.forall_mem_singleton]
    exact hline

end Suggestion

/-! ## The providers of the catalogue -/

namespace Catalogue

/-- Whatever a provider suggests is graded. -/
def Grades (provider : Provider) : Prop :=
  ∀ request, ∀ suggestion ∈ (provider.advise request).suggestions,
    suggestion.IsGraded request.violation.line

theorem grades_of_given {name ruleId : String} {advise : AdviceRequest → List Suggestion}
    (h : ∀ request, ∀ suggestion ∈ advise request, suggestion.IsGraded request.violation.line) :
    Grades (.forRule name ruleId fun request => .given (advise request)) :=
  h

end Catalogue

theorem NestedQuery.grades : Catalogue.Grades provider := by
  refine Catalogue.grades_of_given fun request => ?_
  simp only [advise, List.forall_mem_cons]
  refine ⟨?_, ?_, List.forall_mem_nil _⟩
  · exact Suggestion.isGraded_of_le 75 rfl (by decide) rfl rfl
  · exact Suggestion.isGraded_of_le 75 rfl (by decide) rfl rfl

theorem UnconditionedQuery.grades : Catalogue.Grades provider := by
  refine Catalogue.grades_of_given fun request => ?_
  rw [advise, List.forall_mem_singleton]
  exact Suggestion.isGraded_of_le 65 rfl (by decide) rfl rfl

theorem BlockingAjax.grades : Catalogue.Grades provider := by
  intro request suggestion hsuggestion
  simp only [provider, Provider.forRule] at hsuggestion
  split at hsuggestion
  · rename_i suggestions hgiven
    -- a place that is too large is the only fault
    simp only [advise] at hgiven
    split at hgiven
    · exact absurd hgiven (by simp)
    · rw [← Except.ok.inj hgiven] at hsuggestion
      rw [List.mem_singleton.mp hsuggestion]
      exact Suggestion.isGraded_of_ge 95 rfl (by decide) rfl rfl
        (Edit.complexity_le_of_isSingleLine rfl rfl) ⟨rfl, rfl⟩
  · exact absurd hsuggestion List.not_mem_nil

theorem LoggedError.grades : Catalogue.Grades provider := by
  refine Catalogue.grades_of_given fun request => ?_
  rw [advise, List.forall_mem_singleton]
  exact Suggestion.isGraded_of_ge 115 rfl (by decide) rfl rfl
    (Edit.complexity_le_of_isSingleLine rfl rfl) ⟨rfl, rfl⟩

theorem HardcodedValue.grades : Catalogue.Grades provider := by
  refine Catalogue.grades_of_given fun request => ?_
  rw [advise, List.forall_mem_singleton]
  exact Suggestion.isGraded_of_ge 85 rfl (by decide) rfl rfl
    (Edit.complexity_le_of_isSingleLine rfl rfl) ⟨rfl, rfl⟩

theorem AnyType.grades : Catalogue.Grades provider := by
  refine Catalogue.grades_of_given fun request => ?_
  simp only [advise, List.forall_mem_cons]
  refine ⟨?_, ?_, List.forall_mem_nil _⟩
  · exact Suggestion.isGraded_of_le 80 rfl (by decide) rfl rfl
  · exact Suggestion.isGraded_of_ge 90 rfl (by decide) rfl rfl
      (Edit.complexity_le_of_isSingleLine rfl rfl) ⟨rfl, rfl⟩

theorem MissingReturnType.grades : Catalogue.Grades provider := by
  refine Catalogue.grades_of_given fun request => ?_
  rw [advise, List.forall_mem_singleton]
  exact Suggestion.isGraded_of_le 80 rfl (by decide) rfl rfl

theorem UnusedImport.grades : Catalogue.Grades provider := by
  refine Catalogue.grades_of_given fun request => ?_
  rw [advise, List.forall_mem_singleton]
  exact Suggestion.isGraded_of_ge 110 rfl (by decide) rfl rfl le_rfl ⟨rfl, rfl⟩

theorem NestedLoop.grades : Catalogue.Grades provider := by
  refine Catalogue.grades_of_given fun request => ?_
  rw [advise, List.forall_mem_singleton]
  exact Suggestion.isGraded_of_le 80 rfl (by decide) rfl rfl

/-- Whatever is suggested, the reliabilities of the catalogue tell whether it is mechanical. -/
theorem Catalogue.grades_of_mem : ∀ provider ∈ providers, Grades provider := by
  simp only [providers, List.forall_mem_cons]
  exact ⟨NestedQuery.grades, UnconditionedQuery.grades, BlockingAjax.grades, LoggedError.grades,
    HardcodedValue.grades, AnyType.grades, MissingReturnType.grades, UnusedImport.grades,
    NestedLoop.grades, List.forall_mem_nil _⟩

/-! ## The analysis -/

/-- The settings by which suggestions of a score of 80 may be applied without asking, with the
reliabilities of the catalogue. -/
def Settings.autoFixing (rules : RuleSettings) (limit : Int) : Settings :=
  { rules, suggestions := { limit, autoFix := true, autoFixThreshold := 80 } }

namespace Engine

variable {rules : RuleSettings} {limit : Int} {parse : ParseResult}

/-- What is collected for violations is graded. -/
theorem isGraded_of_mem_collect {source fileName : String} {violations : List Violation}
    {suggestion : Suggestion}
    (h : suggestion ∈ ((create (.autoFixing rules limit) none none).advisor.collect source fileName
      violations).1) :
    ∃ violation ∈ violations, suggestion.IsGraded violation.line := by
  obtain ⟨violation, hviolation, provider, hprovider, -, hadvised⟩ :=
    Advisor.exists_of_mem_collect h
  have hcatalogue : provider ∈ Catalogue.providers := by
    rw [← ProviderRegistry.providers_ofProviders Catalogue.providers]
    exact hprovider
  exact ⟨violation, hviolation, Catalogue.grades_of_mem provider hcatalogue _ suggestion hadvised⟩

/-- No score has too many digits. -/
theorem exists_analyze_autoFixing (rules : RuleSettings) (limit : Int) {tree : Tree}
    (htree : parse.tree = some tree) (hname : parse.fileName ≠ "") :
    ∃ report, (create (.autoFixing rules limit) none none).analyze (some parse) = .ok report := by
  have hfound := execute_eq_foundBy (.autoFixing rules limit)
    (wellFormed_create (.autoFixing rules limit) none) htree hname
  exact (analyze_create_isOk_iff htree hname hfound).1.mpr fun suggestion _ =>
    suggestion.isScorable

/-- Which suggestions of a report reach the threshold, and where their edits are. -/
theorem graded_of_mem_suggestions {report : Report}
    (h : (create (.autoFixing rules limit) none none).analyze (some parse) = .ok report) :
    ∀ suggestion ∈ report.suggestions,
      (80 ≤ suggestion.score ↔ suggestion.isMechanical = true)
        ∧ (suggestion.isMechanical = true →
          ∃ violation ∈ report.violations, suggestion.KeepsToLine violation.line) := by
  intro suggestion hsuggestion
  rw [suggestions_eq_map_rated h] at hsuggestion
  obtain ⟨unrated, hunrated, rfl⟩ := List.mem_map.mp hsuggestion
  obtain ⟨violation, hviolation, hgraded⟩ := isGraded_of_mem_collect hunrated
  rw [Suggestion.isMechanical_rated]
  refine ⟨hgraded.le_score_iff, fun hmechanical => ⟨violation, hviolation, ?_⟩⟩
  rw [Suggestion.KeepsToLine, Scorer.rated_edits]
  exact hgraded.keepsToLine hmechanical

/-- With the reliabilities of the catalogue and a threshold of 80, the suggestions of a report that
may be applied without asking are the mechanical ones, and each keeps to the line of a violation. -/
theorem autoFixable_analyze (rules : RuleSettings) (limit : Int) (parse : ParseResult)
    (tree : Tree) (htree : parse.tree = some tree) (hname : parse.fileName ≠ "") :
    ∃ report, (create (.autoFixing rules limit) none none).analyze (some parse) = .ok report
      ∧ report.autoFixable = report.suggestions.filter Suggestion.isMechanical
      ∧ ∀ suggestion ∈ report.autoFixable,
          ∃ violation ∈ report.violations, suggestion.KeepsToLine violation.line := by
  obtain ⟨report, hreport⟩ := exists_analyze_autoFixing rules limit htree hname
  have hgraded := graded_of_mem_suggestions hreport
  have hfixable : report.autoFixable = report.suggestions.filter Suggestion.isMechanical := by
    rw [(rateAll_of_analyze hreport).2, Advisor.autoFixable]
    refine List.filter_congr fun suggestion hsuggestion => ?_
    rw [Bool.eq_iff_iff, ← (hgraded suggestion hsuggestion).1]
    exact decide_eq_true_iff
  refine ⟨report, hreport, hfixable, fun suggestion hsuggestion => ?_⟩
  rw [hfixable] at hsuggestion
  obtain ⟨hreported, hmechanical⟩ := List.mem_filter.mp hsuggestion
  exact (hgraded suggestion hreported).2 hmechanical

/-- An annotation `any`: of the two suggestions to mend it, the interface may be applied without
asking. -/
theorem autoFixable_analyze_any_type :
    let parse : ParseResult :=
      { tree := some default, source := "let x: any", fileName := "x.ts"
        language := some .typescript, errors := [] }
    ∃ report, (create (.autoFixing {} 3) none none).analyze (some parse) = .ok report
      ∧ report.suggestions.map (fun suggestion => (suggestion.score, suggestion.id))
          = [(78, .fresh "ts-no-any-unknown"), (88, .fresh "ts-no-any-interface")]
      ∧ report.autoFixable.map (·.id) = [.fresh "ts-no-any-interface"]
      ∧ ∀ suggestion ∈ report.autoFixable,
          ∃ violation ∈ report.violations, suggestion.KeepsToLine violation.line := by
  intro parse
  obtain ⟨report, hreport, hfixable, hlines⟩ :=
    autoFixable_analyze {} 3 parse default rfl (by decide)
  have hrun : ((create (.autoFixing {} 3) none none).analyze (some parse)).toOption.map
        (fun report =>
          (report.suggestions.map (fun suggestion => (suggestion.score, suggestion.id)),
            (report.suggestions.filter Suggestion.isMechanical).map (·.id)))
      = some ([(78, .fresh "ts-no-any-unknown"), (88, .fresh "ts-no-any-interface")],
          [.fresh "ts-no-any-interface"]) := by
    decide +kernel
  rw [hreport] at hrun
  obtain ⟨hscores, hids⟩ := Prod.mk.inj (Option.some.inj hrun)
  exact ⟨report, hreport, hscores, by rw [hfixable]; exact hids, hlines⟩

end Engine

end ScriptAdvisor
