import ScriptAdvisor.Proofs.Analysis.Injection

/-! # Severities change severities only

The severity that settings give to the findings of a rule shows in the issues, and nowhere else in a
report. To say so, severities are blotted out: what is the same without them is the same up to
severity.

* `Report.unranked` blots out the severities of a report.
* `RuleRegistry.SameButSeverity` relates registries that are configured alike up to severity. To set
  severities brings it about, and all operations of settings keep it.
* `Provider.IgnoresSeverity` holds of the providers of the catalogue (`Catalogue.ignoresSeverity`),
  so the advice on violations is the advice on the unranked violations.
* `Engine.analyze_withSeverities` puts this together. -/

namespace ScriptAdvisor

/-! ## Without severities -/

/-- The configuration without its severity. -/
def RuleConfig.unranked (config : RuleConfig) : RuleConfig := { config with severity := none }

/-- The violation with its severity blotted out. -/
def Violation.unranked (violation : Violation) : Violation := { violation with severity := .low }

/-- The issue with its severity blotted out. -/
def Issue.unranked (issue : Issue) : Issue := { issue with severity := .low }

/-- The report with all severities blotted out. -/
def Report.unranked (report : Report) : Report :=
  { report with
    violations := report.violations.map Violation.unranked
    issues := report.issues.map Issue.unranked }

/-- The settings with other severities. -/
def Settings.withSeverities (settings : Settings) (severities : Entries Severity) : Settings :=
  { settings with rules := { settings.rules with severities } }

/-- What a list comes to, item by item, can be told from the unranked items if it can be told from
each of them. -/
theorem flatMap_unranked {α : Type _} (part : Violation → List α)
    (h : ∀ violation, part violation.unranked = part violation) (violations : List Violation) :
    (violations.map Violation.unranked).flatMap part = violations.flatMap part := by
  rw [List.flatMap_map]
  exact List.flatMap_congr fun violation _ => h violation

/-! ## Registries -/

namespace RuleRegistry

/-- The second registry has the rules of the first, configured alike up to severity. -/
structure SameButSeverity (registry other : RuleRegistry) : Prop where
  /-- The rules are the same. -/
  rules_eq : other.rules = registry.rules
  /-- The configurations are the same up to severity. -/
  config?_eq : ∀ id, (other.config? id).map RuleConfig.unranked
    = (registry.config? id).map RuleConfig.unranked

namespace SameButSeverity

variable {registry other third : RuleRegistry}

theorem symm (h : SameButSeverity registry other) : SameButSeverity other registry :=
  ⟨h.rules_eq.symm, fun id => (h.config?_eq id).symm⟩

theorem trans (h : SameButSeverity registry other) (h' : SameButSeverity other third) :
    SameButSeverity registry third :=
  ⟨h'.rules_eq.trans h.rules_eq, fun id => (h'.config?_eq id).trans (h.config?_eq id)⟩

/-- A change that does not look at the severity keeps the relation. -/
theorem configure (h : SameButSeverity registry other) (id : String)
    {change : RuleConfig → RuleConfig}
    (hchange : ∀ config, (change config).unranked = (change config.unranked).unranked) :
    SameButSeverity (registry.configure id change) (other.configure id change) := by
  refine ⟨?_, fun id' => ?_⟩
  · rw [rules_configure, rules_configure, h.rules_eq]
  · -- without its severity, a changed configuration is told from the one before without its own
    have hmap : ∀ config : Option RuleConfig,
        (config.map fun config => if id' = id then change config else config).map
            RuleConfig.unranked
          = (config.map RuleConfig.unranked).map fun config =>
              if id' = id then (change config).unranked else config := by
      intro config
      cases config with
      | none => rfl
      | some config =>
          by_cases hid : id' = id
          · simp only [Option.map_some, if_pos hid, hchange config]
          · simp only [Option.map_some, if_neg hid]
    rw [config?_configure, config?_configure, hmap, hmap, h.config?_eq]

/-- To set severities makes no other difference. -/
theorem run_setSeverity (registry : RuleRegistry) (severities : Entries Severity) :
    SameButSeverity registry
      (registry.run (severities.map fun (id, severity) => .setSeverity id (some severity))) := by
  induction severities generalizing registry with
  | nil => exact ⟨rfl, fun id => rfl⟩
  | cons entry severities ih =>
      have hstep : SameButSeverity registry (registry.setSeverity entry.1 (some entry.2)) := by
        refine ⟨rules_configure _ _ _, fun id => ?_⟩
        rw [setSeverity, config?_configure, Option.map_map]
        refine congrArg (Option.map · (registry.config? id)) (funext fun config => ?_)
        by_cases hid : id = entry.1
        · simp only [Function.comp_apply, if_pos hid, RuleConfig.unranked]
        · simp only [Function.comp_apply, if_neg hid]
      exact hstep.trans (ih _)

/-- Options can be set on both sides. -/
theorem run_setOptions (h : SameButSeverity registry other)
    (options : Entries (Entries Yaml.Value)) :
    SameButSeverity
      (registry.run (options.map fun (id, options) => .setOptions id options))
      (other.run (options.map fun (id, options) => .setOptions id options)) := by
  induction options generalizing registry other with
  | nil => exact h
  | cons entry options ih => exact ih (h.configure entry.1 fun config => rfl)

/-- The same rules can be late on both sides. -/
theorem delayed (h : SameButSeverity registry other) (late : List String) :
    SameButSeverity (registry.delayed late) (other.delayed late) := by
  refine ⟨?_, h.config?_eq⟩
  rw [RuleRegistry.delayed, RuleRegistry.delayed, h.rules_eq]

/-- The same rules are run, each configured alike up to severity. -/
theorem configuredFor_eq (h : SameButSeverity registry other) (language : Language) :
    (other.configuredFor language).map (Prod.map id RuleConfig.unranked)
      = (registry.configuredFor language).map (Prod.map id RuleConfig.unranked) := by
  -- whether a rule is run is part of its configuration without the severity
  have henabled : ∀ (registry : RuleRegistry) (id : String), registry.isEnabled id
      = (((registry.config? id).map RuleConfig.unranked).map (·.enabled)).getD false := by
    intro registry id
    rw [isEnabled, Option.map_map]
    rfl
  have hconfig : ∀ (registry : RuleRegistry) (rule : Rule), (registry.configOf rule).unranked
      = ((registry.config? rule.info.id).map RuleConfig.unranked).getD {} := by
    intro registry rule
    rw [configOf]
    cases registry.config? rule.info.id <;> rfl
  have hrules : other.enabledFor language = registry.enabledFor language := by
    rw [enabledFor, enabledFor, list, list, h.rules_eq]
    refine List.filter_congr fun rule _ => ?_
    rw [henabled other, henabled registry, h.config?_eq]
  rw [configuredFor, configuredFor, List.map_map, List.map_map, hrules]
  refine List.map_congr_left fun rule _ => ?_
  simp only [Function.comp_apply, Prod.map, hconfig, h.config?_eq]

end SameButSeverity

end RuleRegistry

/-- Settings that differ in severities configure rules alike up to severity. -/
theorem Settings.sameButSeverity (settings : Settings) (severities severities' : Entries Severity)
    (registry : RuleRegistry) :
    RuleRegistry.SameButSeverity
      (registry.run (settings.withSeverities severities).rules.operations)
      (registry.run (settings.withSeverities severities').rules.operations) := by
  have hoperations : ∀ severities, (settings.withSeverities severities).rules.operations
      = settings.rules.disabled.map .disable
        ++ (severities.map (fun (id, severity) => .setSeverity id (some severity))
          ++ settings.rules.options.map fun (id, options) => .setOptions id options) :=
    fun severities => List.append_assoc _ _ _
  rw [hoperations, hoperations, RuleRegistry.run_append, RuleRegistry.run_append,
    RuleRegistry.run_append, RuleRegistry.run_append]
  exact ((RuleRegistry.SameButSeverity.run_setSeverity _ severities).symm.trans
    (RuleRegistry.SameButSeverity.run_setSeverity _ severities')).run_setOptions _

/-! ## What is found -/

namespace Rule

variable (rule : Rule) (config : RuleConfig) (outcome : CheckOutcome)

/-- The severity of a configuration shows in the severities of the findings only. -/
theorem record_unranked_violations :
    (rule.record config.unranked outcome).violations.map Violation.unranked
      = (rule.record config outcome).violations.map Violation.unranked := by
  cases outcome with
  | found violations =>
      simp only [record, List.map_map]
      exact List.map_congr_left fun violation _ => rfl
  | nothing => rfl
  | failed fault => rfl
  | overrun => rfl

theorem record_unranked_error :
    (rule.record config.unranked outcome).error = (rule.record config outcome).error := by
  cases outcome <;> rfl

/-- The record of a failure has no findings, so that the severity does not show in it at all. -/
theorem record_unranked_of_isFailed (h : (rule.record config outcome).isFailed = true) :
    rule.record config.unranked outcome = rule.record config outcome := by
  cases outcome with
  | found violations => exact absurd h Bool.false_ne_true
  | nothing => rfl
  | failed fault => rfl
  | overrun => rfl

end Rule

namespace Settings

variable (settings : Settings) (rules : List (Rule × RuleConfig)) (parse : ParseResult)
  (tree : Tree)

/-- Rules without severities find the same up to severity. -/
theorem foundBy_unranked_violations :
    (settings.foundBy (rules.map (Prod.map id RuleConfig.unranked)) parse tree).violations.map
        Violation.unranked
      = (settings.foundBy rules parse tree).violations.map Violation.unranked := by
  rw [RuleReport.violations, RuleReport.violations, foundBy, foundBy, List.map_map,
    List.flatMap_map, List.flatMap_map, List.map_flatMap, List.map_flatMap]
  exact List.flatMap_congr fun pair _ => pair.1.record_unranked_violations pair.2 _

/-- Rules without severities fail in the same way. -/
theorem foundBy_unranked_failures :
    (settings.foundBy (rules.map (Prod.map id RuleConfig.unranked)) parse tree).failures
      = (settings.foundBy rules parse tree).failures := by
  induction rules with
  | nil => rfl
  | cons pair rules ih =>
      obtain ⟨rule, config⟩ := pair
      simp only [RuleReport.failures, foundBy, List.map_cons] at ih ⊢
      -- the options are what the outcome depends on, and they are the same
      set outcome := RunLimits.judge _ (rule.outcomeWith config _) with houtcome
      show List.filter _ (rule.record config.unranked outcome :: _) = _
      have hfailed : (rule.record config.unranked outcome).isFailed
          = (rule.record config outcome).isFailed :=
        congrArg Option.isSome (rule.record_unranked_error config outcome)
      rw [List.filter_cons, List.filter_cons, ih, hfailed]
      split
      · rename_i h
        rw [rule.record_unranked_of_isFailed config outcome h]
      · rfl

end Settings

/-! ## Advice -/

/-- The provider does not look at the severity of a violation. -/
structure Provider.IgnoresSeverity (provider : Provider) : Prop where
  /-- Whether it takes on a violation. -/
  accepts : ∀ violation : Violation,
    provider.accepts violation.unranked = provider.accepts violation
  /-- What it suggests. -/
  advise : ∀ request : AdviceRequest,
    provider.advise { request with violation := request.violation.unranked }
      = provider.advise request

/-- A provider for one rule tells violations by their rule. -/
theorem Provider.ignoresSeverity_forRule {name ruleId : String}
    {advise : AdviceRequest → AdviceOutcome}
    (h : ∀ request : AdviceRequest,
      advise { request with violation := request.violation.unranked } = advise request) :
    (Provider.forRule name ruleId advise).IgnoresSeverity :=
  ⟨fun _ => rfl, h⟩

/-- The providers of the catalogue look at the place of a violation only. -/
theorem Catalogue.ignoresSeverity :
    ∀ provider ∈ Catalogue.providers, provider.IgnoresSeverity := by
  simp only [Catalogue.providers, List.forall_mem_cons]
  refine ⟨?_, ?_, ?_, ?_, ?_, ?_, ?_, ?_, ?_, List.forall_mem_nil _⟩
  all_goals exact Provider.ignoresSeverity_forRule fun request => rfl

section Advice

variable {providers : List Provider} (hignores : ∀ provider ∈ providers, provider.IgnoresSeverity)
include hignores

theorem offered_unranked (request : AdviceRequest) :
    offered providers { request with violation := request.violation.unranked }
      = offered providers request := by
  have hhelps : ∀ provider ∈ providers,
      provider.helpsWith { request with violation := request.violation.unranked }
        = provider.helpsWith request := by
    intro provider hprovider
    rw [Provider.helpsWith, Provider.helpsWith, (hignores provider hprovider).advise,
      (hignores provider hprovider).accepts]
  rw [offered, offered, List.filter_congr hhelps]
  refine List.flatMap_congr fun provider hprovider => ?_
  rw [(hignores provider (List.mem_filter.mp hprovider).1).advise]

theorem failures_unranked (request : AdviceRequest) :
    failures providers { request with violation := request.violation.unranked }
      = failures providers request := by
  have hfails : ∀ provider ∈ providers,
      provider.failsOn { request with violation := request.violation.unranked }
        = provider.failsOn request := by
    intro provider hprovider
    rw [Provider.failsOn, Provider.failsOn, (hignores provider hprovider).advise,
      (hignores provider hprovider).accepts]
  rw [failures, failures, List.filter_congr hfails]
  refine List.map_congr_left fun provider hprovider => ?_
  rw [Provider.errorOn, Provider.errorOn,
    (hignores provider (List.mem_filter.mp hprovider).1).advise]
  rfl

end Advice

/-- A suggestion is rated by the rule of a violation. -/
theorem Scorer.rateAll_unranked (scorer : Scorer) (suggestions : List Suggestion)
    (violations : List Violation) :
    scorer.rateAll suggestions (violations.map Violation.unranked)
      = scorer.rateAll suggestions violations := by
  have hrate : scorer.rateAmong (violations.map Violation.unranked)
      = scorer.rateAmong violations := by
    funext suggestion
    -- the severity does not tell which violation is of the rule
    have htest : (fun violation : Violation => violation.ruleId == suggestion.ruleId)
          ∘ Violation.unranked
        = fun violation => violation.ruleId == suggestion.ruleId := rfl
    rw [rateAmong, rateAmong, List.find?_map, htest]
    cases violations.find? fun violation => violation.ruleId == suggestion.ruleId <;> rfl
  rw [rateAll, rateAll, hrate]

/-- The issues of a report without their severities are those of the unranked violations. -/
theorem RuleReport.issues_unranked (report : RuleReport) :
    report.issues.map Issue.unranked
      = (report.violations.map Violation.unranked).map (·.toIssue report.fileName) := by
  rw [issues, List.map_map, List.map_map]
  rfl

/-- Up to severity, the report on what was found can be told from the unranked violations and the
failures. -/
theorem Settings.advisedBy_unranked (settings : Settings) {providers : List Provider}
    (hignores : ∀ provider ∈ providers, provider.IgnoresSeverity) (parse : ParseResult)
    {found found' : RuleReport} (hname : found'.fileName = found.fileName)
    (hviolations : found'.violations.map Violation.unranked
      = found.violations.map Violation.unranked)
    (hfailures : found'.failures = found.failures) :
    (settings.advisedBy providers parse found').map Report.unranked
      = (settings.advisedBy providers parse found).map Report.unranked := by
  set request := fun violation : Violation =>
    ({ violation, source := parse.source, fileName := parse.fileName } : AdviceRequest)
  set kept := fun violation : Violation =>
    Slice.upTo (offered providers (request violation)) settings.suggestions.limit
  have hoffered : ∀ violation : Violation, kept violation.unranked = kept violation :=
    fun violation => congrArg (Slice.upTo · _) (offered_unranked hignores (request violation))
  have hfails : ∀ violation : Violation,
      failures providers (request violation.unranked) = failures providers (request violation) :=
    fun violation => failures_unranked hignores (request violation)
  -- either report is put in terms of the unranked violations
  have hunranked : ∀ found : RuleReport,
      (settings.advisedBy providers parse found).map Report.unranked
        = (((Scorer.withConfidence settings.ruleConfidence).rateAll
            ((found.violations.map Violation.unranked).flatMap kept)
            (found.violations.map Violation.unranked)).mapError fun error =>
              AnalysisError.advice (.score error)).map fun suggestions =>
          { parse, violations := found.violations.map Violation.unranked
            issues := (found.violations.map Violation.unranked).map (·.toIssue found.fileName)
            suggestions
            autoFixable := suggestions.filter fun suggestion =>
              settings.suggestions.autoFix
                && suggestion.score ≥ settings.suggestions.autoFixThreshold
            ruleErrors := found.failures
            providerErrors := (found.violations.map Violation.unranked).flatMap fun violation =>
              failures providers (request violation) } := by
    intro found
    rw [flatMap_unranked kept hoffered, Scorer.rateAll_unranked, ← RuleReport.issues_unranked,
      flatMap_unranked (fun violation => failures providers (request violation)) hfails, advisedBy]
    cases (Scorer.withConfidence settings.ruleConfidence).rateAll _ found.violations <;> rfl
  rw [hunranked, hunranked, hviolations, hfailures, hname]

/-! ## The analysis -/

/-- A file without a tree is refused. -/
theorem Engine.analyze_of_tree_eq_none (engine : Engine) {parse : ParseResult}
    (htree : parse.tree = none) : engine.analyze (some parse) = .error (.rules .noTree) := by
  simp only [analyze, RuleRegistry.execute, RuleEngine.execute, ParseResult.context?, htree]
  rfl

/-- The severities that settings give to findings show in the severities of violations and issues,
and nowhere else: whichever rules are late, an analysis comes to the same report up to severity, or
fails in the same way. -/
theorem Engine.analyze_withSeverities (settings : Settings)
    (severities severities' : Entries Severity) (late : List String) (parse : ParseResult) :
    (((create (settings.withSeverities severities') none none).delayed late).analyze
        (some parse)).map Report.unranked
      = (((create (settings.withSeverities severities) none none).delayed late).analyze
          (some parse)).map Report.unranked := by
  cases htree : parse.tree with
  | none => rw [analyze_of_tree_eq_none _ htree, analyze_of_tree_eq_none _ htree]
  | some tree =>
      have hproviders : ∀ provider ∈
          (create (settings.withSeverities severities) none none).advisor.providers.providers,
          provider.IgnoresSeverity := by
        intro provider hprovider
        refine Catalogue.ignoresSeverity provider ?_
        rw [← ProviderRegistry.providers_ofProviders Catalogue.providers]
        exact hprovider
      have hrules := ((settings.sameButSeverity severities severities'
        Catalogue.ruleRegistry).delayed late).configuredFor_eq (parse.languageOf parse.fileName)
      have hanalysis : ∀ severities,
          ((create (settings.withSeverities severities) none none).delayed late).analyze
            (some parse) = _ :=
        fun severities => analyze_eq_analysisBy ((wellFormed_create _ none).delayed late) htree
      rw [hanalysis, hanalysis]
      by_cases hname : parse.fileName = ""
      · rw [Settings.analysisBy, Settings.analysisBy, if_pos hname, if_pos hname]
      · rw [Settings.analysisBy, Settings.analysisBy, if_neg hname, if_neg hname]
        -- apart from the configured rules, nothing depends on the severities of the settings
        refine settings.advisedBy_unranked hproviders parse rfl ?_ ?_
        · refine (settings.foundBy_unranked_violations _ parse tree).symm.trans ?_
          refine Eq.trans ?_ (settings.foundBy_unranked_violations _ parse tree)
          exact congrArg (fun rules =>
            (settings.foundBy rules parse tree).violations.map Violation.unranked) hrules
        · refine (settings.foundBy_unranked_failures _ parse tree).symm.trans ?_
          refine Eq.trans ?_ (settings.foundBy_unranked_failures _ parse tree)
          exact congrArg (fun rules => (settings.foundBy rules parse tree).failures) hrules

end ScriptAdvisor
