import ScriptAdvisor.Analysis.Engine
import ScriptAdvisor.Proofs.Rule.Delay
import ScriptAdvisor.Proofs.Suggestion.Separation

/-! # Rules do not influence each other

Disabling rules of the catalogue takes what belongs to these rules out of the report on a file, and
leaves the rest of the report as it was. That also holds if some rules take too long, as long as
they are the same ones in both analyses.

* `Settings.disabling` disables rules, `Report.without` takes out what belongs to them.
* `Engine.delayed` is an engine with rules that take too long.
* `Engine.analyze_disabling` is the result. The parts are `RuleRegistry.AlsoDisabled.execute_eq` for
  the rules and `Advisor.advise_filter` for the suggestions. -/

namespace ScriptAdvisor

/-- The settings with rules disabled beside those that already are. -/
def Settings.disabling (settings : Settings) (ids : List String) : Settings :=
  { settings with rules := { settings.rules with disabled := settings.rules.disabled ++ ids } }

/-- The report without what belongs to the rules in `ids`. -/
def Report.without (report : Report) (ids : List String) : Report :=
  { parse := report.parse
    violations := report.violations.filter fun violation => !ids.contains violation.ruleId
    issues := report.issues.filter fun issue => !ids.contains issue.ruleId
    suggestions := report.suggestions.filter fun suggestion => !ids.contains suggestion.ruleId
    autoFixable := report.autoFixable.filter fun suggestion => !ids.contains suggestion.ruleId
    ruleErrors := report.ruleErrors.filter fun run => !ids.contains run.ruleId
    providerErrors := report.providerErrors.filter fun error => !ids.contains error.ruleId }

/-- The issues that are left are counted anew. -/
theorem Report.count_without (report : Report) (ids : List String) (severity : Severity) :
    (report.without ids).count severity
      = report.issues.countP fun issue =>
          issue.severity == severity && !ids.contains issue.ruleId :=
  List.countP_filter

/-! ## The registries of the catalogue -/

namespace RuleRegistry

theorem run_append (registry : RuleRegistry) (first second : List RuleOperation) :
    registry.run (first ++ second) = (registry.run first).run second :=
  List.foldl_append

theorem ofRules_eq_run (rules : List Rule) : ofRules rules = run {} (rules.map .register) := by
  rw [run, List.foldl_map]
  rfl

/-- Only the rules that are registered are found. -/
theorem mem_of_mem_list_ofRules {rules : List Rule} {rule : Rule}
    (h : rule ∈ (ofRules rules).list) : rule ∈ rules := by
  -- a rule of the fold comes from the registry it starts with or from the list
  have hfold : ∀ (rules : List Rule) (registry : RuleRegistry),
      rule ∈ (rules.foldl register registry).list → rule ∈ registry.list ∨ rule ∈ rules := by
    intro rules
    induction rules with
    | nil => exact fun registry h => Or.inl h
    | cons first rules ih =>
        intro registry h
        rcases ih (registry.register first) h with h | h
        · obtain ⟨entry, hentry, rfl⟩ := List.mem_map.mp h
          rcases Entries.mem_put hentry with rfl | hold
          · exact Or.inr List.mem_cons_self
          · exact Or.inl (List.mem_map_of_mem hold)
        · exact Or.inr (List.mem_cons_of_mem _ h)
  rcases hfold rules {} h with h | h
  · exact absurd h List.not_mem_nil
  · exact h

end RuleRegistry

theorem ProviderRegistry.providers_ofProviders (providers : List Provider) :
    (ProviderRegistry.ofProviders providers).providers = providers := by
  have hfold : ∀ (providers : List Provider) (registry : ProviderRegistry),
      (providers.foldl register registry).providers = registry.providers ++ providers := by
    intro providers
    induction providers with
    | nil => exact fun registry => (List.append_nil _).symm
    | cons provider providers ih =>
        intro registry
        rw [List.foldl_cons, ih, register, List.append_assoc]
        rfl
  exact hfold providers {}

/-! ## Settings -/

/-- The changes that settings make beside disabling rules. -/
def RuleSettings.adjustments (settings : RuleSettings) : List RuleOperation :=
  settings.severities.map (fun (id, severity) => .setSeverity id (some severity))
    ++ settings.options.map (fun (id, options) => .setOptions id options)

theorem RuleSettings.operations_eq (settings : RuleSettings) :
    settings.operations = settings.disabled.map .disable ++ settings.adjustments :=
  List.append_assoc _ _ _

theorem RuleSettings.keepsRun_of_mem_adjustments (settings : RuleSettings) :
    ∀ operation ∈ settings.adjustments, operation.keepsRun = true := by
  intro operation hoperation
  rcases List.mem_append.mp hoperation with h | h
  · obtain ⟨entry, _, rfl⟩ := List.mem_map.mp h
    rfl
  · obtain ⟨entry, _, rfl⟩ := List.mem_map.mp h
    rfl

/-- Settings neither add nor remove rules. -/
theorem RuleSettings.rules_run_operations (settings : RuleSettings) (registry : RuleRegistry) :
    (registry.run settings.operations).rules = registry.rules := by
  rw [settings.operations_eq, RuleRegistry.run_append,
    RuleRegistry.rules_run_of_keepsRun _ settings.keepsRun_of_mem_adjustments,
    (registry.alsoDisabled_run_disable settings.disabled).rules_eq]

/-- Settings that disable more rules have these not run, and change nothing else. -/
theorem Settings.alsoDisabled_disabling (settings : Settings) (ids : List String)
    (registry : RuleRegistry) :
    RuleRegistry.AlsoDisabled ids (registry.run settings.rules.operations)
      (registry.run (settings.disabling ids).rules.operations) := by
  have hmore : (settings.disabling ids).rules.operations
      = settings.rules.disabled.map .disable
        ++ (ids.map .disable ++ settings.rules.adjustments) := by
    rw [RuleSettings.operations_eq, disabling, List.map_append, List.append_assoc]
    rfl
  rw [hmore, settings.rules.operations_eq, RuleRegistry.run_append, RuleRegistry.run_append,
    RuleRegistry.run_append _ (ids.map .disable)]
  exact (RuleRegistry.alsoDisabled_run_disable _ ids).run settings.rules.keepsRun_of_mem_adjustments

/-! ## The analysis -/

/-- The engine, with the rules in `late` made late. -/
def Engine.delayed (late : List String) (engine : Engine) : Engine :=
  { engine with rules := engine.rules.delayed late }

@[simp] theorem Engine.delayed_nil (engine : Engine) : engine.delayed [] = engine := by
  rw [delayed, RuleRegistry.delayed_nil]

/-- Every analysis with the rules of the catalogue keeps to the invariant of registries. -/
theorem Engine.wellFormed_create (settings : Settings) (providers : Option ProviderRegistry) :
    (Engine.create settings none providers).rules.WellFormed := by
  have hcatalogue : Catalogue.ruleRegistry.WellFormed := by
    rw [Catalogue.ruleRegistry, RuleRegistry.ofRules_eq_run]
    exact RuleRegistry.wellFormed_run _
  exact hcatalogue.run _

/-- The rules of an engine are those of the catalogue, whatever the settings. -/
theorem Engine.mem_catalogue_of_mem_list_create (settings : Settings)
    (providers : Option ProviderRegistry) :
    ∀ rule ∈ (Engine.create settings none providers).rules.list, rule ∈ Catalogue.rules := by
  intro rule hrule
  have hrules : (Engine.create settings none providers).rules.rules
      = Catalogue.ruleRegistry.rules :=
    settings.rules.rules_run_operations Catalogue.ruleRegistry
  rw [RuleRegistry.list, hrules] at hrule
  exact RuleRegistry.mem_of_mem_list_ofRules hrule

/-- The rules of the catalogue own their findings, whatever the settings. -/
theorem Engine.ownsFindings_create (settings : Settings) (providers : Option ProviderRegistry) :
    ∀ rule ∈ (Engine.create settings none providers).rules.list, rule.OwnsFindings :=
  fun rule hrule =>
    Catalogue.ownsFindings rule (mem_catalogue_of_mem_list_create settings providers rule hrule)

/-- That some of them are late does not change that. -/
theorem Engine.ownsFindings_delayed (settings : Settings) (late : List String)
    (providers : Option ProviderRegistry) :
    ∀ rule ∈ ((Engine.create settings none providers).delayed late).rules.list,
      rule.OwnsFindings := by
  intro rule hrule
  rw [delayed, RuleRegistry.list_delayed] at hrule
  obtain ⟨original, horiginal, rfl⟩ := List.mem_map.mp hrule
  exact (ownsFindings_create settings providers original horiginal).delayed late

/-- The providers of the catalogue own their advice, whatever the settings. -/
theorem Engine.ownsAdvice_create (settings : Settings) (rules : Option RuleRegistry) :
    ∀ provider ∈ (Engine.create settings rules none).advisor.providers.providers,
      provider.OwnsAdvice := by
  intro provider hprovider
  refine Catalogue.ownsAdvice provider ?_
  rw [← ProviderRegistry.providers_ofProviders Catalogue.providers]
  exact hprovider

/-- What a report consists of when the rules and the providers come to an end. -/
theorem Engine.analyze_eq {engine : Engine} {parse : ParseResult} {found : RuleReport}
    {advice : AdviceReport}
    (hfound : engine.rules.execute engine.limits (some parse) parse.fileName = .ok found)
    (hadvice : engine.advisor.advise (some parse) found.violations parse.fileName = .ok advice) :
    engine.analyze (some parse)
      = .ok
        { parse, violations := found.violations, issues := found.issues
          suggestions := advice.suggestions
          autoFixable := engine.advisor.autoFixable advice.suggestions
          ruleErrors := found.failures, providerErrors := advice.errors } := by
  simp only [analyze, hfound, Except.mapError_ok, bind, Except.bind, hadvice]
  rfl

/-- A report comes from the two stages of the analysis of a file with a tree and a name. -/
theorem Engine.exists_stages_of_analyze {engine : Engine} {parse : ParseResult} {report : Report}
    (h : engine.analyze (some parse) = .ok report) :
    ∃ tree found advice, parse.tree = some tree ∧ parse.fileName ≠ ""
      ∧ engine.rules.execute engine.limits (some parse) parse.fileName = .ok found
      ∧ engine.advisor.advise (some parse) found.violations parse.fileName = .ok advice
      ∧ report =
        { parse, violations := found.violations, issues := found.issues
          suggestions := advice.suggestions
          autoFixable := engine.advisor.autoFixable advice.suggestions
          ruleErrors := found.failures, providerErrors := advice.errors } := by
  obtain ⟨found, hfound, h⟩ := Except.bind_eq_ok_iff.mp h
  obtain ⟨advice, hadvice, h⟩ := Except.bind_eq_ok_iff.mp h
  rw [Except.mapError_eq_ok_iff] at hfound hadvice
  obtain ⟨result, tree, hresult, htree, hname⟩ := RuleRegistry.exists_tree_of_execute hfound
  obtain rfl := Option.some.inj hresult
  exact ⟨tree, found, advice, htree, hname, hfound, hadvice, (Except.ok.inj h).symm⟩

/-- Disabling rules of the catalogue takes out of a report what belongs to them, whichever of the
rules are late, and the counts are those of the issues that are left. -/
theorem Engine.analyze_disabling (settings : Settings) (ids late : List String)
    (parse : ParseResult) (report : Report)
    (h : ((create settings none none).delayed late).analyze (some parse) = .ok report) :
    ((create (settings.disabling ids) none none).delayed late).analyze (some parse)
        = .ok (report.without ids)
      ∧ ∀ severity, (report.without ids).count severity
          = report.issues.countP fun issue =>
              issue.severity == severity && !ids.contains issue.ruleId := by
  refine ⟨?_, report.count_without ids⟩
  obtain ⟨_, found, advice, -, -, hfound, hadvice, rfl⟩ := exists_stages_of_analyze h
  have hwell := (wellFormed_create settings none).delayed late
  have hwell' := (wellFormed_create (settings.disabling ids) none).delayed late
  have howned := hwell.owned_of_execute (ownsFindings_delayed settings late none) hfound
  have hfound' := ((settings.alsoDisabled_disabling ids Catalogue.ruleRegistry).delayed
    late).execute_eq hwell hwell' hfound
  have hadvice' := (create settings none none).advisor.advise_filter (fun id => !ids.contains id)
    (ownsAdvice_create settings none) hadvice
  rw [← RuleReport.violations_without ids howned] at hadvice'
  -- the advisor and the limits do not depend on which rules are disabled
  have hreport : ((create (settings.disabling ids) none none).delayed late).analyze (some parse)
      = _ := analyze_eq hfound' hadvice'
  have hfixes := ((create (settings.disabling ids) none none).delayed late).advisor
    |>.autoFixable_filter (fun id => !ids.contains id) advice.suggestions
  rw [hreport, Report.without, RuleReport.violations_without ids howned,
    RuleReport.issues_without ids howned, RuleReport.failures_without]
  simp only [hfixes]
  rfl

/-- A file with one annotation `any`, an option that makes another rule fail, and a rule that takes
too long. -/
theorem Engine.analyze_disabling_any_type :
    let settings : Settings :=
      { rules := { options := [("ts-large-loops", [("max_nesting", .null)])] } }
    let parse : ParseResult :=
      { tree := some default, source := "let x: any", fileName := "x.ts"
        language := some .typescript, errors := [] }
    let late := ["ts-unused-imports"]
    ∃ report, ((create settings none none).delayed late).analyze (some parse) = .ok report
      ∧ (report.issues.map (·.ruleId), report.ruleErrors.map (·.ruleId))
          = (["ts-no-any"], ["ts-unused-imports", "ts-large-loops"])
      ∧ ((create (settings.disabling ["ts-no-any"]) none none).delayed late).analyze (some parse)
          = .ok (report.without ["ts-no-any"]) := by
  intro settings parse late
  have hrun : (((create settings none none).delayed late).analyze (some parse)).toOption.map
        (fun report => (report.issues.map (·.ruleId), report.ruleErrors.map (·.ruleId)))
      = some (["ts-no-any"], ["ts-unused-imports", "ts-large-loops"]) := by
    decide +kernel
  obtain ⟨report, hreport, hids⟩ := Option.map_eq_some_iff.mp hrun
  rw [Except.toOption_eq_some_iff] at hreport
  exact ⟨report, hreport, hids, (analyze_disabling settings _ late parse report hreport).1⟩

end ScriptAdvisor
