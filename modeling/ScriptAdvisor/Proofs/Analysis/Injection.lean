import ScriptAdvisor.Proofs.Analysis.Disabling
import ScriptAdvisor.Proofs.Suggestion.Dispatch

/-! # Registries that are handed in

An engine is handed the rules to run and the providers to consult. It keeps to them unless there are
none: then it takes those of the catalogue instead.

* `Settings.analysisBy` is the analysis in which exactly the given rules are run and exactly the
  given providers are consulted. `Engine.analyze_eq_analysisBy` says that an analysis is one by the
  rules and the providers that the engine holds.
* `Engine.analyze_create_given` says when these are the ones that were handed in. -/

namespace ScriptAdvisor

/-! ## Analyses by given rules and providers -/

/-- The rules that a registry has run for a language, each with its configuration. -/
def RuleRegistry.configuredFor (registry : RuleRegistry) (language : Language) :
    List (Rule × RuleConfig) :=
  (registry.enabledFor language).map fun rule => (rule, registry.configOf rule)

namespace Settings

/-- What exactly the given rules, each with its configuration, find in a file. -/
def foundBy (settings : Settings) (rules : List (Rule × RuleConfig)) (parse : ParseResult)
    (tree : Tree) : RuleReport :=
  let limits : RunLimits := { (default : RunLimits) with time := settings.rules.timeLimit }
  let context : CheckContext := { tree, source := parse.source, fileName := parse.fileName }
  { fileName := parse.fileName, language := parse.languageOf parse.fileName
    runs := rules.map fun (rule, config) =>
      rule.record config (limits.judge (rule.outcomeWith config context)) }

/-- The report on what was found in a file when exactly the given providers are consulted. -/
def advisedBy (settings : Settings) (providers : List Provider) (parse : ParseResult)
    (found : RuleReport) : Except AnalysisError Report :=
  let request := fun violation : Violation =>
    ({ violation, source := parse.source, fileName := parse.fileName } : AdviceRequest)
  let unrated := found.violations.flatMap fun violation =>
    Slice.upTo (offered providers (request violation)) settings.suggestions.limit
  let rated := (Scorer.withConfidence settings.ruleConfidence).rateAll unrated found.violations
  (rated.mapError fun error => .advice (.score error)).map fun suggestions =>
    { parse, violations := found.violations, issues := found.issues, suggestions
      autoFixable := suggestions.filter fun suggestion =>
        settings.suggestions.autoFix && suggestion.score ≥ settings.suggestions.autoFixThreshold
      ruleErrors := found.failures
      providerErrors := found.violations.flatMap fun violation =>
        failures providers (request violation) }

/-- The analysis of a file in which exactly the given rules are run and exactly the given providers
are consulted. A file without a name is not analysed. -/
def analysisBy (settings : Settings) (rules : List (Rule × RuleConfig))
    (providers : List Provider) (parse : ParseResult) (tree : Tree) :
    Except AnalysisError Report :=
  if parse.fileName = "" then .error (.rules .noFileName)
  else settings.advisedBy providers parse (settings.foundBy rules parse tree)

end Settings

/-! ## The two stages -/

/-- A file without a name is refused. -/
theorem RuleRegistry.execute_of_fileName_eq_empty (registry : RuleRegistry) (limits : RunLimits)
    {result : ParseResult} {tree : Tree} (htree : result.tree = some tree) {fileName : String}
    (hname : fileName = "") :
    registry.execute limits (some result) fileName = .error .noFileName := by
  rw [execute, RuleEngine.execute, ParseResult.context?_eq htree, if_pos hname]
  rfl

namespace Engine

variable {settings : Settings} {rules : Option RuleRegistry} {providers : Option ProviderRegistry}
  {registry : RuleRegistry} {parse : ParseResult} {tree : Tree}

/-- Within the time limit of settings, a registry has those of its enabled rules run whose language
matches. -/
theorem execute_eq_foundBy (settings : Settings) (hwell : registry.WellFormed)
    (htree : parse.tree = some tree) (hname : parse.fileName ≠ "") :
    registry.execute { (default : RunLimits) with time := settings.rules.timeLimit } (some parse)
        parse.fileName
      = .ok (settings.foundBy (registry.configuredFor (parse.languageOf parse.fileName)) parse
          tree) := by
  rw [hwell.execute_eq _ htree hname, Settings.foundBy, RuleRegistry.configuredFor, List.map_map]
  rfl

/-- The engine consults the providers of its registry about what was found, whichever rules found
it. -/
theorem analyze_eq_advisedBy (htree : parse.tree = some tree) (hname : parse.fileName ≠ "")
    {found : RuleReport}
    (hfound : registry.execute (create settings rules providers).limits (some parse) parse.fileName
      = .ok found) :
    analyze { create settings rules providers with rules := registry } (some parse)
      = settings.advisedBy (create settings rules providers).advisor.providers.providers parse
          found := by
  have hadvice := (create settings rules providers).advisor.advise_eq htree hname found.violations
  rw [Advisor.collect_eq] at hadvice
  rw [analyze, hfound]
  simp only [Except.mapError_ok, bind, Except.bind]
  rw [hadvice]
  exact Except.bind_mapError_map _ _ _ _ _

/-- With any rules in place of those of the engine, an analysis is one by the enabled rules whose
language matches and by the providers of the engine. -/
theorem analyze_eq_analysisBy (hwell : registry.WellFormed) (htree : parse.tree = some tree) :
    analyze { create settings rules providers with rules := registry } (some parse)
      = settings.analysisBy (registry.configuredFor (parse.languageOf parse.fileName))
          (create settings rules providers).advisor.providers.providers parse tree := by
  by_cases hname : parse.fileName = ""
  · rw [Settings.analysisBy, if_pos hname, analyze,
      RuleRegistry.execute_of_fileName_eq_empty _ _ htree hname]
    rfl
  · rw [Settings.analysisBy, if_neg hname]
    exact analyze_eq_advisedBy htree hname (execute_eq_foundBy settings hwell htree hname)

/-! ## What was handed in -/

/-- Settings add no rules, so that without rules there is nothing to run. -/
theorem configuredFor_run_operations_of_size_eq_zero (settings : Settings)
    {registry : RuleRegistry} (h : registry.size = 0) (language : Language) :
    (registry.run settings.rules.operations).configuredFor language = [] := by
  have hrules : (registry.run settings.rules.operations).rules = [] := by
    rw [settings.rules.rules_run_operations]
    exact List.length_eq_zero_iff.mp h
  rw [RuleRegistry.configuredFor, RuleRegistry.enabledFor, RuleRegistry.list, hrules]
  rfl

theorem rules_create_of_size_eq_zero (settings : Settings) {registry : RuleRegistry}
    (h : registry.size = 0) (providers : Option ProviderRegistry) :
    (create settings (some registry) providers).rules
      = Catalogue.ruleRegistry.run settings.rules.operations := by
  rw [create, chosenRules, if_pos h]

theorem rules_create_of_size_ne_zero (settings : Settings) {registry : RuleRegistry}
    (h : registry.size ≠ 0) (providers : Option ProviderRegistry) :
    (create settings (some registry) providers).rules
      = registry.run settings.rules.operations := by
  rw [create, chosenRules, if_neg h]

/-- Whatever rules are handed in, the engine keeps to the invariant of registries. -/
theorem wellFormed_create_given (settings : Settings) (operations : List RuleOperation)
    (providers : Option ProviderRegistry) :
    (create settings (some (RuleRegistry.run {} operations)) providers).rules.WellFormed := by
  by_cases hsize : (RuleRegistry.run {} operations).size = 0
  · rw [rules_create_of_size_eq_zero settings hsize]
    exact wellFormed_create settings providers
  · rw [rules_create_of_size_ne_zero settings hsize]
    exact (RuleRegistry.wellFormed_run operations).run _

theorem providers_create_of_size_eq_zero (settings : Settings) (rules : Option RuleRegistry)
    {registry : ProviderRegistry} (h : registry.size = 0) :
    (create settings rules (some registry)).advisor.providers.providers = Catalogue.providers := by
  rw [create, Settings.advisor, chosenProviders, if_pos h, Catalogue.providerRegistry,
    ProviderRegistry.providers_ofProviders]

/-- An engine consults the providers it is handed, unless there are none. -/
theorem providers_create_eq_iff (settings : Settings) (rules : Option RuleRegistry)
    (registry : ProviderRegistry) :
    (create settings rules (some registry)).advisor.providers.providers = registry.providers
      ↔ registry.size ≠ 0 := by
  by_cases hsize : registry.size = 0
  · rw [providers_create_of_size_eq_zero settings rules hsize, List.length_eq_zero_iff.mp hsize]
    exact iff_of_false (List.cons_ne_nil _ _) (not_not_intro hsize)
  · rw [create, Settings.advisor, chosenProviders, if_neg hsize]
    exact iff_of_true rfl hsize

end Engine

/-- An analysis by an engine that was handed rules and providers is one by the rules the engine has
run and by the providers it consults. These rules are the enabled ones, among those handed in, whose
language matches, unless no rules were handed in: then the rules of the catalogue are run in their
place. The providers are those handed in, unless there were none: then those of the catalogue are
consulted. -/
theorem Engine.analyze_create_given (settings : Settings) (operations : List RuleOperation)
    (providers : ProviderRegistry) (parse : ParseResult) (tree : Tree)
    (htree : parse.tree = some tree) :
    let given := RuleRegistry.run {} operations
    let engine := create settings (some given) (some providers)
    let configured := fun registry : RuleRegistry =>
      (registry.run settings.rules.operations).configuredFor (parse.languageOf parse.fileName)
    let ran := engine.rules.configuredFor (parse.languageOf parse.fileName)
    let consulted := engine.advisor.providers.providers
    engine.analyze (some parse) = settings.analysisBy ran consulted parse tree
      ∧ (ran = configured given ↔ given.size ≠ 0 ∨ configured Catalogue.ruleRegistry = [])
      ∧ (given.size = 0 → ran = configured Catalogue.ruleRegistry)
      ∧ (consulted = providers.providers ↔ providers.size ≠ 0)
      ∧ (providers.size = 0 → consulted = Catalogue.providers) := by
  intro given engine configured ran consulted
  have hwell := wellFormed_create_given settings operations (some providers)
  have hcatalogue : given.size = 0 → ran = configured Catalogue.ruleRegistry := by
    intro hsize
    show (create settings (some given) (some providers)).rules.configuredFor _ = _
    rw [rules_create_of_size_eq_zero settings hsize]
  refine ⟨analyze_eq_analysisBy hwell htree, ?_, hcatalogue,
    providers_create_eq_iff settings _ providers, providers_create_of_size_eq_zero settings _⟩
  by_cases hsize : given.size = 0
  · have hnone : configured given = [] :=
      configuredFor_run_operations_of_size_eq_zero settings hsize _
    rw [hcatalogue hsize, hnone]
    exact (or_iff_right (not_not_intro hsize)).symm
  · have hgiven : ran = configured given := by
      show (create settings (some given) (some providers)).rules.configuredFor _ = _
      rw [rules_create_of_size_ne_zero settings hsize]
    exact iff_of_true hgiven (Or.inl hsize)

/-- Rules of which the only one was removed, and no providers: an annotation `any` is found all the
same, and there are two suggestions to mend it. -/
theorem Engine.analyze_create_given_emptied :
    let operations : List RuleOperation :=
      [.register ⟨{ (default : RuleInfo) with id := "stub" }, fun _ => .nothing⟩,
        .unregister "stub"]
    let parse : ParseResult :=
      { tree := some default, source := "let x: any", fileName := "x.ts"
        language := some .typescript, errors := [] }
    let given := RuleRegistry.run {} operations
    let engine := create {} (some given) (some {})
    engine.rules.configuredFor .typescript ≠ given.configuredFor .typescript
      ∧ engine.advisor.providers.providers ≠ []
      ∧ (engine.analyze (some parse)).toOption.map (fun report =>
          (report.issues.map (·.ruleId), report.suggestions.map (·.ruleId)))
        = some (["ts-no-any"], ["ts-no-any", "ts-no-any"]) := by
  intro operations parse given engine
  obtain ⟨hanalysis, hran, -, hconsulted, -⟩ :=
    analyze_create_given {} operations {} parse default rfl
  refine ⟨fun hsame => ?_, fun hsame => hconsulted.mp hsame rfl, ?_⟩
  · rcases hran.mp hsame with hsize | hnone
    · exact hsize rfl
    · exact absurd (congrArg List.length hnone) (by decide +kernel)
  · rw [hanalysis]
    decide +kernel

end ScriptAdvisor
