import Mathlib.Tactic.Set
import ScriptAdvisor.Proofs.Rule.Registry

/-! # Rules do not disturb each other

However the checks of the rules end, a run over a file comes to its end and records every rule by
itself. That holds for each of any number of runs of one engine, because an overrun check takes its
worker out of the way: no later check waits for a worker.

* `RuleEngine.Ready` says that no check waits for a worker. It holds at the start, and `heldAfter`
  keeps it (`Ready.heldAfter`), so that the runs of one engine are all like the first
  (`executeAll_eq_map`).
* `RuleRegistry.WellFormed.execute_eq` is the report of a run, rule by rule.
* `executeAll_isolates_failures` puts this together. It also says when an error is recorded for a
  rule that neither fails nor overruns: the time limit has more seconds than can be measured. -/

namespace ScriptAdvisor

/-! ## Failures -/

namespace RunLimits

/-- Whether a check fails or is not done when its time is up. A time that is not positive is up at
once. -/
def stops (limits : RunLimits) : CheckOutcome → Bool
  | .found _ | .nothing => limits.time ≤ 0
  | .failed _ | .overrun => true

theorem judge_of_isTooLong {limits : RunLimits} (hlong : isTooLong limits.time = true)
    (outcome : CheckOutcome) : limits.judge outcome = .failed .timeTooLong := by
  rw [judge, if_pos hlong]

/-- Limits do not make up findings. -/
theorem eq_found_of_judge {limits : RunLimits} {outcome : CheckOutcome}
    {violations : List Violation} (h : limits.judge outcome = .found violations) :
    outcome = .found violations := by
  rw [judge] at h
  split at h
  · exact absurd h (by simp)
  · split at h
    · exact absurd h (by simp)
    · exact h

end RunLimits

namespace Rule

variable (rule : Rule) (config : RuleConfig)

@[simp] theorem record_ruleId (outcome : CheckOutcome) :
    (rule.record config outcome).ruleId = rule.info.id := by
  cases outcome <;> rfl

/-- A rule that is recorded with an error has no violations. -/
theorem record_violations_of_error {outcome : CheckOutcome}
    (h : (rule.record config outcome).error.isSome) :
    (rule.record config outcome).violations = [] := by
  cases outcome with
  | found violations => exact absurd h Bool.false_ne_true
  | nothing => rfl
  | failed fault => rfl
  | overrun => rfl

/-- Within a time that can be measured, an error is recorded exactly for what fails or overruns. -/
theorem record_judge_error_isSome {limits : RunLimits}
    (hlong : RunLimits.isTooLong limits.time = false) (outcome : CheckOutcome) :
    (rule.record config (limits.judge outcome)).error.isSome = limits.stops outcome := by
  rw [RunLimits.judge, if_neg (by rw [hlong]; exact Bool.false_ne_true)]
  by_cases htime : limits.time ≤ 0
  · rw [if_pos htime]
    cases outcome <;> simp [RunLimits.stops, record, htime]
  · rw [if_neg htime]
    cases outcome <;> simp [RunLimits.stops, record, htime]

/-- What stops leaves no violations. -/
theorem record_judge_violations_of_stops {limits : RunLimits} {outcome : CheckOutcome}
    (hstops : limits.stops outcome = true) :
    (rule.record config (limits.judge outcome)).violations = [] := by
  apply record_violations_of_error
  cases hlong : RunLimits.isTooLong limits.time with
  | true => rw [RunLimits.judge_of_isTooLong hlong]; rfl
  | false => rw [record_judge_error_isSome rule config hlong, hstops]

end Rule

/-! ## Workers -/

namespace RuleEngine

/-- No check waits for a worker: all are idle, or the time cannot be measured and nothing is waited
for. -/
def Ready (limits : RunLimits) (held : Nat) : Prop :=
  held = 0 ∨ RunLimits.isTooLong limits.time = true

/-- When no check waits for a worker, the limits alone decide what a check comes to. -/
theorem Ready.race_eq {limits : RunLimits} {held : Nat} (h : Ready limits held)
    (outcome : CheckOutcome) : limits.race held outcome = limits.judge outcome := by
  rcases h with rfl | hlong
  · rw [RunLimits.race, if_pos limits.workers_pos]
  · rw [RunLimits.race, RunLimits.judge_of_isTooLong hlong, RunLimits.judge_of_isTooLong hlong]

/-- After a check the next one does not wait for a worker either. -/
theorem Ready.heldAfter {limits : RunLimits} {held : Nat} (h : Ready limits held)
    (outcome : CheckOutcome) : Ready limits (limits.heldAfter held outcome) := by
  rcases h with rfl | hlong
  · cases hlong : RunLimits.isTooLong limits.time with
    | true => exact Or.inr hlong
    | false =>
        left
        rw [RunLimits.heldAfter, if_neg (by rw [hlong]; exact Bool.false_ne_true)]
        exact ite_self _
  · exact Or.inr hlong

/-- The rules of a run come to what the limits make of their own outcomes. -/
theorem runRules_eq {limits : RunLimits} {held : Nat} (h : Ready limits held)
    (context : CheckContext) (pairs : List (Rule × RuleConfig)) :
    (runRules limits context held pairs).1
        = pairs.map (fun pair =>
            pair.1.record pair.2 (limits.judge (pair.1.outcomeWith pair.2 context)))
      ∧ Ready limits (runRules limits context held pairs).2 := by
  -- the invariant is handed from rule to rule with the number of workers that are held
  induction pairs generalizing held with
  | nil => exact ⟨rfl, h⟩
  | cons pair pairs ih =>
      obtain ⟨rule, config⟩ := pair
      have hrest := ih (h.heldAfter (rule.outcomeWith config context))
      rw [runRules, List.map_cons, ← hrest.1, h.race_eq]
      exact ⟨rfl, hrest.2⟩

/-- The records of a run do not depend on how many workers were held, as long as no check waits. -/
theorem execute_eq {engine : RuleEngine} (h : Ready engine.limits engine.held)
    (parse : Option ParseResult) (fileName : String) :
    (∃ error, engine.execute parse fileName = .error error
        ∧ engine.registry.execute engine.limits parse fileName = .error error)
      ∨ ∃ report held, engine.execute parse fileName = .ok (report, { engine with held })
        ∧ Ready engine.limits held
        ∧ engine.registry.execute engine.limits parse fileName = .ok report := by
  rw [RuleRegistry.execute, execute, execute]
  cases hcontext : ParseResult.context? parse fileName with
  | error error => exact Or.inl ⟨error, rfl, rfl⟩
  | ok found =>
      obtain ⟨result, context⟩ := found
      have hidle : Ready engine.limits 0 := Or.inl rfl
      simp only [bind, Except.bind]
      cases hpairs : engine.registry.applicable? (result.languageOf fileName) with
      | none => exact Or.inl ⟨.noConfig, rfl, rfl⟩
      | some pairs =>
          have hruns := runRules_eq h context pairs
          have hruns' := runRules_eq hidle context pairs
          refine Or.inr ⟨_, _, rfl, hruns.2, ?_⟩
          simp only [pure, Except.pure, Except.map]
          rw [hruns.1, hruns'.1]

/-- The runs of one engine are all like runs by idle workers. -/
theorem executeAll_eq_map (engine : RuleEngine) (h : Ready engine.limits engine.held)
    (jobs : List (Option ParseResult × String)) :
    engine.executeAll jobs
      = jobs.map fun job => engine.registry.execute engine.limits job.1 job.2 := by
  induction jobs generalizing engine with
  | nil => rfl
  | cons job jobs ih =>
      obtain ⟨parse, fileName⟩ := job
      rw [executeAll, List.map_cons]
      rcases execute_eq h parse fileName with
        ⟨error, hrun, hidle⟩ | ⟨report, held, hrun, hheld, hidle⟩
      · rw [hrun, hidle, ← ih engine h]
      · have hrest : executeAll { engine with held } jobs
            = jobs.map fun job => engine.registry.execute engine.limits job.1 job.2 := ih _ hheld
        rw [hrun, hidle, ← hrest]

end RuleEngine

/-! ## The report of a run -/

namespace RuleRegistry

/-- How the check of a registered rule ends, with its options. -/
def outcomeOf (registry : RuleRegistry) (context : CheckContext) (rule : Rule) : CheckOutcome :=
  rule.outcomeWith (registry.configOf rule) context

/-- The record of a registered rule. -/
def runOf (registry : RuleRegistry) (limits : RunLimits) (context : CheckContext) (rule : Rule) :
    RuleRun :=
  rule.record (registry.configOf rule) (limits.judge (registry.outcomeOf context rule))

/-- A run over a file with a tree and a name comes to its end, with one record for each enabled rule
whose language matches. -/
theorem WellFormed.execute_eq {registry : RuleRegistry} (h : registry.WellFormed)
    (limits : RunLimits) {result : ParseResult} {tree : Tree} (htree : result.tree = some tree)
    {fileName : String} (hname : fileName ≠ "") :
    registry.execute limits (some result) fileName
      = .ok
        { fileName, language := result.languageOf fileName
          runs := (registry.enabledFor (result.languageOf fileName)).map
            (registry.runOf limits { tree, source := result.source, fileName }) } := by
  have hempty : fileName.isEmpty = false := by simpa using hname
  have hcontext : ParseResult.context? (some result) fileName
      = .ok (result, { tree, source := result.source, fileName }) := by
    simp only [ParseResult.context?, htree]
    rw [if_neg (by rw [hempty]; exact Bool.false_ne_true)]
  have hidle : RuleEngine.Ready limits 0 := Or.inl rfl
  rw [execute, RuleEngine.execute, hcontext]
  simp only [bind, Except.bind, h.applicable?_eq]
  rw [(RuleEngine.runRules_eq hidle _ _).1, List.map_map]
  rfl

/-- Rules that stop add no violations. -/
theorem flatMap_violations_filter_stops (registry : RuleRegistry) (limits : RunLimits)
    (context : CheckContext) (rules : List Rule) :
    (rules.filter fun rule => !limits.stops (registry.outcomeOf context rule)).flatMap
        (fun rule => (registry.runOf limits context rule).violations)
      = rules.flatMap fun rule => (registry.runOf limits context rule).violations := by
  induction rules with
  | nil => rfl
  | cons rule rules ih =>
      cases hstops : limits.stops (registry.outcomeOf context rule) with
      | true =>
          have hnone : (registry.runOf limits context rule).violations = [] :=
            rule.record_judge_violations_of_stops _ hstops
          rw [List.filter_cons_of_neg (by simp [hstops]), List.flatMap_cons, hnone, ih,
            List.nil_append]
      | false =>
          rw [List.filter_cons_of_pos (by simp [hstops]), List.flatMap_cons, List.flatMap_cons, ih]

/-- The identifiers of the rules that are run for a language and stop. -/
def failingIds (registry : RuleRegistry) (limits : RunLimits) (context : CheckContext)
    (language : Language) : List String :=
  ((registry.enabledFor language).filter fun rule =>
    limits.stops (registry.outcomeOf context rule)).map (·.info.id)

theorem WellFormed.mem_failingIds {registry : RuleRegistry} (h : registry.WellFormed)
    (limits : RunLimits) (context : CheckContext) {language : Language} {rule : Rule}
    (hrule : rule ∈ registry.enabledFor language) :
    rule.info.id ∈ registry.failingIds limits context language
      ↔ limits.stops (registry.outcomeOf context rule) = true :=
  h.id_mem_filter_iff hrule

/-- Without the rules that stop, a run finds the same violations. -/
theorem WellFormed.violations_run_unregister {registry : RuleRegistry} (h : registry.WellFormed)
    (limits : RunLimits) (context : CheckContext) (language : Language) :
    (((registry.run ((registry.failingIds limits context language).map .unregister)).enabledFor
        language).flatMap fun rule =>
          ((registry.run ((registry.failingIds limits context language).map .unregister)).runOf
            limits context rule).violations)
      = (registry.enabledFor language).flatMap fun rule =>
          (registry.runOf limits context rule).violations := by
  set ids := registry.failingIds limits context language with hids
  have hleft : (registry.enabledFor language).filter (fun rule => !ids.contains rule.info.id)
      = (registry.enabledFor language).filter
        fun rule => !limits.stops (registry.outcomeOf context rule) := by
    refine List.filter_congr fun rule hrule => congrArg _ ?_
    rw [Bool.eq_iff_iff, List.contains_iff_mem, hids, h.mem_failingIds limits context hrule]
  -- the rules that are left are run as before, and those that are gone had added nothing
  rw [h.enabledFor_run_unregister, ← flatMap_violations_filter_stops registry, ← hleft]
  refine List.flatMap_congr fun rule hrule => ?_
  have hkept : rule.info.id ∉ ids := by simpa using (List.mem_filter.mp hrule).2
  rw [runOf, runOf, outcomeOf, outcomeOf, configOf_run_unregister registry hkept]

/-- An error is recorded for exactly the rules that stop, unless the time is too long to be measured
and some rule does not stop. -/
theorem forall₂_error_iff_stops (registry : RuleRegistry) (limits : RunLimits)
    (context : CheckContext) (rules : List Rule) :
    List.Forall₂
        (fun rule run =>
          run.error.isSome = true ↔ limits.stops (registry.outcomeOf context rule) = true)
        rules (rules.map (registry.runOf limits context))
      ↔ (RunLimits.isTooLong limits.time = true →
          ∀ rule ∈ rules, limits.stops (registry.outcomeOf context rule) = true) := by
  rw [List.forall₂_map_right_iff, List.forall₂_same]
  cases hlong : RunLimits.isTooLong limits.time with
  | false =>
      refine ⟨fun _ h => absurd h Bool.false_ne_true, fun _ rule _ => ?_⟩
      rw [runOf, rule.record_judge_error_isSome _ hlong]
  | true =>
      -- every rule is recorded with an error
      have herror : ∀ rule, (registry.runOf limits context rule).error.isSome = true := by
        intro rule
        rw [runOf, RunLimits.judge_of_isTooLong hlong]
        rfl
      constructor
      · intro h _ rule hrule
        exact (h rule hrule).mp (herror rule)
      · intro h rule hrule
        exact iff_of_true (herror rule) (h rfl rule hrule)

end RuleRegistry

/-! ## All runs of an engine -/

/-- Each of any number of runs of one engine over a file with a tree and a name comes to its end. It
has one record for each enabled rule whose language matches, in the order of registration, and no
record with an error has violations. The violations are those of a run without the rules that fail
or overrun. An error is recorded for exactly these rules, unless the time limit has more seconds
than can be measured: then it is recorded for the others too. -/
theorem RuleEngine.executeAll_isolates_failures (operations : List RuleOperation)
    (limits : RunLimits) (jobs : List (Option ParseResult × String)) (place : Nat)
    (result : ParseResult) (tree : Tree) (fileName : String)
    (hjob : jobs[place]? = some (some result, fileName)) (htree : result.tree = some tree)
    (hname : fileName ≠ "") :
    let registry := RuleRegistry.run {} operations
    let rules := registry.enabledFor (result.languageOf fileName)
    let context : CheckContext := { tree, source := result.source, fileName }
    let stops := fun rule => limits.stops (registry.outcomeOf context rule) = true
    let failing := registry.failingIds limits context (result.languageOf fileName)
    ∃ report, (executeAll { registry, limits } jobs)[place]? = some (.ok report)
      ∧ report.runs.map (·.ruleId) = rules.map (·.info.id)
      ∧ (∀ run ∈ report.runs, run.error.isSome = true → run.violations = [])
      ∧ (List.Forall₂ (fun rule run => run.error.isSome = true ↔ stops rule) rules report.runs
          ↔ (RunLimits.isTooLong limits.time = true → ∀ rule ∈ rules, stops rule))
      ∧ ∃ rest,
          (registry.run (failing.map .unregister)).execute limits (some result) fileName = .ok rest
          ∧ report.violations = rest.violations := by
  intro registry rules context stops failing
  have hwell : registry.WellFormed := RuleRegistry.wellFormed_run operations
  have hengine : executeAll { registry, limits } jobs
      = jobs.map fun job => registry.execute limits job.1 job.2 :=
    executeAll_eq_map { registry, limits } (Or.inl rfl) jobs
  have hreport := hwell.execute_eq limits htree hname
  have hplace : (executeAll { registry, limits } jobs)[place]?
      = some (registry.execute limits (some result) fileName) := by
    rw [hengine, List.getElem?_map, hjob, Option.map_some]
  have hrest := (hwell.run (failing.map .unregister)).execute_eq limits htree hname
  refine ⟨_, hplace.trans (congrArg some hreport), ?_, ?_, ?_, _, hrest, ?_⟩
  · rw [List.map_map]
    exact List.map_congr_left fun rule _ => rule.record_ruleId _ _
  · intro run hrun herror
    obtain ⟨rule, _, rfl⟩ := List.mem_map.mp hrun
    exact rule.record_violations_of_error _ herror
  · exact registry.forall₂_error_iff_stops limits context rules
  · rw [RuleReport.violations, RuleReport.violations, List.flatMap_map, List.flatMap_map]
    exact (hwell.violations_run_unregister limits context _).symm

/-- The second run of an engine with one worker, after a check that does not come back. -/
theorem RuleEngine.executeAll_isolates_failures_second_run :
    let info := fun (id : String) => { (default : RuleInfo) with id, language := .both }
    let registry := RuleRegistry.run {}
      [.register ⟨info "slow", fun _ => .overrun⟩,
        .register ⟨info "quick", fun _ => .found [default]⟩]
    let parse : ParseResult :=
      { tree := some default, source := "", fileName := "x.js", language := none, errors := [] }
    ∃ report, (executeAll { registry, limits := { workers := 1 } }
        [(some parse, "x.js"), (some parse, "x.js")])[1]? = some (.ok report)
      ∧ report.runs.map (·.ruleId) = ["slow", "quick"] ∧ report.violations.length = 1 := by
  intro info registry parse
  obtain ⟨report, hreport, hids, -, -, rest, hrest, hviolations⟩ :=
    executeAll_isolates_failures
      [.register ⟨info "slow", fun _ => .overrun⟩,
        .register ⟨info "quick", fun _ => .found [default]⟩]
      { workers := 1 } [(some parse, "x.js"), (some parse, "x.js")] 1 parse default "x.js" rfl rfl
      (by decide)
  refine ⟨report, hreport, hids.trans (by decide), ?_⟩
  rw [hviolations, ← Except.ok.inj hrest]
  decide

end ScriptAdvisor
