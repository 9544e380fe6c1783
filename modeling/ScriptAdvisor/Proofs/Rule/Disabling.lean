import ScriptAdvisor.Proofs.Rule.Isolation
import ScriptAdvisor.Proofs.Smell.Ownership

/-! # Rules that are not run

Two registries that differ in which rules are run, and in nothing else, give reports that differ in
the records of these rules and in nothing else.

* `RuleRegistry.AlsoDisabled` relates the two registries. Disabling rules brings it about
  (`alsoDisabled_run_disable`), and operations that do not decide what is run keep it
  (`AlsoDisabled.run`).
* `RuleReport.without` leaves records out, and `AlsoDisabled.execute_eq` says that this is what a
  run comes to. With rules that own their findings it leaves out the violations of these rules
  (`RuleReport.violations_without`). -/

namespace ScriptAdvisor

/-! ## Configurations -/

/-- Whether an operation leaves alone which rules there are and which of them are run. -/
def RuleOperation.keepsRun : RuleOperation → Bool
  | .setSeverity _ _ | .setOptions _ _ => true
  | _ => false

namespace RuleRegistry

@[simp] theorem rules_configure (registry : RuleRegistry) (id : String)
    (change : RuleConfig → RuleConfig) : (registry.configure id change).rules = registry.rules := by
  rw [configure]
  split <;> rfl

/-- A change reaches the configuration of its rule and no other. -/
theorem config?_configure (registry : RuleRegistry) (id other : String)
    (change : RuleConfig → RuleConfig) :
    (registry.configure id change).config? other
      = (registry.config? other).map fun config =>
          if other = id then change config else config := by
  rw [configure]
  by_cases hid : other = id
  · rw [hid]
    simp only [config?, if_true]
    cases hconfig : Entries.get? registry.configs id with
    | none => simp only [hconfig, Option.map_none]
    | some config => simp only [Entries.get?_put_self, Option.map_some]
  · simp only [config?, if_neg hid, Option.map_id']
    cases hconfig : Entries.get? registry.configs id with
    | none => rfl
    | some config => exact Entries.get?_put_of_ne _ hid _

/-- The second registry has the rules of the first, configured alike, but those in `ids` are not
run. -/
structure AlsoDisabled (ids : List String) (registry other : RuleRegistry) : Prop where
  /-- The rules are the same. -/
  rules_eq : other.rules = registry.rules
  /-- The configurations are the same, but for the rules in `ids`. -/
  config?_eq : ∀ id, other.config? id
    = (registry.config? id).map fun config =>
        if id ∈ ids then { config with enabled := false } else config

variable {ids : List String} {registry other : RuleRegistry}

/-- Disabling rules has them not run, and does nothing else. -/
theorem alsoDisabled_run_disable (registry : RuleRegistry) (ids : List String) :
    AlsoDisabled ids registry (registry.run (ids.map .disable)) := by
  induction ids generalizing registry with
  | nil => exact ⟨rfl, fun id => by simp [run]⟩
  | cons first ids ih =>
      have hrest := ih (registry.disable first)
      refine ⟨hrest.rules_eq.trans (rules_configure _ _ _), fun id => ?_⟩
      rw [List.map_cons, run, List.foldl_cons]
      refine (hrest.config?_eq id).trans ?_
      rw [disable, config?_configure, Option.map_map]
      refine congrArg (Option.map · (registry.config? id)) (funext fun config => ?_)
      -- disabling a rule twice is disabling it once
      by_cases hfirst : id = first <;> by_cases hrest : id ∈ ids <;> simp [hfirst, hrest]

/-- A change that has nothing to do with what is run keeps the relation. -/
theorem AlsoDisabled.configure (h : AlsoDisabled ids registry other) (id : String)
    {change : RuleConfig → RuleConfig}
    (hchange : ∀ config,
      change { config with enabled := false } = { change config with enabled := false }) :
    AlsoDisabled ids (registry.configure id change) (other.configure id change) := by
  refine ⟨?_, fun id' => ?_⟩
  · rw [rules_configure, rules_configure, h.rules_eq]
  · rw [config?_configure, config?_configure, h.config?_eq, Option.map_map, Option.map_map]
    refine congrArg (Option.map · (registry.config? id')) (funext fun config => ?_)
    by_cases hin : id' ∈ ids
    · by_cases hid : id' = id
      · simp only [Function.comp_apply, if_pos hin, if_pos hid, hchange]
      · simp only [Function.comp_apply, if_pos hin, if_neg hid]
    · simp only [Function.comp_apply, if_neg hin]

/-- What an operation that does not decide what is run can do: change one configuration, and there
not whether the rule is run. -/
theorem exists_configure_of_keepsRun {operation : RuleOperation}
    (h : operation.keepsRun = true) :
    ∃ id change, (∀ registry : RuleRegistry,
        registry.apply operation = registry.configure id change)
      ∧ ∀ config : RuleConfig,
          change { config with enabled := false } = { change config with enabled := false } := by
  cases operation with
  | setSeverity id severity => exact ⟨id, _, fun registry => rfl, fun config => rfl⟩
  | setOptions id options => exact ⟨id, _, fun registry => rfl, fun config => rfl⟩
  | register rule => exact absurd h Bool.false_ne_true
  | unregister id => exact absurd h Bool.false_ne_true
  | enable id => exact absurd h Bool.false_ne_true
  | disable id => exact absurd h Bool.false_ne_true

/-- Such operations leave the rules alone. -/
theorem rules_run_of_keepsRun (registry : RuleRegistry) {operations : List RuleOperation}
    (hkeeps : ∀ operation ∈ operations, operation.keepsRun = true) :
    (registry.run operations).rules = registry.rules := by
  induction operations generalizing registry with
  | nil => rfl
  | cons operation operations ih =>
      rw [List.forall_mem_cons] at hkeeps
      obtain ⟨id, change, happly, _⟩ := exists_configure_of_keepsRun hkeeps.1
      have hrest := ih (registry.apply operation) hkeeps.2
      rw [happly, rules_configure] at hrest
      rw [← hrest, ← happly]
      rfl

/-- Such operations keep the relation. -/
theorem AlsoDisabled.run (h : AlsoDisabled ids registry other) {operations : List RuleOperation}
    (hkeeps : ∀ operation ∈ operations, operation.keepsRun = true) :
    AlsoDisabled ids (registry.run operations) (other.run operations) := by
  induction operations generalizing registry other with
  | nil => exact h
  | cons operation operations ih =>
      rw [List.forall_mem_cons] at hkeeps
      obtain ⟨id, change, happly, hchange⟩ := exists_configure_of_keepsRun hkeeps.1
      have hstep := h.configure id hchange
      rw [← happly, ← happly] at hstep
      exact ih hstep hkeeps.2

/-! ## The rules that are run -/

theorem AlsoDisabled.configOf_eq (h : AlsoDisabled ids registry other) {rule : Rule}
    (hid : rule.info.id ∉ ids) :
    other.configOf rule = registry.configOf rule := by
  rw [configOf, configOf, h.config?_eq]
  simp only [if_neg hid, Option.map_id']

/-- The other registry runs the rules of the first without those in `ids`. -/
theorem AlsoDisabled.enabledFor_eq (h : AlsoDisabled ids registry other) (language : Language) :
    other.enabledFor language
      = (registry.enabledFor language).filter fun rule => !ids.contains rule.info.id := by
  rw [enabledFor, enabledFor, list, list, h.rules_eq, List.filter_filter]
  refine List.filter_congr fun rule _ => ?_
  rw [isEnabled, isEnabled, h.config?_eq, Option.map_map]
  by_cases hid : rule.info.id ∈ ids
  · cases registry.config? rule.info.id <;> simp [hid]
  · cases registry.config? rule.info.id <;> simp [hid]

end RuleRegistry

/-! ## Reports -/

namespace RuleReport

/-- The report without the records of the rules in `ids`. -/
def without (ids : List String) (report : RuleReport) : RuleReport :=
  { report with runs := report.runs.filter fun run => !ids.contains run.ruleId }

/-- A report whose violations are each recorded under its own rule. -/
def Owned (report : RuleReport) : Prop :=
  ∀ run ∈ report.runs, ∀ violation ∈ run.violations, violation.ruleId = run.ruleId

/-- Without the records of rules, their violations are gone and no others. -/
theorem violations_without (ids : List String) {report : RuleReport} (h : report.Owned) :
    (report.without ids).violations
      = report.violations.filter fun violation => !ids.contains violation.ruleId := by
  have hruns : ∀ runs : List RuleRun,
      (∀ run ∈ runs, ∀ violation ∈ run.violations, violation.ruleId = run.ruleId) →
        (runs.filter fun run => !ids.contains run.ruleId).flatMap (·.violations)
          = (runs.flatMap (·.violations)).filter fun violation =>
              !ids.contains violation.ruleId := by
    intro runs hown
    induction runs with
    | nil => rfl
    | cons run runs ih =>
        rw [List.forall_mem_cons] at hown
        have hsame : ∀ violation ∈ run.violations,
            (!ids.contains violation.ruleId) = !ids.contains run.ruleId := by
          intro violation hviolation
          rw [hown.1 violation hviolation]
        rw [List.flatMap_cons, List.filter_append, ← ih hown.2, filter_eq_ite hsame,
          List.filter_cons]
        cases hid : !ids.contains run.ruleId with
        | true => rfl
        | false => rfl
  exact hruns report.runs h

/-- When violations are picked by their rules, the issues are picked in the same way. -/
theorem issues_eq_filter (isKept : String → Bool) {report found : RuleReport}
    (hname : found.fileName = report.fileName)
    (h : found.violations = report.violations.filter fun violation => isKept violation.ruleId) :
    found.issues = report.issues.filter fun issue => isKept issue.ruleId := by
  rw [issues, h, hname, issues, List.filter_map]
  rfl

theorem issues_without (ids : List String) {report : RuleReport} (h : report.Owned) :
    (report.without ids).issues
      = report.issues.filter fun issue => !ids.contains issue.ruleId := by
  refine issues_eq_filter (fun id => !ids.contains id) ?_ (violations_without ids h)
  rfl

theorem failures_without (ids : List String) (report : RuleReport) :
    (report.without ids).failures
      = report.failures.filter fun run => !ids.contains run.ruleId := by
  rw [failures, failures, without, List.filter_filter, List.filter_filter]
  exact List.filter_congr fun run _ => Bool.and_comm _ _

end RuleReport

/-- A rule that owns its findings is recorded with violations under its name. -/
theorem Rule.OwnsFindings.record_ruleId {rule : Rule} (hown : rule.OwnsFindings)
    (limits : RunLimits) (config : RuleConfig) (context : CheckContext) :
    ∀ violation ∈ (rule.record config (limits.judge (rule.outcomeWith config context))).violations,
      violation.ruleId = rule.info.id := by
  intro violation hviolation
  cases houtcome : limits.judge (rule.outcomeWith config context) with
  | found violations =>
      rw [houtcome] at hviolation
      obtain ⟨original, horiginal, rfl⟩ := List.mem_map.mp hviolation
      exact hown _ violations (RunLimits.eq_found_of_judge houtcome) original horiginal
  | nothing =>
      rw [houtcome] at hviolation
      exact absurd hviolation List.not_mem_nil
  | failed fault =>
      rw [houtcome] at hviolation
      exact absurd hviolation List.not_mem_nil
  | overrun =>
      rw [houtcome] at hviolation
      exact absurd hviolation List.not_mem_nil

/-- What a run needs of a parse result is a tree, and a name of the file. -/
theorem ParseResult.context?_eq_ok {parse : Option ParseResult} {fileName : String}
    {found : ParseResult × CheckContext} (h : ParseResult.context? parse fileName = .ok found) :
    parse = some found.1 ∧ found.1.tree = some found.2.tree ∧ fileName ≠ "" := by
  unfold ParseResult.context? at h
  split at h
  · exact absurd h (by simp)
  · rename_i result
    split at h
    · exact absurd h (by simp)
    · rename_i tree htree
      split at h
      · exact absurd h (by simp)
      · rename_i hname
        rw [← Except.ok.inj h]
        exact ⟨rfl, htree, by simpa using hname⟩

namespace RuleRegistry

/-- A run that comes to its end had a tree and a name of the file. -/
theorem exists_tree_of_execute {registry : RuleRegistry} {limits : RunLimits}
    {parse : Option ParseResult} {fileName : String} {report : RuleReport}
    (h : registry.execute limits parse fileName = .ok report) :
    ∃ result tree, parse = some result ∧ result.tree = some tree ∧ fileName ≠ "" := by
  obtain ⟨_, hrun, _⟩ := Except.map_eq_ok_iff.mp h
  obtain ⟨found, hcontext, _⟩ := Except.bind_eq_ok_iff.mp hrun
  obtain ⟨hparse, htree, hname⟩ := ParseResult.context?_eq_ok hcontext
  exact ⟨found.1, found.2.tree, hparse, htree, hname⟩

/-- A run records violations under the names of their rules. -/
theorem WellFormed.owned_of_execute {registry : RuleRegistry} (hwell : registry.WellFormed)
    (hown : ∀ rule ∈ registry.list, rule.OwnsFindings) {limits : RunLimits}
    {parse : Option ParseResult} {fileName : String} {report : RuleReport}
    (h : registry.execute limits parse fileName = .ok report) : report.Owned := by
  obtain ⟨result, tree, rfl, htree, hname⟩ := exists_tree_of_execute h
  rw [hwell.execute_eq limits htree hname] at h
  rw [← Except.ok.inj h]
  intro run hrun
  obtain ⟨rule, hrule, rfl⟩ := List.mem_map.mp hrun
  rw [runOf, Rule.record_ruleId]
  exact (hown rule (List.mem_filter.mp hrule).1).record_ruleId limits _ _

/-- A run by the other registry leaves out the records of the rules in `ids`. -/
theorem AlsoDisabled.execute_eq {ids : List String} {registry other : RuleRegistry}
    (h : AlsoDisabled ids registry other) (hwell : registry.WellFormed)
    (hwell' : other.WellFormed) {limits : RunLimits} {parse : Option ParseResult}
    {fileName : String} {report : RuleReport}
    (hrun : registry.execute limits parse fileName = .ok report) :
    other.execute limits parse fileName = .ok (report.without ids) := by
  obtain ⟨result, tree, rfl, htree, hname⟩ := exists_tree_of_execute hrun
  rw [hwell.execute_eq limits htree hname] at hrun
  rw [hwell'.execute_eq limits htree hname, ← Except.ok.inj hrun, RuleReport.without]
  simp only [Except.ok.injEq, RuleReport.mk.injEq, true_and]
  rw [h.enabledFor_eq, List.filter_map]
  have hkept : (fun run : RuleRun => !ids.contains run.ruleId) ∘
        registry.runOf limits { tree, source := result.source, fileName }
      = fun rule => !ids.contains rule.info.id := by
    funext rule
    rw [Function.comp_apply, runOf, Rule.record_ruleId]
  rw [hkept]
  refine List.map_congr_left fun rule hrule => ?_
  have hid : rule.info.id ∉ ids := by simpa using (List.mem_filter.mp hrule).2
  rw [runOf, runOf, outcomeOf, outcomeOf, h.configOf_eq hid]

end RuleRegistry

end ScriptAdvisor
