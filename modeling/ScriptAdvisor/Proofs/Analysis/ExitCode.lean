import Mathlib.Algebra.Group.Int.Defs
import ScriptAdvisor.Proofs.Analysis.Disabling

/-! # What the exit code tells

The counts of a report and its exit code tell what the rules found, each finding under the severity
that is configured for its rule. They tell it of the rules that end by themselves and within their
time, unless the time limit has more seconds than can be measured: then they tell nothing.

* `Finding` is what the check of a rule returns, with the severity it is reported with.
* `Report.Tells` says that counts and exit code are those of findings. `Report.tells_of_issues` says
  that this is so if the findings make up the issues.
* `RuleRegistry.violations_map_runOf` says which findings these are, and `Engine.exitCode_analyze`
  is the result. -/

namespace ScriptAdvisor

/-! ## Findings -/

/-- The violations that a check returns. -/
def CheckOutcome.violations : CheckOutcome → List Violation
  | found violations => violations
  | nothing | failed _ | overrun => []

/-- What the check of a rule returns, and how serious that is taken to be. -/
structure Finding where
  /-- The severity of the rule. -/
  severity : Severity
  /-- The violations, under any severity. -/
  violations : List Violation
  deriving DecidableEq, Repr, Inhabited

namespace Finding

/-- The violations under the severity of the rule. -/
def ranked (finding : Finding) : List Violation :=
  finding.violations.map fun violation => { violation with severity := finding.severity }

theorem ranked_eq_nil_iff (finding : Finding) : finding.ranked = [] ↔ finding.violations = [] :=
  List.map_eq_nil_iff

/-- One finding adds its violations to the count of its severity only. -/
theorem countP_ranked (finding : Finding) (severity : Severity) :
    finding.ranked.countP (fun violation => violation.severity == severity)
      = if finding.severity == severity then finding.violations.length else 0 := by
  rw [ranked, List.countP_map]
  by_cases h : finding.severity == severity
  · rw [if_pos h]
    exact List.countP_eq_length.mpr fun _ _ => h
  · rw [if_neg h]
    exact List.countP_eq_zero.mpr fun _ _ => h

theorem countP_flatMap_ranked (findings : List Finding) (severity : Severity) :
    (findings.flatMap ranked).countP (fun violation => violation.severity == severity)
      = ((findings.filter (·.severity == severity)).flatMap (·.violations)).length := by
  induction findings with
  | nil => rfl
  | cons finding findings ih =>
      rw [List.flatMap_cons, List.countP_append, ih, countP_ranked, List.filter_cons]
      split
      · rw [List.flatMap_cons, List.length_append]
      · rw [Nat.zero_add]

theorem any_flatMap_ranked (findings : List Finding) (test : Severity → Bool) :
    (findings.flatMap ranked).any (fun violation => test violation.severity) = true
      ↔ ∃ finding ∈ findings, test finding.severity = true ∧ finding.violations ≠ [] := by
  rw [List.any_eq_true]
  constructor
  · rintro ⟨violation, hviolation, htest⟩
    obtain ⟨finding, hfinding, hranked⟩ := List.mem_flatMap.mp hviolation
    obtain ⟨returned, hreturned, rfl⟩ := List.mem_map.mp hranked
    exact ⟨finding, hfinding, htest, List.ne_nil_of_mem hreturned⟩
  · rintro ⟨finding, hfinding, htest, hsome⟩
    obtain ⟨returned, hreturned⟩ := List.exists_mem_of_ne_nil _ hsome
    exact ⟨{ returned with severity := finding.severity },
      List.mem_flatMap.mpr ⟨finding, hfinding, List.mem_map_of_mem hreturned⟩, htest⟩

theorem flatMap_ranked_eq_nil_iff (findings : List Finding) :
    findings.flatMap ranked = [] ↔ ∀ finding ∈ findings, finding.violations = [] := by
  rw [List.flatMap_eq_nil_iff]
  exact forall₂_congr fun finding _ => finding.ranked_eq_nil_iff

end Finding

theorem Severity.isBlocking_iff {severity : Severity} :
    severity.isBlocking = true ↔ severity = .high ∨ severity = .critical := by
  cases severity <;> decide

/-! ## Counts and exit code -/

namespace Report

/-- Counts and exit code are those of the findings: so many violations of each severity; two if a
finding of a blocking severity is not empty, one if only others are not, zero if all are empty. -/
structure Tells (report : Report) (findings : List Finding) : Prop where
  /-- The counts are those of the violations returned by rules of that severity. -/
  count_eq : ∀ severity, report.count severity
    = ((findings.filter (·.severity == severity)).flatMap (·.violations)).length
  /-- When something blocks. -/
  exitCode_eq_two_iff : report.exitCode = 2 ↔ ∃ finding ∈ findings,
    (finding.severity = .high ∨ finding.severity = .critical) ∧ finding.violations ≠ []
  /-- When there is something, but nothing that blocks. -/
  exitCode_eq_one_iff : report.exitCode = 1 ↔ (∃ finding ∈ findings, finding.violations ≠ [])
    ∧ ¬ ∃ finding ∈ findings,
      (finding.severity = .high ∨ finding.severity = .critical) ∧ finding.violations ≠ []
  /-- When there is nothing. -/
  exitCode_eq_zero_iff : report.exitCode = 0 ↔ ∀ finding ∈ findings, finding.violations = []

/-- Every issue is counted under one severity. -/
theorem sum_count (report : Report) :
    report.count .low + report.count .medium + report.count .high + report.count .critical
      = report.issues.length := by
  simp only [count]
  induction report.issues with
  | nil => rfl
  | cons issue issues ih =>
      simp only [List.countP_cons, List.length_cons, ← ih]
      cases issue.severity <;> simp <;> omega

/-- A report whose issues are made up of findings tells them. -/
theorem tells_of_issues {report : Report} {findings : List Finding} {fileName : String}
    (h : report.issues = (findings.flatMap Finding.ranked).map (·.toIssue fileName)) :
    report.Tells findings := by
  have hblocking : report.hasBlocking = true ↔ ∃ finding ∈ findings,
      (finding.severity = .high ∨ finding.severity = .critical) ∧ finding.violations ≠ [] := by
    rw [hasBlocking, h, List.any_map]
    refine (Finding.any_flatMap_ranked findings Severity.isBlocking).trans ?_
    simp only [Severity.isBlocking_iff]
  have hempty : report.issues.isEmpty = true ↔ ∀ finding ∈ findings, finding.violations = [] := by
    rw [h, List.isEmpty_iff, List.map_eq_nil_iff, Finding.flatMap_ranked_eq_nil_iff]
  -- what blocks is not empty
  have hsome : report.hasBlocking = true → report.issues.isEmpty = false := by
    intro hblocks
    obtain ⟨issue, hissue, -⟩ := List.any_eq_true.mp hblocks
    exact List.isEmpty_eq_false_iff_exists_mem.mpr ⟨issue, hissue⟩
  refine ⟨fun severity => ?_, ?_, ?_, ?_⟩
  · rw [count, h, List.countP_map]
    exact Finding.countP_flatMap_ranked findings severity
  · rw [← hblocking, exitCode]
    cases report.hasBlocking <;> cases report.issues.isEmpty <;> simp
  · have hnonempty : (∃ finding ∈ findings, finding.violations ≠ [])
        ↔ report.issues.isEmpty = false := by
      rw [← Bool.not_eq_true, hempty]
      push Not
      rfl
    rw [← hblocking, hnonempty, exitCode]
    cases report.hasBlocking <;> cases report.issues.isEmpty <;> simp
  · rw [← hempty, exitCode]
    cases hblocks : report.hasBlocking with
    | true => rw [hsome hblocks]; simp
    | false => cases report.issues.isEmpty <;> simp

end Report

/-! ## What rules find -/

namespace RuleRegistry

variable (registry : RuleRegistry) (limits : RunLimits) (context : CheckContext)

/-- What a registered rule finds, under the severity configured for it or else its own. -/
def findingOf (rule : Rule) : Finding :=
  { severity := (registry.configOf rule).severity.getD rule.info.severity
    violations := (registry.outcomeOf context rule).violations }

/-- The record of a rule that did not fail holds what the rule found. -/
theorem runOf_violations (rule : Rule) :
    (registry.runOf limits context rule).violations
      = if (registry.runOf limits context rule).isFailed then []
        else (registry.findingOf context rule).ranked := by
  rw [runOf, RunLimits.judge]
  split
  · rfl
  · split
    · rfl
    · rw [findingOf]
      cases registry.outcomeOf context rule <;> rfl

/-- The records of rules hold what those rules found that did not fail. -/
theorem violations_map_runOf (rules : List Rule) :
    (rules.map (registry.runOf limits context)).flatMap (·.violations)
      = ((rules.filter fun rule => !(registry.runOf limits context rule).isFailed).map
          (registry.findingOf context)).flatMap Finding.ranked := by
  induction rules with
  | nil => rfl
  | cons rule rules ih =>
      rw [List.map_cons, List.flatMap_cons, ih, runOf_violations]
      cases hfailed : (registry.runOf limits context rule).isFailed with
      | true =>
          rw [if_pos rfl, List.nil_append, List.filter_cons_of_neg (by simp [hfailed])]
      | false =>
          rw [if_neg Bool.false_ne_true, List.filter_cons_of_pos (by simp [hfailed]),
            List.map_cons, List.flatMap_cons]

/-- The rules without a recorded error are those that did not fail. -/
theorem WellFormed.filter_failures {registry : RuleRegistry} (h : registry.WellFormed)
    (limits : RunLimits) (context : CheckContext) (language : Language) :
    let rules := registry.enabledFor language
    let failures := (rules.map (registry.runOf limits context)).filter (·.isFailed)
    (rules.filter fun rule => !(failures.map (·.ruleId)).contains rule.info.id)
      = rules.filter fun rule => !(registry.runOf limits context rule).isFailed := by
  intro rules failures
  have hids : failures.map (·.ruleId)
      = (rules.filter fun rule => (registry.runOf limits context rule).isFailed).map
          (·.info.id) := by
    show ((rules.map _).filter _).map _ = _
    rw [List.filter_map, List.map_map]
    exact List.map_congr_left fun rule _ => Rule.record_ruleId _ _ _
  refine List.filter_congr fun rule hrule => congrArg _ ?_
  rw [Bool.eq_iff_iff, List.contains_iff_mem, hids]
  exact h.id_mem_filter_iff hrule

/-- If the issues of a report are made up of what rules found that did not fail, it tells what rules
found that end by themselves and in time; unless the time limit has too many seconds, and some of
them found something. -/
theorem tells_filter_stops_iff {report : Report} {fileName : String} {rules : List Rule}
    (h : report.issues
      = (((rules.filter fun rule => !(registry.runOf limits context rule).isFailed).map
          (registry.findingOf context)).flatMap Finding.ranked).map (·.toIssue fileName)) :
    let ending := rules.filter fun rule => !limits.stops (registry.outcomeOf context rule)
    report.Tells (ending.map (registry.findingOf context))
      ↔ (RunLimits.isTooLong limits.time = true →
          ∀ finding ∈ ending.map (registry.findingOf context), finding.violations = []) := by
  intro ending
  cases hlong : RunLimits.isTooLong limits.time with
  | false =>
      -- the rules that did not fail are those that end
      have hsame : (rules.filter fun rule => !(registry.runOf limits context rule).isFailed)
          = ending := by
        refine List.filter_congr fun rule _ => congrArg _ ?_
        rw [runOf, RuleRun.isFailed, rule.record_judge_error_isSome _ hlong]
      rw [hsame] at h
      exact iff_of_true (Report.tells_of_issues h) fun htrue => absurd htrue Bool.false_ne_true
  | true =>
      -- every rule failed
      have hnone : (rules.filter fun rule => !(registry.runOf limits context rule).isFailed)
          = [] := by
        refine List.filter_eq_nil_iff.mpr fun rule _ => ?_
        rw [runOf, RunLimits.judge_of_isTooLong hlong]
        exact Bool.false_ne_true
      rw [hnone] at h
      constructor
      · intro htells _
        -- a report without issues has the exit code zero
        refine htells.exitCode_eq_zero_iff.mp ?_
        exact (Report.tells_of_issues h).exitCode_eq_zero_iff.mpr (List.forall_mem_nil _)
      · intro hempty
        have hmade : report.issues
            = ((ending.map (registry.findingOf context)).flatMap Finding.ranked).map
                (·.toIssue fileName) := by
          rw [h, (Finding.flatMap_ranked_eq_nil_iff _).mpr (hempty rfl)]
          rfl
        exact Report.tells_of_issues hmade

end RuleRegistry

/-! ## The analysis -/

namespace Engine

/-- The violations, issues and failures of a report are those recorded for the rules. -/
theorem exists_runs_of_analyze {engine : Engine} (hwell : engine.rules.WellFormed)
    {parse : ParseResult} {report : Report} (h : engine.analyze (some parse) = .ok report) :
    ∃ tree, parse.tree = some tree ∧
      let runs := (engine.rules.enabledFor (parse.languageOf parse.fileName)).map
        (engine.rules.runOf engine.limits
          { tree, source := parse.source, fileName := parse.fileName })
      report.violations = runs.flatMap (·.violations)
        ∧ report.issues = report.violations.map (·.toIssue parse.fileName)
        ∧ report.ruleErrors = runs.filter (·.isFailed) := by
  obtain ⟨tree, found, advice, htree, hname, hfound, -, rfl⟩ := exists_stages_of_analyze h
  rw [hwell.execute_eq engine.limits htree hname] at hfound
  rw [← Except.ok.inj hfound]
  exact ⟨tree, htree, rfl, rfl, rfl⟩

/-- The counts and the exit code of a report tell what the rules found for which no error is
recorded. These are the rules that end by themselves and in time, unless the time limit has more
seconds than can be measured: then an error is recorded for every rule, and what the others found is
told only if that is nothing. -/
theorem exitCode_analyze (operations : List RuleOperation) (limits : RunLimits) (advisor : Advisor)
    (parse : ParseResult) (report : Report)
    (h : analyze { rules := .run {} operations, limits, advisor } (some parse) = .ok report) :
    let registry := RuleRegistry.run {} operations
    let rules := registry.enabledFor (parse.languageOf parse.fileName)
    ∃ tree, parse.tree = some tree ∧
      let context : CheckContext := { tree, source := parse.source, fileName := parse.fileName }
      let unfailed := rules.filter fun rule =>
        !(report.ruleErrors.map (·.ruleId)).contains rule.info.id
      let ending := rules.filter fun rule => !limits.stops (registry.outcomeOf context rule)
      let findings := fun rules : List Rule => rules.map (registry.findingOf context)
      report.violations = (findings unfailed).flatMap Finding.ranked
        ∧ report.issues = report.violations.map (·.toIssue parse.fileName)
        ∧ report.count .low + report.count .medium + report.count .high + report.count .critical
            = report.issues.length
        ∧ report.Tells (findings unfailed)
        ∧ (report.Tells (findings ending)
            ↔ (RunLimits.isTooLong limits.time = true →
                ∀ finding ∈ findings ending, finding.violations = [])) := by
  intro registry rules
  have hwell : registry.WellFormed := RuleRegistry.wellFormed_run operations
  obtain ⟨tree, htree, hviolations, hissues, hfailures⟩ := exists_runs_of_analyze hwell h
  refine ⟨tree, htree, ?_⟩
  intro context unfailed ending findings
  have hunfailed : unfailed
      = rules.filter fun rule => !(registry.runOf limits context rule).isFailed := by
    show rules.filter _ = _
    rw [hfailures]
    exact hwell.filter_failures limits context _
  have hfound : report.violations = (findings unfailed).flatMap Finding.ranked := by
    rw [hviolations, hunfailed]
    exact registry.violations_map_runOf limits context rules
  have hmade := hissues
  rw [hfound] at hmade
  refine ⟨hfound, hissues, report.sum_count, Report.tells_of_issues hmade, ?_⟩
  rw [hunfailed] at hmade
  exact registry.tells_filter_stops_iff limits context hmade

/-- A rule that raises and one that finds something of low severity, which is configured to be
critical. The exit code tells that something blocks, but within a time of too many seconds it tells
that there is nothing. -/
theorem exitCode_analyze_critical :
    let info := fun (id : String) => { (default : RuleInfo) with id, language := .both }
    let operations : List RuleOperation :=
      [.register ⟨info "broken", fun _ => .failed default⟩,
        .register ⟨info "strict",
          fun _ => .found [{ (default : Violation) with severity := .low }]⟩,
        .setSeverity "strict" (some .critical)]
    let engine := fun time : Int =>
      { rules := .run {} operations, limits := { time }, advisor := { providers := {} } : Engine }
    let parse : ParseResult :=
      { tree := some default, source := "", fileName := "x.js", language := none, errors := [] }
    (∃ report, (engine 5000).analyze (some parse) = .ok report
        ∧ report.count .critical = 1 ∧ report.exitCode = 2)
      ∧ ∃ report, (engine (10 ^ 400)).analyze (some parse) = .ok report
        ∧ report.count .critical = 0 ∧ report.exitCode = 0 := by
  intro info operations engine parse
  have hrun : ((engine 5000).analyze (some parse)).toOption.isSome = true := by decide +kernel
  have hlong : ((engine (10 ^ 400)).analyze (some parse)).toOption.map
        (fun report => report.ruleErrors.map (·.ruleId)) = some ["broken", "strict"] := by
    decide +kernel
  constructor
  · obtain ⟨report, hreport⟩ := Option.isSome_iff_exists.mp hrun
    rw [Except.toOption_eq_some_iff] at hreport
    obtain ⟨tree, htree, -, -, -, -, htells⟩ :=
      exitCode_analyze operations { time := 5000 } { providers := {} } parse report hreport
    obtain rfl := Option.some.inj htree
    have hending := htells.mpr fun hlong => absurd hlong (by decide)
    refine ⟨report, hreport, (hending.count_eq .critical).trans (by decide +kernel), ?_⟩
    exact hending.exitCode_eq_two_iff.mpr (by decide +kernel)
  · obtain ⟨report, hreport, hids⟩ := Option.map_eq_some_iff.mp hlong
    rw [Except.toOption_eq_some_iff] at hreport
    obtain ⟨tree, htree, -, -, -, hunfailed, -⟩ :=
      exitCode_analyze operations { time := 10 ^ 400 } { providers := {} } parse report hreport
    obtain rfl := Option.some.inj htree
    rw [hids] at hunfailed
    refine ⟨report, hreport, (hunfailed.count_eq .critical).trans (by decide +kernel), ?_⟩
    exact hunfailed.exitCode_eq_zero_iff.mpr (by decide +kernel)

end Engine

end ScriptAdvisor
