import ScriptAdvisor.Proofs.Suggestion.Rating

/-! # Suggestions rated together

Suggestions are rated for a list of violations. Of these only the rules count: which of them are
violated, not in what order, how often or where. And a rating reads nothing of what ratings write.

* `Scorer.rateAll_congr`: the violated rules are all that counts of the violations.
* `Scorer.TurnsInto` says what becomes of a suggestion, and `Scorer.forall₂_rateAll` that it becomes
  of each.
* `Scorer.rateAll_append`: suggestions are rated apart from each other.
* `Scorer.rateAll_by_violated_rules` puts this together. -/

namespace ScriptAdvisor

namespace Scorer

variable (scorer : Scorer)

/-- Two lists of violations have the same rules. -/
def SameRules (violations others : List Violation) : Prop :=
  ∀ ruleId, ruleId ∈ violations.map (·.ruleId) ↔ ruleId ∈ others.map (·.ruleId)

/-! ## The violations -/

/-- A suggestion is rated for whichever violation of its rule, so that only the rules count. -/
theorem rateAmong_congr {violations others : List Violation} (h : SameRules violations others) :
    scorer.rateAmong violations = scorer.rateAmong others := by
  funext suggestion
  have hcontains : (violations.map (·.ruleId)).contains suggestion.ruleId
      = (others.map (·.ruleId)).contains suggestion.ruleId := by
    rw [Bool.eq_iff_iff, List.contains_iff_mem, List.contains_iff_mem]
    exact h suggestion.ruleId
  rw [rateAmong_eq, rateAmong_eq, lacksScore, lacksScore, hcontains, ratedAmong, ratedAmong]
  simp only [h suggestion.ruleId]

theorem rateAll_congr {violations others : List Violation} (h : SameRules violations others)
    (suggestions : List Suggestion) :
    scorer.rateAll suggestions violations = scorer.rateAll suggestions others := by
  rw [rateAll, rateAll, scorer.rateAmong_congr h]

/-! ## The suggestions -/

/-- What rating for violations makes of a suggestion. -/
structure TurnsInto (violations : List Violation) (before after : Suggestion) : Prop where
  /-- Nothing is written but the rating. -/
  eq_with :
    after = { before with
      tier := after.tier, score := after.score, reasoning := after.reasoning }
  /-- Nothing is written unless the rule is violated. -/
  mem_of_ne : after ≠ before → before.ruleId ∈ violations.map (·.ruleId)
  /-- What is written is the rating for any violation of the rule. -/
  rate_eq : ∀ violation ∈ violations, violation.ruleId = before.ruleId →
    scorer.rate before violation = .ok after

/-- A rating writes the tier, the score and the reasoning, and nothing else. -/
theorem ratedAmong_eq (violations : List Violation) (suggestion : Suggestion) :
    scorer.ratedAmong violations suggestion
      = { suggestion with
          tier := (scorer.ratedAmong violations suggestion).tier
          score := (scorer.ratedAmong violations suggestion).score
          reasoning := (scorer.ratedAmong violations suggestion).reasoning } := by
  rw [ratedAmong]
  split
  · rw [rated]
  · rfl

/-- A suggestion without a violation of its rule is left alone. -/
theorem mem_of_ratedAmong_ne {violations : List Violation} {suggestion : Suggestion}
    (h : scorer.ratedAmong violations suggestion ≠ suggestion) :
    suggestion.ruleId ∈ violations.map (·.ruleId) := by
  by_contra hmem
  exact h (if_neg hmem)

/-- A suggestion with a score gets the rating that it gets for any violation of its rule. -/
theorem rate_eq_ratedAmong {violations : List Violation} {suggestion : Suggestion}
    (hscore : scorer.lacksScore violations suggestion = false) {violation : Violation}
    (hviolation : violation ∈ violations) (hrule : violation.ruleId = suggestion.ruleId) :
    scorer.rate suggestion violation = .ok (scorer.ratedAmong violations suggestion) := by
  have hmem : suggestion.ruleId ∈ violations.map (·.ruleId) :=
    hrule ▸ List.mem_map_of_mem hviolation
  rw [lacksScore, List.contains_iff_mem.mpr hmem, Bool.true_and, Bool.not_eq_false',
    decide_eq_true_iff] at hscore
  rw [rate_eq, hrule, if_pos hscore, ratedAmong, if_pos hmem]

/-- What becomes of the suggestions, one by one and in order. -/
theorem forall₂_rateAll {suggestions rated : List Suggestion} {violations : List Violation}
    (h : scorer.rateAll suggestions violations = .ok rated) :
    List.Forall₂ (scorer.TurnsInto violations) suggestions rated := by
  obtain ⟨hscores, rfl⟩ := scorer.rateAll_eq_ok_iff.mp h
  rw [List.any_eq_false] at hscores
  rw [List.forall₂_map_right_iff, List.forall₂_same]
  intro suggestion hsuggestion
  refine ⟨scorer.ratedAmong_eq violations suggestion, scorer.mem_of_ratedAmong_ne, ?_⟩
  intro violation hviolation hrule
  exact scorer.rate_eq_ratedAmong (Bool.eq_false_iff.mpr (hscores suggestion hsuggestion))
    hviolation hrule

/-- Suggestions in front do not matter to those behind them, nor the other way round. -/
theorem rateAll_append (suggestions more : List Suggestion) (violations : List Violation) :
    scorer.rateAll (suggestions ++ more) violations = do
      let first ← scorer.rateAll suggestions violations
      let rest ← scorer.rateAll more violations
      return first ++ rest :=
  List.mapM_append

/-- Suggestions are rated unless a violated rule is trusted beyond all measure. -/
theorem exists_rateAll_eq_ok (suggestions : List Suggestion) {violations : List Violation}
    (h : ∀ violation ∈ violations,
      (scorer.confidenceOf violation.ruleId).natAbs + 100 ≤ 10 ^ 28) :
    ∃ rated, scorer.rateAll suggestions violations = .ok rated := by
  refine ⟨_, scorer.rateAll_eq_ok_iff.mpr ⟨?_, rfl⟩⟩
  rw [List.any_eq_false]
  intro suggestion _ hlacks
  rw [lacksScore, Bool.and_eq_true, List.contains_iff_mem, Bool.not_eq_true',
    decide_eq_false_iff_not] at hlacks
  obtain ⟨violation, hviolation, hrule⟩ := List.mem_map.mp hlacks.1
  have hle := h violation hviolation
  rw [hrule] at hle
  exact hlacks.2 ((scorer.isWhole_factors suggestion _).isScorable_of_le hle)

/-! ## Batches -/

/-- Rating a batch of suggestions for a batch of violations. The outcome is the same for violations
of the same rules, whatever their order and number. If there is one, it has the suggestions in their
order with nothing changed but the ratings. Only a suggestion whose rule is violated is changed, and
it gets the rating that it gets for any violation of this rule. To rate the outcome once more leaves
it as it is. Batches of suggestions put together are rated one after the other. There is an outcome
unless a violated rule is trusted beyond all measure. -/
theorem rateAll_by_violated_rules (suggestions : List Suggestion) (violations : List Violation) :
    (∀ others, SameRules violations others →
        scorer.rateAll suggestions violations = scorer.rateAll suggestions others)
      ∧ (∀ rated, scorer.rateAll suggestions violations = .ok rated →
          List.Forall₂ (scorer.TurnsInto violations) suggestions rated
            ∧ scorer.rateAll rated violations = .ok rated)
      ∧ (∀ more, scorer.rateAll (suggestions ++ more) violations = do
          let first ← scorer.rateAll suggestions violations
          let rest ← scorer.rateAll more violations
          return first ++ rest)
      ∧ ((∀ violation ∈ violations,
            (scorer.confidenceOf violation.ruleId).natAbs + 100 ≤ 10 ^ 28) →
          ∃ rated, scorer.rateAll suggestions violations = .ok rated) := by
  refine ⟨?_, ?_, ?_, scorer.exists_rateAll_eq_ok suggestions⟩
  · intro others hrules
    exact scorer.rateAll_congr hrules suggestions
  · intro rated hrated
    exact ⟨scorer.forall₂_rateAll hrated, scorer.rateAll_of_rateAll hrated⟩
  · intro more
    exact scorer.rateAll_append suggestions more violations

/-- Three suggestions, of which the second is for a rule without violations, rated for two lists of
four violations of the same rules, and rated once more. -/
theorem rateAll_by_violated_rules_two_of_three :
    let scorer := withConfidence [("ts-no-any", 40)]
    let suggestion := fun ruleId : String =>
      ({ id := .given ruleId, ruleId, title := "", description := ""
         edits := [⟨.replace, 1, 0, 1, 3, "any", "unknown", ""⟩], tier := .low, score := 7
         reasoning := "", impact := ⟨1, .low, false, true, "1 minute"⟩
         preview := none } : Suggestion)
    let violation := fun (ruleId : String) (line : Int) =>
      ({ ruleId, message := "", severity := .low, line, column := 1 } : Violation)
    let suggestions := [suggestion "ts-no-any", suggestion "own-rule", suggestion "ts-large-loops"]
    let violations := [violation "ts-large-loops" 4, violation "ts-no-any" 9,
      violation "other-rule" 1, violation "ts-large-loops" 2]
    let others := [violation "ts-no-any" 3, violation "other-rule" 5, violation "ts-large-loops" 8,
      violation "ts-no-any" 3]
    ∃ rated, scorer.rateAll suggestions violations = .ok rated
      ∧ scorer.rateAll suggestions others = .ok rated
      ∧ scorer.rateAll rated violations = .ok rated
      ∧ rated.map (·.score) = [53, 7, 88] ∧ rated.map (·.tier) = [.medium, .low, .high]
      ∧ rated.length = suggestions.length := by
  intro scorer suggestion violation suggestions violations others
  obtain ⟨hsame, houtcome, -, hrates⟩ := scorer.rateAll_by_violated_rules suggestions violations
  obtain ⟨rated, hrated⟩ := hrates (by decide +kernel)
  obtain ⟨heach, hagain⟩ := houtcome rated hrated
  have hscores : (scorer.rateAll suggestions violations).toOption.map
      (fun rated => (rated.map (·.score), rated.map (·.tier)))
      = some ([53, 7, 88], [.medium, .low, .high]) := by
    decide +kernel
  rw [hrated] at hscores
  obtain ⟨hscore, htier⟩ := Prod.mk.inj (Option.some.inj hscores)
  refine ⟨rated, hrated, ?_, hagain, hscore, htier, heach.length_eq.symm⟩
  have hrules : SameRules violations others := by
    intro ruleId
    simp only [others, violations, violation, List.map_cons, List.map_nil, List.mem_cons,
      List.not_mem_nil]
    tauto
  rw [← hsame others hrules, hrated]

end Scorer

end ScriptAdvisor
