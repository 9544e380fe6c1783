import ScriptAdvisor.Proofs.Suggestion.Dispatch
import ScriptAdvisor.Proofs.Suggestion.Score
import ScriptAdvisor.Proofs.Text.Separator

/-! # What a rating leaves behind

A rated suggestion has a score from 0 to 100, the tier of that score, and a reasoning that ends in
the phrase for that tier. What a rating writes is not what it reads, so to rate once more changes
nothing.

* `Scorer.rated` is a suggestion with its rating, and `Scorer.rate_eq` and `Scorer.rateAll_eq` say
  that this is what rating comes to if there is a score.
* `Scorer.rateAll_of_rateAll` says that rated suggestions are rated as they are.
* `Factors.pieces_reasoning` cuts a reasoning into its phrases again, and
  `Factors.filter_isTierReason_reasons` finds the one that tells a tier. -/

namespace ScriptAdvisor

/-! ## Ratings -/

namespace Scorer

variable (scorer : Scorer)

/-- The suggestion with the rating it gets for violations of the rule `ruleId`. -/
def rated (ruleId : String) (suggestion : Suggestion) : Suggestion :=
  let factors := scorer.factors suggestion ruleId
  let score := Factors.clamp (Factors.roundTenths factors.tenths)
  { suggestion with score, tier := .ofScore score, reasoning := factors.reasoning score }

@[simp] theorem rated_ruleId (ruleId : String) (suggestion : Suggestion) :
    (scorer.rated ruleId suggestion).ruleId = suggestion.ruleId := by rw [rated]

@[simp] theorem rated_id (ruleId : String) (suggestion : Suggestion) :
    (scorer.rated ruleId suggestion).id = suggestion.id := by rw [rated]

@[simp] theorem rated_edits (ruleId : String) (suggestion : Suggestion) :
    (scorer.rated ruleId suggestion).edits = suggestion.edits := by rw [rated]

@[simp] theorem rated_impact (ruleId : String) (suggestion : Suggestion) :
    (scorer.rated ruleId suggestion).impact = suggestion.impact := by rw [rated]

/-- A suggestion is rated unless the sum for its score has too many digits. -/
theorem rate_eq (suggestion : Suggestion) (violation : Violation) :
    scorer.rate suggestion violation
      = if (scorer.factors suggestion violation.ruleId).IsScorable then
          .ok (scorer.rated violation.ruleId suggestion)
        else .error .tooManyDigits := by
  rw [rate]
  simp only [Factors.score_eq]
  split <;> rfl

theorem rate_eq_error_iff {suggestion : Suggestion} {violation : Violation} :
    scorer.rate suggestion violation = .error .tooManyDigits
      ↔ ¬ (scorer.factors suggestion violation.ruleId).IsScorable := by
  rw [rate_eq]
  split <;> simp_all

/-- If there is a score, it is from 0 to 100. -/
theorem exists_rate_eq_ok_iff {suggestion : Suggestion} {violation : Violation} :
    (∃ rated, scorer.rate suggestion violation = .ok rated
        ∧ 0 ≤ rated.score ∧ rated.score ≤ 100)
      ↔ (scorer.factors suggestion violation.ruleId).IsScorable := by
  constructor
  · rintro ⟨rated, hrated, -⟩
    by_contra hscorable
    rw [scorer.rate_eq_error_iff.mpr hscorable] at hrated
    exact absurd hrated (by simp)
  · intro hscorable
    refine ⟨_, by rw [rate_eq, if_pos hscorable], ?_⟩
    rw [rated]
    exact ⟨Factors.clamp_nonneg _, Factors.clamp_le _⟩

/-- Whether a suggestion for one of the violations cannot be rated. -/
def lacksScore (violations : List Violation) (suggestion : Suggestion) : Bool :=
  (violations.map (·.ruleId)).contains suggestion.ruleId
    && !decide (scorer.factors suggestion suggestion.ruleId).IsScorable

/-- The suggestion as it is left when it is rated for one of the violations of its rule. -/
def ratedAmong (violations : List Violation) (suggestion : Suggestion) : Suggestion :=
  if suggestion.ruleId ∈ violations.map (·.ruleId) then scorer.rated suggestion.ruleId suggestion
  else suggestion

theorem rateAmong_eq (violations : List Violation) (suggestion : Suggestion) :
    scorer.rateAmong violations suggestion
      = if scorer.lacksScore violations suggestion then .error .tooManyDigits
        else .ok (scorer.ratedAmong violations suggestion) := by
  rw [rateAmong]
  split
  · rename_i violation hfound
    -- whichever violation of the rule comes first, only its rule counts
    have hrule : violation.ruleId = suggestion.ruleId := by simpa using List.find?_some hfound
    have hmem : suggestion.ruleId ∈ violations.map (·.ruleId) :=
      hrule ▸ List.mem_map_of_mem (List.mem_of_find?_eq_some hfound)
    rw [rate_eq, hrule, ratedAmong, if_pos hmem, lacksScore,
      List.contains_iff_mem.mpr hmem, Bool.true_and]
    by_cases h : (scorer.factors suggestion suggestion.ruleId).IsScorable <;> simp [h]
  · rename_i hnone
    have hmem : suggestion.ruleId ∉ violations.map (·.ruleId) := by
      intro hmem
      obtain ⟨violation, hviolation, hrule⟩ := List.mem_map.mp hmem
      exact absurd (beq_iff_eq.mpr hrule) (List.find?_eq_none.mp hnone violation hviolation)
    have hcontains : (violations.map (·.ruleId)).contains suggestion.ruleId = false :=
      Bool.eq_false_iff.mpr fun h => hmem (List.contains_iff_mem.mp h)
    rw [ratedAmong, if_neg hmem, lacksScore, hcontains, Bool.false_and]
    rfl

/-- Suggestions are rated one by one, unless one of them lacks a score. -/
theorem rateAll_eq (suggestions : List Suggestion) (violations : List Violation) :
    scorer.rateAll suggestions violations
      = if suggestions.any (scorer.lacksScore violations) then .error .tooManyDigits
        else .ok (suggestions.map (scorer.ratedAmong violations)) :=
  Except.mapM_eq_ite (scorer.rateAmong_eq violations) suggestions

theorem rateAll_eq_ok_iff {suggestions rated : List Suggestion} {violations : List Violation} :
    scorer.rateAll suggestions violations = .ok rated
      ↔ suggestions.any (scorer.lacksScore violations) = false
        ∧ rated = suggestions.map (scorer.ratedAmong violations) := by
  rw [rateAll_eq]
  cases suggestions.any (scorer.lacksScore violations) with
  | true => simp
  | false => simp [eq_comm]

/-! ## Rating once more -/

/-- The factors are read from what a rating leaves alone. -/
theorem factors_rated (ruleId : String) (suggestion : Suggestion) (otherId : String) :
    scorer.factors (scorer.rated ruleId suggestion) otherId
      = scorer.factors suggestion otherId := by
  simp only [factors, Suggestion.editComplexity, rated_edits, rated_impact]

/-- To rate once more for the same rule changes nothing. -/
theorem rated_rated (ruleId : String) (suggestion : Suggestion) :
    scorer.rated ruleId (scorer.rated ruleId suggestion) = scorer.rated ruleId suggestion := by
  rw [rated, factors_rated]
  simp only [rated]

theorem lacksScore_rated (violations : List Violation) (ruleId : String)
    (suggestion : Suggestion) :
    scorer.lacksScore violations (scorer.rated ruleId suggestion)
      = scorer.lacksScore violations suggestion := by
  rw [lacksScore, lacksScore, rated_ruleId, factors_rated]

/-- Suggestions that are all for rules with violations all get a rating, if they are rated. -/
theorem eq_map_rated_of_rateAll {suggestions rated : List Suggestion} {violations : List Violation}
    (hrules : ∀ suggestion ∈ suggestions, suggestion.ruleId ∈ violations.map (·.ruleId))
    (h : scorer.rateAll suggestions violations = .ok rated) :
    rated = suggestions.map fun suggestion => scorer.rated suggestion.ruleId suggestion := by
  rw [(scorer.rateAll_eq_ok_iff.mp h).2]
  refine List.map_congr_left fun suggestion hsuggestion => ?_
  rw [ratedAmong, if_pos (hrules suggestion hsuggestion)]

/-- What was rated is rated as it is. -/
theorem rateAll_of_rateAll {suggestions rated : List Suggestion} {violations : List Violation}
    (h : scorer.rateAll suggestions violations = .ok rated) :
    scorer.rateAll rated violations = .ok rated := by
  obtain ⟨hscores, rfl⟩ := scorer.rateAll_eq_ok_iff.mp h
  -- rating neither takes a score away nor gives another one
  have hlacks : scorer.lacksScore violations ∘ scorer.ratedAmong violations
      = scorer.lacksScore violations := by
    funext suggestion
    rw [Function.comp_apply, ratedAmong]
    split
    · exact scorer.lacksScore_rated violations _ suggestion
    · rfl
  have hsame : scorer.ratedAmong violations ∘ scorer.ratedAmong violations
      = scorer.ratedAmong violations := by
    funext suggestion
    by_cases hmem : suggestion.ruleId ∈ violations.map (·.ruleId)
    · rw [Function.comp_apply, ratedAmong, ratedAmong, if_pos hmem, rated_ruleId, if_pos hmem,
        rated_rated]
    · rw [Function.comp_apply, ratedAmong, ratedAmong, if_neg hmem, if_neg hmem]
  rw [rateAll_eq_ok_iff, List.any_map, List.map_map, hlacks, hsame]
  exact ⟨hscores, rfl⟩

end Scorer

/-! ## Phrases -/

namespace Factors

variable (factors : Factors) (score : Int)

/-- Whether a phrase tells a tier. -/
def isTierReason (phrase : String) : Bool :=
  [Tier.high, Tier.medium, Tier.low].any fun tier => phrase == tierReason tier

/-- The reasons for a score without that of the tier. -/
def factorReasons : List String :=
  factors.complexityReason ++ factors.editReason ++ factors.impactReason
    ++ (if factors.breakingChange then ["Potential breaking change"] else [])
    ++ (if factors.testingRequired then ["Testing recommended"] else [])

theorem reasons_eq :
    factors.reasons score = factors.factorReasons ++ [tierReason (.ofScore score)] :=
  rfl

/-- No factor tells a tier, and none uses the sign that separates phrases. -/
theorem factorReasons_spec :
    ∀ phrase ∈ factors.factorReasons, isTierReason phrase = false ∧ ';' ∉ phrase.toList := by
  simp only [factorReasons, complexityReason, editReason, impactReason, List.forall_mem_append]
  refine ⟨⟨⟨⟨?_, ?_⟩, ?_⟩, ?_⟩, ?_⟩
  all_goals split_ifs <;> decide

theorem isTierReason_tierReason (tier : Tier) : isTierReason (tierReason tier) = true := by
  cases tier <;> decide

theorem semicolon_notMem_tierReason (tier : Tier) : ';' ∉ (tierReason tier).toList := by
  cases tier <;> decide

/-- Of the reasons for a score only the last tells a tier, and it tells that of the score. -/
theorem filter_isTierReason_reasons :
    (factors.reasons score).filter isTierReason = [tierReason (.ofScore score)] := by
  have hnone : factors.factorReasons.filter isTierReason = [] :=
    List.filter_eq_nil_iff.mpr fun phrase hphrase =>
      Bool.eq_false_iff.mp (factors.factorReasons_spec phrase hphrase).1
  rw [reasons_eq, List.filter_append, hnone, List.nil_append,
    List.filter_cons_of_pos (isTierReason_tierReason _), List.filter_nil]

theorem getLast?_reasons :
    (factors.reasons score).getLast? = some (tierReason (.ofScore score)) := by
  rw [reasons_eq, List.getLast?_concat]

/-- A reasoning, cut at the signs between its phrases, gives the reasons back. -/
theorem pieces_reasoning :
    (Text.pieces "; ".toList (factors.reasoning score).toList).map String.ofList
      = factors.reasons score := by
  have hplain : ∀ part ∈ (factors.reasons score).map String.toList, ';' ∉ part := by
    rw [reasons_eq, List.forall_mem_map, List.forall_mem_append, List.forall_mem_singleton]
    exact ⟨fun phrase hphrase => (factors.factorReasons_spec phrase hphrase).2,
      semicolon_notMem_tierReason _⟩
  have hsome : (factors.reasons score).map String.toList ≠ [] := by
    simp [reasons_eq]
  have hpieces : Text.pieces "; ".toList (factors.reasoning score).toList
      = (factors.reasons score).map String.toList := by
    rw [reasoning, String.toList_intercalate]
    exact Text.pieces_intercalate hsome hplain
  rw [hpieces, List.map_map]
  exact (List.map_congr_left fun phrase _ => String.ofList_toList).trans (List.map_id _)

end Factors

end ScriptAdvisor
