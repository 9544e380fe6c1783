import ScriptAdvisor.Proofs.Suggestion.Rating

/-! # Better factors, better scores

Factors speak for a suggestion or against it. The score respects this: each step from the factors to
the score, the cutting down of sums included, is monotone. So edits that are added to a suggestion
do not raise its score. The order of the edits is none of the factors.

* `Factors.Favors` compares factors, all six at once.
* `Factors.score_le_score`: factors that speak for a suggestion have a score at least as high.
* `Scorer.score_respects_factors` says so of factors, and of suggestions whose edits become more or
  change places. -/

namespace ScriptAdvisor

namespace Factors

/-- Factors that speak for a suggestion at least as much as others do, the suggestion having edits:
the rule is as reliable, and all that is taken off for is as little. -/
structure Favors (factors other : Factors) : Prop where
  /-- There are edits. -/
  one_le_editCount : 1 ≤ factors.editCount
  /-- There are no more edits than in the other. -/
  editCount_le : factors.editCount ≤ other.editCount
  /-- The edits are no more complex. -/
  editComplexity_le : factors.editComplexity ≤ other.editComplexity
  /-- No more lines change. -/
  codeImpact_le : factors.codeImpact ≤ other.codeImpact
  /-- Callers break only if they may break in the other case, too. -/
  breakingChange_le : factors.breakingChange ≤ other.breakingChange
  /-- The change needs testing only if it does in the other case, too. -/
  testingRequired_le : factors.testingRequired ≤ other.testingRequired
  /-- The rule is at least as reliable. -/
  ruleConfidence_ge : other.ruleConfidence ≤ factors.ruleConfidence

/-! ## The steps of a score -/

theorem clamp_mono {m n : Int} (h : m ≤ n) : clamp m ≤ clamp n :=
  max_le_max le_rfl (min_le_min le_rfl h)

/-- Rounding to an integer keeps the order, on either side of zero. -/
theorem roundTenths_mono {m n : Int} (h : m ≤ n) : roundTenths m ≤ roundTenths n := by
  simp only [roundTenths, Decimal.signedLike, Decimal.divHalfUp]
  split_ifs <;> omega

variable {factors other : Factors}

/-- What the number of edits adds falls as the number grows, as long as there are any. -/
theorem editBonus_anti (hone : 1 ≤ factors.editCount) (h : factors.editCount ≤ other.editCount) :
    other.editBonus ≤ factors.editBonus := by
  unfold editBonus
  split_ifs <;> omega

theorem impactBonus_anti (h : factors.codeImpact ≤ other.codeImpact) :
    other.impactBonus ≤ factors.impactBonus := by
  unfold impactBonus
  split_ifs <;> omega

/-- What is taken off for a fault is not taken off without it. -/
theorem penalty_anti {fault otherFault : Bool} (h : fault ≤ otherFault) {penalty : Int}
    (hpenalty : penalty ≤ 0) :
    (if otherFault then penalty else 0) ≤ if fault then penalty else 0 := by
  cases otherFault with
  | true =>
      rw [if_pos rfl]
      split
      · exact le_rfl
      · exact hpenalty
  | false =>
      have hfault : fault = false := le_bot_iff.mp h
      rw [hfault]

namespace Favors

/-- What is added to the score is at least as much. -/
theorem bonuses_le (h : factors.Favors other) :
    List.Forall₂ (· ≤ ·) other.bonuses factors.bonuses :=
  .cons (editBonus_anti h.one_le_editCount h.editCount_le) <|
    .cons (impactBonus_anti h.codeImpact_le) <|
      .cons (penalty_anti h.breakingChange_le (by decide)) <|
        .cons (penalty_anti h.testingRequired_le (by decide)) .nil

theorem tenths_le (h : factors.Favors other) : other.tenths ≤ factors.tenths :=
  tenths_mono h.ruleConfidence_ge h.editComplexity_le h.bonuses_le

end Favors

/-- Factors that speak for a suggestion have a score at least as high, if both have one. -/
theorem score_le_score (h : factors.Favors other) {m n : Int} (hm : factors.score = .ok m)
    (hn : other.score = .ok n) : n ≤ m := by
  rw [score_eq] at hm hn
  split at hm
  · split at hn
    · rw [← Except.ok.inj hm, ← Except.ok.inj hn]
      exact clamp_mono (roundTenths_mono h.tenths_le)
    · contradiction
  · contradiction

end Factors

/-! ## The edits of a suggestion -/

namespace Suggestion

/-- A suggestion with other edits. -/
def withEdits (suggestion : Suggestion) (edits : List Edit) : Suggestion :=
  { suggestion with edits }

/-- More edits are no less complex. -/
theorem editComplexity_le_append (suggestion : Suggestion) (more : List Edit) :
    suggestion.editComplexity
      ≤ (suggestion.withEdits (suggestion.edits ++ more)).editComplexity := by
  rw [editComplexity_eq_sum, editComplexity_eq_sum, withEdits, List.map_append, List.sum_append]
  omega

/-- The complexity of edits does not depend on their order. -/
theorem editComplexity_of_perm {suggestion : Suggestion} {edits : List Edit}
    (h : edits.Perm suggestion.edits) :
    (suggestion.withEdits edits).editComplexity = suggestion.editComplexity := by
  rw [editComplexity_eq_sum, editComplexity_eq_sum, withEdits, (h.map Edit.complexity).sum_eq]

end Suggestion

namespace Scorer

variable (scorer : Scorer) (suggestion : Suggestion) (ruleId : String)

/-- Edits that are added speak against a suggestion, if at all. -/
theorem favors_append (hedits : suggestion.edits ≠ []) (more : List Edit) :
    (scorer.factors suggestion ruleId).Favors
      (scorer.factors (suggestion.withEdits (suggestion.edits ++ more)) ruleId) where
  one_le_editCount := by
    have hpos := List.length_pos_iff.mpr hedits
    simp only [factors]
    omega
  editCount_le := by
    simp only [factors, Suggestion.withEdits, List.length_append]
    omega
  editComplexity_le := by
    have hle := suggestion.editComplexity_le_append more
    simp only [factors]
    omega
  codeImpact_le := le_rfl
  breakingChange_le := le_rfl
  testingRequired_le := le_rfl
  ruleConfidence_ge := le_rfl

/-- The factors do not tell in which order the edits come. -/
theorem factors_of_perm {edits : List Edit} (h : edits.Perm suggestion.edits) :
    scorer.factors (suggestion.withEdits edits) ruleId = scorer.factors suggestion ruleId := by
  unfold factors
  rw [Suggestion.editComplexity_of_perm h]
  simp only [Suggestion.withEdits, h.length_eq]

variable {scorer suggestion} {violation : Violation}

/-- A rating has the score of the factors. -/
theorem score_of_rate {rated : Suggestion} (h : scorer.rate suggestion violation = .ok rated) :
    (scorer.factors suggestion violation.ruleId).score = .ok rated.score := by
  rw [rate, Except.bind_eq_ok_iff] at h
  obtain ⟨score, hscore, hrated⟩ := h
  rw [← Except.ok.inj hrated]
  exact hscore

/-- A suggestion and the same one with more edits both have a rating, unless the rule is trusted
beyond all measure. -/
theorem exists_rate_append (suggestion : Suggestion) (violation : Violation) (more : List Edit)
    (hle : (scorer.confidenceOf violation.ruleId).natAbs + 100 ≤ 10 ^ 28) :
    ∃ rated longer, scorer.rate suggestion violation = .ok rated
      ∧ scorer.rate (suggestion.withEdits (suggestion.edits ++ more)) violation = .ok longer := by
  have hscorable (suggestion : Suggestion) :
      (scorer.factors suggestion violation.ruleId).IsScorable :=
    (scorer.isWhole_factors suggestion violation.ruleId).isScorable_of_le hle
  obtain ⟨rated, hrated, -⟩ := scorer.exists_rate_eq_ok_iff.mpr (hscorable suggestion)
  obtain ⟨longer, hlonger, -⟩ := scorer.exists_rate_eq_ok_iff.mpr
    (hscorable (suggestion.withEdits (suggestion.edits ++ more)))
  exact ⟨rated, longer, hrated, hlonger⟩

/-- Edits in another order are rated alike. -/
theorem rate_of_perm (suggestion : Suggestion) (violation : Violation) {edits : List Edit}
    (h : edits.Perm suggestion.edits) :
    scorer.rate (suggestion.withEdits edits) violation
      = (scorer.rate suggestion violation).map fun rated => rated.withEdits edits := by
  rw [rate, rate, factors_of_perm _ _ _ h]
  cases (scorer.factors suggestion violation.ruleId).score with
  | error fault => rfl
  | ok score => rfl

/-- Of two tuples of factors the one that speaks for a suggestion at least as much, with one edit or
more, has a score at least as high, if both have one. So edits that are added behind those of a
suggestion do not raise its score, and there is a score with and without them unless the rule is
trusted beyond all measure. Edits in another order leave everything else about a rated suggestion
as it is, and whether it can be rated. -/
theorem score_respects_factors :
    (∀ factors other : Factors, factors.Favors other → ∀ m n : Int, factors.score = .ok m →
        other.score = .ok n → n ≤ m)
      ∧ (∀ (scorer : Scorer) (suggestion : Suggestion) (violation : Violation) (more : List Edit),
          suggestion.edits ≠ [] →
            (∀ rated longer, scorer.rate suggestion violation = .ok rated →
              scorer.rate (suggestion.withEdits (suggestion.edits ++ more)) violation
                  = .ok longer →
                longer.score ≤ rated.score)
              ∧ ((scorer.confidenceOf violation.ruleId).natAbs + 100 ≤ 10 ^ 28 →
                ∃ rated longer, scorer.rate suggestion violation = .ok rated
                  ∧ scorer.rate (suggestion.withEdits (suggestion.edits ++ more)) violation
                      = .ok longer))
      ∧ ∀ (scorer : Scorer) (suggestion : Suggestion) (violation : Violation) (edits : List Edit),
          edits.Perm suggestion.edits →
            scorer.rate (suggestion.withEdits edits) violation
              = (scorer.rate suggestion violation).map fun rated => rated.withEdits edits := by
  refine ⟨?_, ?_, ?_⟩
  · intro factors other hfavors m n hm hn
    exact Factors.score_le_score hfavors hm hn
  · intro scorer suggestion violation more hedits
    constructor
    · intro rated longer hrated hlonger
      have hfavors := scorer.favors_append suggestion violation.ruleId hedits more
      exact Factors.score_le_score hfavors (score_of_rate hrated) (score_of_rate hlonger)
    · exact exists_rate_append suggestion violation more
  · intro scorer suggestion violation edits hperm
    exact rate_of_perm suggestion violation hperm

/-- Factors that are all worse lower a score from 83 to 31, and three more edits lower one from 64
to 35, the complexity reaching its bound. Two edits that change places do not. -/
theorem score_respects_factors_more_edits :
    let factors : Factors := ⟨33, 2, 4, false, true, 95⟩
    let other : Factors := ⟨46, 4, 11, true, true, 90⟩
    let scorer : Scorer := withConfidence []
    let edit := fun (kind : EditKind) (line : Int) => Edit.mk kind line 0 line 3 "any" "unknown" ""
    let suggestion : Suggestion :=
      { id := .given "s-1", ruleId := "ts-no-any", title := "", description := ""
        edits := [edit .replace 1, edit .insert 2], tier := .low, score := 0, reasoning := ""
        impact := ⟨1, .low, true, true, "1 minute"⟩, preview := none }
    let more := [edit .insert 3, edit .move 4, edit .delete 5]
    let swapped := [edit .insert 2, edit .replace 1]
    let violation : Violation :=
      { ruleId := "ts-no-any", message := "", severity := .low, line := 1, column := 1 }
    factors.Favors other ∧ factors.score = .ok 83 ∧ other.score = .ok 31 ∧ (31 : Int) ≤ 83
      ∧ (∃ rated longer, scorer.rate suggestion violation = .ok rated
        ∧ scorer.rate (suggestion.withEdits (suggestion.edits ++ more)) violation = .ok longer
        ∧ rated.score = 64 ∧ longer.score = 35 ∧ longer.score ≤ rated.score)
      ∧ scorer.rate (suggestion.withEdits swapped) violation
        = (scorer.rate suggestion violation).map fun rated => rated.withEdits swapped := by
  intro factors other scorer edit suggestion more swapped violation
  obtain ⟨hfactors, hmore, hperm⟩ := score_respects_factors
  have hfavors : factors.Favors other :=
    ⟨by decide, by decide, by decide, by decide, by decide, by decide, by decide⟩
  have hscore : factors.score = .ok 83 := by
    rw [← Except.toOption_eq_some_iff]
    decide +kernel
  have hother : other.score = .ok 31 := by
    rw [← Except.toOption_eq_some_iff]
    decide +kernel
  obtain ⟨hless, hboth⟩ := hmore scorer suggestion violation more (by decide)
  obtain ⟨rated, longer, hrated, hlonger⟩ := hboth (by decide +kernel)
  have hfirst : (scorer.rate suggestion violation).toOption.map (·.score) = some 64 := by
    decide +kernel
  have hsecond : (scorer.rate (suggestion.withEdits (suggestion.edits ++ more))
      violation).toOption.map (·.score) = some 35 := by
    decide +kernel
  rw [hrated] at hfirst
  rw [hlonger] at hsecond
  refine ⟨hfavors, hscore, hother, hfactors factors other hfavors 83 31 hscore hother,
    ⟨rated, longer, hrated, hlonger, Option.some.inj hfirst, Option.some.inj hsecond,
      hless rated longer hrated hlonger⟩, ?_⟩
  exact hperm scorer suggestion violation swapped (List.Perm.swap _ _ _)

end Scorer

end ScriptAdvisor
