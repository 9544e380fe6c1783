import Mathlib.Algebra.Order.Field.Basic
import Mathlib.Algebra.Order.Field.Rat
import Mathlib.Tactic.Linarith
import ScriptAdvisor.Proofs.Suggestion.Score

/-! # The score as an integer formula

Decimals lose digits and have a rule for ties, but no score shows it: it is the integer nearest to
the exact sum, moved into the range from 0 to 100. A sum is exact unless the reliability is far
beyond that range, and then so is the sum, whatever digits it loses. And a fifth of an integer is an
even number of tenths, so that no sum lies half-way between two integers.

* `IsNearest` says that no integer is nearer to a number than this one. To an even number of tenths
  there is only one (`isNearest_tenths_iff_of_even`).
* `Factors.exactScore` is the exact sum, `Factors.nearestScore` the integer nearest to it, computed
  with integers alone. `Factors.clamp_tenths` says that lost digits do not lead to another score.
* `Factors.score_eq_nearest` puts the steps together. -/

namespace ScriptAdvisor

/-! ## The nearest integer -/

/-- No integer is nearer to the number. -/
def IsNearest (x : ℚ) (n : Int) : Prop := ∀ k : Int, |x - n| ≤ |x - k|

theorem abs_tenths_sub (m k : Int) : |(m : ℚ) / 10 - k| = ((m - 10 * k).natAbs : ℚ) / 10 := by
  have hdiff : (m : ℚ) / 10 - k = ((m - 10 * k : Int) : ℚ) / 10 := by
    push_cast
    ring
  rw [hdiff, abs_div, Nat.cast_natAbs, Int.cast_abs, abs_of_pos (show (0 : ℚ) < 10 by norm_num)]

/-- Of tenths all distances are integers. -/
theorem isNearest_tenths_iff (m n : Int) :
    IsNearest (m / 10) n ↔ ∀ k : Int, (m - 10 * n).natAbs ≤ (m - 10 * k).natAbs := by
  refine forall_congr' fun k => ?_
  rw [abs_tenths_sub, abs_tenths_sub, div_le_div_iff_of_pos_right (by norm_num), Nat.cast_le]

/-- An even number of tenths is at most four of them away from the nearest integer, so there is no
other. -/
theorem isNearest_tenths_iff_of_even {m : Int} (heven : 2 ∣ m) (n : Int) :
    IsNearest (m / 10) n ↔ n = (m + 5) / 10 := by
  rw [isNearest_tenths_iff]
  constructor
  · intro hnearest
    -- four tenths at most, and every other integer is six away at least
    have hle := hnearest ((m + 5) / 10)
    omega
  · rintro rfl k
    omega

theorem tenths_ne_half_of_even {m : Int} (heven : 2 ∣ m) (k : Int) : (m : ℚ) / 10 ≠ k + 1 / 2 := by
  intro hhalf
  have hodd : (m : ℚ) = (10 * k + 5 : Int) := by
    push_cast
    linarith
  rw [Int.cast_inj] at hodd
  omega

namespace Factors

/-- Without ties the sign of a number does not matter to how it is rounded. -/
theorem roundTenths_of_even {m : Int} (heven : 2 ∣ m) : roundTenths m = (m + 5) / 10 := by
  simp only [roundTenths, Decimal.signedLike, Decimal.divHalfUp]
  split_ifs <;> omega

variable (factors : Factors)

/-! ## The exact sum -/

/-- The sum if it loses no digits. -/
def exactScore : ℚ :=
  factors.ruleConfidence + factors.bonuses.sum - factors.editComplexity / 5

/-- The integer nearest to the exact sum, computed with integers. -/
def nearestScore : Int := (factors.exactTenths + 5) / 10

theorem exactScore_eq : factors.exactScore = factors.exactTenths / 10 := by
  rw [exactScore, exactTenths]
  push_cast
  ring

theorem two_dvd_exactTenths : 2 ∣ factors.exactTenths := by
  rw [exactTenths]
  omega

theorem two_dvd_addAll {tenths : Int} (heven : 2 ∣ tenths) (bonuses : List Int) :
    2 ∣ addAll tenths bonuses := by
  induction bonuses generalizing tenths with
  | nil => exact heven
  | cons bonus bonuses ih => exact ih (Decimal.two_dvd_nearest (by omega))

/-- The digits that are lost do not make the tenths odd. -/
theorem two_dvd_tenths : 2 ∣ factors.tenths := by
  have htaken : 2 ∣ Decimal.nearest (factors.editComplexity * 2) :=
    Decimal.two_dvd_nearest (Int.dvd_mul_left _ _)
  exact two_dvd_addAll (Decimal.two_dvd_nearest (by omega)) _

/-! ## Far beyond the range -/

/-- The factors with a rule of another reliability. -/
def withReliability (reliability : Int) : Factors := { factors with ruleConfidence := reliability }

@[simp] theorem exactTenths_withReliability (reliability : Int) :
    (factors.withReliability reliability).exactTenths
      = 10 * (reliability + factors.bonuses.sum) - 2 * factors.editComplexity := rfl

variable {factors}

/-- Up to a reliability of almost `10 ^ 27` in either direction the sum is exact, with whatever
complexity. -/
theorem tenths_eq_of_le (hnonneg : 0 ≤ factors.editComplexity)
    (hhundred : factors.editComplexity ≤ 100)
    (hle : factors.ruleConfidence.natAbs + 100 ≤ 10 ^ 27) :
    factors.tenths = factors.exactTenths :=
  tenths_eq_exactTenths hnonneg hhundred (fun _ _ => Decimal.nearest_eq_self) (by omega)

/-- The lost digits cannot be seen in the range of scores. -/
theorem clamp_tenths (hnonneg : 0 ≤ factors.editComplexity)
    (hhundred : factors.editComplexity ≤ 100) :
    clamp ((factors.tenths + 5) / 10) = clamp factors.nearestScore := by
  have hsum := factors.natAbs_sum_bonuses_le
  rw [nearestScore]
  by_cases hnear : factors.ruleConfidence.natAbs ≤ 1000
  · rw [tenths_eq_of_le hnonneg hhundred (by omega)]
  · -- so far away nothing that is added or taken off leads back into the range
    rcases le_total 0 factors.ruleConfidence with hpos | hneg
    · have hexact : (factors.withReliability 1000).tenths = _ :=
        tenths_eq_of_le hnonneg hhundred (show (1000 : Int).natAbs + 100 ≤ _ by decide)
      have hleast : (factors.withReliability 1000).tenths ≤ factors.tenths :=
        tenths_mono (show (1000 : Int) ≤ _ by omega) le_rfl (List.forall₂_refl _)
      rw [hexact, exactTenths_withReliability] at hleast
      simp only [clamp, exactTenths]
      omega
    · have hexact : (factors.withReliability (-1000)).tenths = _ :=
        tenths_eq_of_le hnonneg hhundred (show (-1000 : Int).natAbs + 100 ≤ _ by decide)
      have hgreatest : factors.tenths ≤ (factors.withReliability (-1000)).tenths :=
        tenths_mono (show _ ≤ (-1000 : Int) by omega) le_rfl (List.forall₂_refl _)
      rw [hexact, exactTenths_withReliability] at hgreatest
      simp only [clamp, exactTenths]
      omega

/-! ## The score -/

theorem score_eq_clamp {score : Int} (hnonneg : 0 ≤ factors.editComplexity)
    (hhundred : factors.editComplexity ≤ 100) (hscore : factors.score = .ok score) :
    score = clamp factors.nearestScore := by
  rw [score_eq] at hscore
  split at hscore
  · rw [← Except.ok.inj hscore, roundTenths_of_even factors.two_dvd_tenths]
    exact clamp_tenths hnonneg hhundred
  · contradiction

theorem isNearest_exactScore_iff (n : Int) :
    IsNearest factors.exactScore n ↔ n = factors.nearestScore := by
  rw [exactScore_eq]
  exact isNearest_tenths_iff_of_even factors.two_dvd_exactTenths n

theorem isNearest_rawScore_iff (n : Int) :
    IsNearest factors.rawScore.value n ↔ n = (factors.tenths + 5) / 10 := by
  rw [factors.rawScore_tenths.value_eq]
  exact isNearest_tenths_iff_of_even factors.two_dvd_tenths n

/-- Let an edit have a complexity from 0 to 100. A score is the integer nearest to the reliability
with all bonuses and penalties and without a fifth of the complexity, moved into the range of
scores. There is just one nearest integer, and it can be computed with integers alone. Neither the
exact sum nor the one that is computed in decimals is half-way between two integers, so that every
way to round to a nearest integer leads to the same score. There is a score at least up to a
reliability of `10 ^ 28 - 100` in either direction. -/
theorem score_eq_nearest (factors : Factors) (hnonneg : 0 ≤ factors.editComplexity)
    (hhundred : factors.editComplexity ≤ 100) :
    (∀ n : Int, IsNearest factors.exactScore n ↔ n = factors.nearestScore)
      ∧ (∀ score : Int, factors.score = .ok score → score = max 0 (min 100 factors.nearestScore))
      ∧ (∀ k : Int, factors.exactScore ≠ k + 1 / 2 ∧ factors.rawScore.value ≠ k + 1 / 2)
      ∧ (∀ rounding : ℚ → Int, (∀ x, IsNearest x (rounding x)) →
          ∀ score : Int, factors.score = .ok score →
            score = max 0 (min 100 (rounding factors.exactScore))
              ∧ score = max 0 (min 100 (rounding factors.rawScore.value)))
      ∧ (factors.ruleConfidence.natAbs + 100 ≤ 10 ^ 28 → ∃ score, factors.score = .ok score) := by
  refine ⟨isNearest_exactScore_iff, ?_, ?_, ?_, ?_⟩
  · intro score hscore
    exact score_eq_clamp hnonneg hhundred hscore
  · intro k
    rw [exactScore_eq, factors.rawScore_tenths.value_eq]
    exact ⟨tenths_ne_half_of_even factors.two_dvd_exactTenths k,
      tenths_ne_half_of_even factors.two_dvd_tenths k⟩
  · intro rounding hrounding score hscore
    have hclamp := score_eq_clamp hnonneg hhundred hscore
    constructor
    · rw [(isNearest_exactScore_iff _).mp (hrounding factors.exactScore)]
      exact hclamp
    · rw [(isNearest_rawScore_iff _).mp (hrounding factors.rawScore.value), hclamp]
      exact (clamp_tenths hnonneg hhundred).symm
  · intro hle
    rw [score_eq, if_pos (isScorable_of_le hnonneg hhundred hle)]
    exact ⟨_, rfl⟩

/-- A sum of 83.4 has the score 83. One of almost `10 ^ 28` loses a digit, as it is not a whole
number, and has the score that it would have with it. -/
theorem score_eq_nearest_lost_digit :
    let usual : Factors := ⟨33, 2, 4, false, true, 95⟩
    let huge : Factors := ⟨33, 2, 4, false, true, 10 ^ 28 - 100⟩
    usual.score = .ok 83 ∧ IsNearest usual.exactScore 83
      ∧ huge.tenths ≠ huge.exactTenths ∧ huge.score = .ok 100 := by
  intro usual huge
  obtain ⟨hnearest, hclamp, -, -, hexists⟩ := score_eq_nearest usual (by decide) (by decide)
  obtain ⟨score, hscore⟩ := hexists (by decide)
  obtain ⟨-, hclamp', -, -, hexists'⟩ := score_eq_nearest huge (by decide) (by decide)
  obtain ⟨score', hscore'⟩ := hexists' (by decide)
  have husual : max 0 (min 100 usual.nearestScore) = 83 := by decide
  have hhuge : max 0 (min 100 huge.nearestScore) = 100 := by decide
  have hlost : huge.tenths ≠ huge.exactTenths := by decide +kernel
  rw [hscore, hclamp score hscore, husual, hscore', hclamp' score' hscore', hhuge]
  exact ⟨rfl, (hnearest 83).mpr (by decide), hlost, rfl⟩

end Factors

end ScriptAdvisor
