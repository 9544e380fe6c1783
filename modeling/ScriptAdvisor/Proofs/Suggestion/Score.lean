import Mathlib.Algebra.BigOperators.Ring.List
import ScriptAdvisor.Proofs.Except
import ScriptAdvisor.Proofs.Number.Decimal
import ScriptAdvisor.Suggestion.Confidence

/-! # Which suggestions have a score

The score of a suggestion is computed in decimals of 28 digits and moved into the range from 0 to
100 at the very end. So there is none if the sum has more digits than decimals keep.

* `Factors.tenths` is the sum in tenths, told in integers, and `Factors.exactTenths` the same with
  all its digits. `Factors.score_eq` says that the score is the former, rounded and moved into the
  range, unless it has too many digits.
* `IsWhole.tenths_eq` says that the sum is exact below that bound, for edits of whole complexity, as
  all edits of suggestions are (`Scorer.isWhole_factors`).
* `isScorable_of_le` and `IsWhole.not_isScorable_of_le` say at which reliabilities there is a
  score. -/

namespace ScriptAdvisor

namespace Factors

variable (factors : Factors)

/-! ## The sum in tenths -/

/-- What is added to the score, in the order in which it is. -/
def bonuses : List Int :=
  [factors.editBonus, factors.impactBonus, factors.breakingBonus, factors.testingBonus]

/-- Add numbers to a number of tenths, cutting down the sum each time. -/
def addAll (tenths : Int) (bonuses : List Int) : Int :=
  bonuses.foldl (fun tenths bonus => Decimal.nearest (tenths + 10 * bonus)) tenths

/-- What is left of the reliability when the complexity has been taken off, in tenths. -/
def baseTenths : Int :=
  Decimal.nearest (10 * factors.ruleConfidence - Decimal.nearest (factors.editComplexity * 2))

/-- The score before it is rounded, in tenths. -/
def tenths : Int := addAll factors.baseTenths factors.bonuses

/-- The same if no sum were cut down. -/
def exactTenths : Int :=
  10 * (factors.ruleConfidence + factors.bonuses.sum) - 2 * factors.editComplexity

/-- The integer nearest to a number of tenths, a tie away from zero. -/
def roundTenths (tenths : Int) : Int :=
  Decimal.signedLike tenths (Decimal.divHalfUp tenths.natAbs 10)

/-- The sum has no more digits than decimals keep. -/
def IsScorable : Prop := factors.tenths.natAbs < 10 ^ 29

instance : Decidable factors.IsScorable := inferInstanceAs (Decidable (_ < _))

theorem rawScore_tenths : factors.rawScore.Tenths factors.tenths := by
  have hbase := (Decimal.Tenths.ofInt factors.ruleConfidence).sub
    (Decimal.Tenths.ofInt_mul_fifth factors.editComplexity)
  have hedit := hbase.add (Decimal.Tenths.ofInt factors.editBonus)
  have himpact := hedit.add (Decimal.Tenths.ofInt factors.impactBonus)
  have hbreaking := himpact.add (Decimal.Tenths.ofInt factors.breakingBonus)
  exact hbreaking.add (Decimal.Tenths.ofInt factors.testingBonus)

/-- Whether a sum that was cut down has too many digits can be told before it is rounded to an
integer: with so many digits it has none behind the point. -/
theorem divHalfUp_nearest_lt_iff (n : Int) :
    Decimal.divHalfUp (Decimal.nearest n).natAbs 10 < 10 ^ 28
      ↔ (Decimal.nearest n).natAbs < 10 ^ 29 := by
  have hten := Decimal.ten_dvd_nearest (n := n)
  rw [Decimal.divHalfUp]
  split <;> omega

/-- The score is the sum, rounded and moved into the range of scores, unless the sum has too many
digits. -/
theorem score_eq :
    factors.score
      = if factors.IsScorable then .ok (clamp (roundTenths factors.tenths))
        else .error .tooManyDigits := by
  have hdigits : Decimal.divHalfUp factors.tenths.natAbs 10 < 10 ^ 28 ↔ factors.IsScorable :=
    divHalfUp_nearest_lt_iff _
  rw [score, factors.rawScore_tenths.toInt?_eq]
  by_cases h : factors.IsScorable
  · rw [if_pos (hdigits.mpr h), if_pos h, roundTenths]
  · rw [if_neg (fun hlt => h (hdigits.mp hlt)), if_neg h]

theorem clamp_nonneg (n : Int) : 0 ≤ clamp n := le_max_left _ _

theorem clamp_le (n : Int) : clamp n ≤ 100 := max_le (by decide) (min_le_left _ _)

/-! ## Where the sum is exact -/

/-- Sums that keep below a bound lose nothing if no number below it with their last digit does. -/
theorem addAll_eq_of_lt {tenths : Int} {bonuses : List Int} {bound : Nat}
    (hkept : ∀ n : Int, 10 ∣ n - tenths → n.natAbs < bound → Decimal.nearest n = n)
    (h : tenths.natAbs + 10 * (bonuses.map Int.natAbs).sum < bound) :
    addAll tenths bonuses = tenths + 10 * bonuses.sum := by
  induction bonuses generalizing tenths with
  | nil => simp [addAll]
  | cons bonus bonuses ih =>
      rw [List.map_cons, List.sum_cons] at h
      have hnext : Decimal.nearest (tenths + 10 * bonus) = tenths + 10 * bonus :=
        hkept _ (by omega) (by omega)
      calc addAll tenths (bonus :: bonuses)
          = addAll (tenths + 10 * bonus) bonuses := by rw [← hnext]; rfl
        _ = tenths + 10 * bonus + 10 * bonuses.sum :=
            ih (fun n hdigit => hkept n (by omega)) (by omega)
        _ = tenths + 10 * (bonus :: bonuses).sum := by rw [List.sum_cons]; ring

theorem sum_natAbs_bonuses_le : (factors.bonuses.map Int.natAbs).sum ≤ 50 := by
  simp only [bonuses, editBonus, impactBonus, breakingBonus, testingBonus, List.map_cons,
    List.map_nil, List.sum_cons, List.sum_nil]
  split_ifs <;> decide

theorem natAbs_sum_bonuses_le : factors.bonuses.sum.natAbs ≤ 50 := by
  simp only [bonuses, editBonus, impactBonus, breakingBonus, testingBonus, List.sum_cons,
    List.sum_nil]
  split_ifs <;> decide

variable {factors}

/-- The sum is exact if it keeps below a bound up to which no number with its last digit loses
anything. -/
theorem tenths_eq_exactTenths {bound : Nat} (hnonneg : 0 ≤ factors.editComplexity)
    (hhundred : factors.editComplexity ≤ 100)
    (hkept : ∀ n : Int, 10 ∣ n + 2 * factors.editComplexity → n.natAbs < bound →
      Decimal.nearest n = n)
    (h : 10 * (factors.ruleConfidence.natAbs + 70) < bound) :
    factors.tenths = factors.exactTenths := by
  have hbonuses := factors.sum_natAbs_bonuses_le
  have htaken : Decimal.nearest (factors.editComplexity * 2) = factors.editComplexity * 2 :=
    Decimal.nearest_eq_self (by omega)
  have hbase : factors.baseTenths = 10 * factors.ruleConfidence - factors.editComplexity * 2 := by
    rw [baseTenths, htaken]
    exact hkept _ (by omega) (by omega)
  rw [tenths, addAll_eq_of_lt (fun n hdigit => hkept n (by omega)) (by omega), hbase, exactTenths]
  ring

/-- Edits whose complexity is taken off in whole numbers, up to 100 of it. -/
structure IsWhole (factors : Factors) : Prop where
  /-- A fifth of the complexity is an integer. -/
  five_dvd : 5 ∣ factors.editComplexity
  /-- The complexity is not negative. -/
  nonneg : 0 ≤ factors.editComplexity
  /-- It is at most 100. -/
  le : factors.editComplexity ≤ 100

/-- Up to a reliability of almost `10 ^ 28` in either direction the sum is exact. -/
theorem IsWhole.tenths_eq (h : factors.IsWhole)
    (hle : factors.ruleConfidence.natAbs + 100 ≤ 10 ^ 28) :
    factors.tenths = factors.exactTenths := by
  have hfive := h.five_dvd
  have hkept (n : Int) (hdigit : 10 ∣ n + 2 * factors.editComplexity) (hlt : n.natAbs < 10 ^ 29) :
      Decimal.nearest n = n :=
    Decimal.nearest_of_ten_dvd (by omega) hlt
  exact tenths_eq_exactTenths h.nonneg h.le hkept (by omega)

/-! ## Greater and lesser sums -/

/-- Greater numbers have greater sums. -/
theorem addAll_mono {tenths tenths' : Int} {bonuses bonuses' : List Int} (h : tenths ≤ tenths')
    (hbonuses : List.Forall₂ (· ≤ ·) bonuses bonuses') :
    addAll tenths bonuses ≤ addAll tenths' bonuses' := by
  induction hbonuses generalizing tenths tenths' with
  | nil => exact h
  | cons hbonus _ ih => exact ih (Decimal.nearest_mono (by omega))

/-- Of a more reliable rule more is left, and with a simpler edit, too. -/
theorem baseTenths_mono {other : Factors}
    (hreliable : other.ruleConfidence ≤ factors.ruleConfidence)
    (hcomplexity : factors.editComplexity ≤ other.editComplexity) :
    other.baseTenths ≤ factors.baseTenths := by
  have htaken : Decimal.nearest (factors.editComplexity * 2)
      ≤ Decimal.nearest (other.editComplexity * 2) :=
    Decimal.nearest_mono (by omega)
  unfold baseTenths
  apply Decimal.nearest_mono
  omega

theorem tenths_mono {other : Factors} (hreliable : other.ruleConfidence ≤ factors.ruleConfidence)
    (hcomplexity : factors.editComplexity ≤ other.editComplexity)
    (hbonuses : List.Forall₂ (· ≤ ·) other.bonuses factors.bonuses) :
    other.tenths ≤ factors.tenths :=
  addAll_mono (baseTenths_mono hreliable hcomplexity) hbonuses

/-! ## Where there is a score -/

/-- The factors of an edit of another complexity. -/
def withComplexity (factors : Factors) (complexity : Int) : Factors :=
  { factors with editComplexity := complexity }

@[simp] theorem exactTenths_withComplexity (factors : Factors) (complexity : Int) :
    (factors.withComplexity complexity).exactTenths
      = 10 * (factors.ruleConfidence + factors.bonuses.sum) - 2 * complexity := rfl

/-- There is a score up to a reliability of almost `10 ^ 28` in either direction: the sum lies
between those of the complexities 0 and 100, which are exact. -/
theorem isScorable_of_le (hnonneg : 0 ≤ factors.editComplexity)
    (hhundred : factors.editComplexity ≤ 100)
    (hle : factors.ruleConfidence.natAbs + 100 ≤ 10 ^ 28) : factors.IsScorable := by
  have hsum := factors.natAbs_sum_bonuses_le
  have hsimple : (factors.withComplexity 0).IsWhole :=
    ⟨show (5 : Int) ∣ 0 by decide, show (0 : Int) ≤ 0 by decide, show (0 : Int) ≤ 100 by decide⟩
  have hcomplex : (factors.withComplexity 100).IsWhole :=
    ⟨show (5 : Int) ∣ 100 by decide, show (0 : Int) ≤ 100 by decide,
      show (100 : Int) ≤ 100 by decide⟩
  have hgreatest : factors.tenths ≤ (factors.withComplexity 0).tenths :=
    tenths_mono le_rfl hnonneg (List.forall₂_refl _)
  have hleast : (factors.withComplexity 100).tenths ≤ factors.tenths :=
    tenths_mono le_rfl hhundred (List.forall₂_refl _)
  rw [hsimple.tenths_eq hle, exactTenths_withComplexity] at hgreatest
  rw [hcomplex.tenths_eq hle, exactTenths_withComplexity] at hleast
  rw [IsScorable]
  omega

theorem IsWhole.isScorable_of_le (h : factors.IsWhole)
    (hle : factors.ruleConfidence.natAbs + 100 ≤ 10 ^ 28) : factors.IsScorable :=
  Factors.isScorable_of_le h.nonneg h.le hle

/-! ## Where the sum has too many digits -/

theorem bonuses_ge : List.Forall₂ (· ≤ ·) [-15, -10, -20, -5] factors.bonuses := by
  simp only [bonuses, editBonus, impactBonus, breakingBonus, testingBonus,
    List.forall₂_cons, List.forall₂_nil_left_iff]
  split_ifs <;> decide

theorem bonuses_le : List.Forall₂ (· ≤ ·) factors.bonuses [10, 10, 0, 0] := by
  simp only [bonuses, editBonus, impactBonus, breakingBonus, testingBonus,
    List.forall₂_cons, List.forall₂_nil_left_iff]
  split_ifs <;> decide

/-- From a reliability little above `10 ^ 28` on, in either direction, there is no score. -/
theorem IsWhole.not_isScorable_of_le (h : factors.IsWhole)
    (hle : 10 ^ 28 + 100 ≤ factors.ruleConfidence.natAbs) : ¬ factors.IsScorable := by
  have hnonneg := h.nonneg
  have hhundred := h.le
  have htaken : Decimal.nearest (factors.editComplexity * 2) = factors.editComplexity * 2 :=
    Decimal.nearest_eq_self (by omega)
  rw [IsScorable, not_lt]
  rcases le_total 0 factors.ruleConfidence with hpos | hneg
  · have hbase : Decimal.nearest (10 * (10 ^ 28 + 100) - 200) ≤ factors.baseTenths := by
      rw [baseTenths, htaken]
      exact Decimal.nearest_mono (by omega)
    have hleast : (10 : Int) ^ 29
        ≤ addAll (Decimal.nearest (10 * (10 ^ 28 + 100) - 200)) [-15, -10, -20, -5] := by
      decide +kernel
    have htenths : (10 : Int) ^ 29 ≤ factors.tenths :=
      hleast.trans (addAll_mono hbase bonuses_ge)
    omega
  · have hbase : factors.baseTenths ≤ Decimal.nearest (10 * -(10 ^ 28 + 100)) := by
      rw [baseTenths, htaken]
      exact Decimal.nearest_mono (by omega)
    have hgreatest :
        addAll (Decimal.nearest (10 * -(10 ^ 28 + 100))) [10, 10, 0, 0] ≤ -(10 : Int) ^ 29 := by
      decide +kernel
    have htenths : factors.tenths ≤ -(10 : Int) ^ 29 :=
      (addAll_mono hbase bonuses_le).trans hgreatest
    omega

end Factors

/-! ## Suggestions -/

/-- The complexities that an edit can have. -/
theorem Edit.complexity_cases (edit : Edit) :
    edit.complexity = 10 ∨ edit.complexity = 20 ∨ edit.complexity = 40 := by
  rw [complexity]
  split
  · split <;> decide
  all_goals decide

/-- The complexity of edits comes in tens. -/
theorem Edit.ten_dvd_complexity (edit : Edit) : 10 ∣ edit.complexity := by
  rcases edit.complexity_cases with h | h | h <;> rw [h] <;> decide

/-- The complexity of edits is that of each of them, together. -/
theorem Suggestion.editComplexity_eq_sum (suggestion : Suggestion) :
    suggestion.editComplexity = min (suggestion.edits.map Edit.complexity).sum 100 := by
  rw [editComplexity, List.sum_eq_foldl, List.foldl_map]

theorem Suggestion.ten_dvd_editComplexity (suggestion : Suggestion) :
    10 ∣ suggestion.editComplexity := by
  have hsum : 10 ∣ (suggestion.edits.map Edit.complexity).sum := by
    apply List.dvd_sum
    rw [List.forall_mem_map]
    exact fun edit _ => edit.ten_dvd_complexity
  rw [editComplexity_eq_sum]
  rcases min_choice (suggestion.edits.map Edit.complexity).sum 100 with h | h
  · rw [h]
    exact hsum
  · rw [h]
    decide

namespace Scorer

variable (scorer : Scorer)

theorem isWhole_factors (suggestion : Suggestion) (ruleId : String) :
    (scorer.factors suggestion ruleId).IsWhole := by
  have hten := suggestion.ten_dvd_editComplexity
  have hle : suggestion.editComplexity ≤ 100 := min_le_right _ _
  refine ⟨?_, ?_, ?_⟩ <;> simp only [factors] <;> omega

end Scorer

end ScriptAdvisor
