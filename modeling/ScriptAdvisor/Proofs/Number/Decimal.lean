import Mathlib.Algebra.Order.Ring.Int
import Mathlib.Tactic.NormNum
import Mathlib.Tactic.Ring
import Mathlib.Tactic.Set
import ScriptAdvisor.Number.Decimal

/-! # Decimals as numbers of tenths

Sums and products of decimals with at most one digit behind the point, told in integers: a decimal
stands for a number of tenths, and an operation on decimals is the one on integers with the result
cut down to 28 significant digits.

* `Decimal.nearest` cuts an integer down. It is monotone (`nearest_mono`) and leaves alone what has
  no digits to lose (`nearest_eq_self`, `nearest_of_ten_dvd`). What is even stays even
  (`two_dvd_nearest`).
* `Decimal.Tenths` says for how many tenths a decimal stands. `Tenths.add`, `Tenths.sub` and
  `Tenths.ofInt_mul_fifth` are the operations, and `Tenths.toInt?_eq` is what rounding to an integer
  comes to. -/

namespace ScriptAdvisor.Decimal

/-! ## Digits -/

theorem digitCount_le_iff {n count : Nat} (hcount : 0 < count) :
    digitCount n ≤ count ↔ n < 10 ^ count :=
  Nat.length_toDigits_le_iff (by decide) hcount

theorem digitCount_pos (n : Nat) : 0 < digitCount n := Nat.length_toDigits_pos

theorem lt_pow_digitCount (n : Nat) : n < 10 ^ digitCount n :=
  (digitCount_le_iff (digitCount_pos n)).mp le_rfl

theorem pow_le_of_lt_digitCount {n count : Nat} (hcount : 0 < count) (h : count < digitCount n) :
    10 ^ count ≤ n := by
  by_contra hlt
  exact absurd ((digitCount_le_iff hcount).mpr (not_le.mp hlt)) (not_le.mpr h)

theorem digitCount_mono {m n : Nat} (h : m ≤ n) : digitCount m ≤ digitCount n :=
  (digitCount_le_iff (digitCount_pos n)).mpr (h.trans_lt (lt_pow_digitCount n))

/-- Zeros at the end are digits. -/
theorem digitCount_mul_pow {n : Nat} (hn : 0 < n) (zeros : Nat) :
    digitCount (n * 10 ^ zeros) = digitCount n + zeros := by
  have hpow : 0 < 10 ^ zeros := Nat.pow_pos (by decide)
  apply le_antisymm
  · rw [digitCount_le_iff (by have := digitCount_pos n; omega), pow_add]
    exact Nat.mul_lt_mul_of_pos_right (lt_pow_digitCount n) hpow
  · by_contra hfew
    rw [not_le] at hfew
    -- with fewer digits the number would lie below the power of ten it has reached
    have hlow : 10 ^ (digitCount n - 1) ≤ n := by
      rcases Nat.eq_zero_or_pos (digitCount n - 1) with hone | hmore
      · rw [hone]
        exact hn
      · exact pow_le_of_lt_digitCount hmore (by have := digitCount_pos n; omega)
    have hhigh : n * 10 ^ zeros < 10 ^ (digitCount n - 1 + zeros) :=
      (lt_pow_digitCount _).trans_le (Nat.pow_le_pow_right (by decide) (by omega))
    rw [pow_add] at hhigh
    exact absurd (Nat.lt_of_mul_lt_mul_right hhigh) (not_lt.mpr hlow)

/-! ## Division with rounding -/

theorem divHalfEven_mul_right (n d : Nat) {factor : Nat} (hfactor : 0 < factor) :
    divHalfEven (n * factor) (d * factor) = divHalfEven n d := by
  have hrest : 2 * (n * factor % (d * factor)) = 2 * (n % d) * factor := by
    rw [Nat.mul_mod_mul_right, mul_assoc]
  rw [divHalfEven, divHalfEven]
  simp only [hrest, Nat.mul_div_mul_right _ _ hfactor, Nat.mul_lt_mul_right hfactor,
    Nat.mul_left_inj hfactor.ne']

theorem divHalfEven_mul_self (n : Nat) {d : Nat} (hd : 0 < d) : divHalfEven (n * d) d = n := by
  rw [divHalfEven]
  simp [hd]

theorem divHalfEven_mono {m n : Nat} (d : Nat) (h : m ≤ n) :
    divHalfEven m d ≤ divHalfEven n d := by
  have hdiv := Nat.div_le_div_right (c := d) h
  have hm := Nat.div_add_mod m d
  have hn := Nat.div_add_mod n d
  rcases hdiv.lt_or_eq with hlt | heq
  · simp only [divHalfEven]
    split <;> split <;> omega
  · -- with the same quotient the greater number has the greater rest
    have hrest : m % d ≤ n % d := by
      rw [heq] at hm
      omega
    simp only [divHalfEven, heq]
    split <;> split <;> omega

/-! ## Significant digits -/

/-- What the last significant digit of `n` counts. -/
def unit (n : Nat) : Nat := 10 ^ (digitCount n - precision)

/-- The multiple of the unit of `n` that is nearest to `n`, a tie to the even one. -/
def nearestNat (n : Nat) : Nat := divHalfEven n (unit n) * unit n

/-- The integer nearest to `n` among those with at most 28 significant digits, a tie to the even
one. -/
def nearest (n : Int) : Int := signedLike n (nearestNat n.natAbs)

theorem unit_pos (n : Nat) : 0 < unit n := Nat.pow_pos (by decide)

theorem unit_eq_one {n : Nat} (h : digitCount n ≤ precision) : unit n = 1 := by
  rw [unit, Nat.sub_eq_zero_of_le h, pow_zero]

theorem unit_dvd_pow {n zeros : Nat} (h : digitCount n ≤ zeros + precision) :
    unit n ∣ 10 ^ zeros :=
  Nat.pow_dvd_pow 10 (by omega)

/-- A number with no digits to lose is left alone. -/
theorem nearestNat_of_unit_dvd {n : Nat} (h : unit n ∣ n) : nearestNat n = n := by
  obtain ⟨count, hcount⟩ := h
  rw [mul_comm] at hcount
  calc nearestNat n = divHalfEven (count * unit n) (unit n) * unit n := by rw [← hcount, nearestNat]
    _ = count * unit n := by rw [divHalfEven_mul_self _ (unit_pos n)]
    _ = n := hcount.symm

theorem nearestNat_of_digitCount_le {n : Nat} (h : digitCount n ≤ precision) :
    nearestNat n = n := by
  refine nearestNat_of_unit_dvd ?_
  rw [unit_eq_one h]
  exact one_dvd n

/-- Rounding does not pass a multiple of the unit. -/
theorem le_nearestNat {n bound : Nat} (hdvd : unit n ∣ bound) (h : bound ≤ n) :
    bound ≤ nearestNat n := by
  obtain ⟨count, rfl⟩ := hdvd
  have hcount := divHalfEven_mono (unit n) h
  rw [mul_comm, divHalfEven_mul_self _ (unit_pos n)] at hcount
  rw [nearestNat, mul_comm (unit n)]
  exact Nat.mul_le_mul_right _ hcount

theorem nearestNat_le {n bound : Nat} (hdvd : unit n ∣ bound) (h : n ≤ bound) :
    nearestNat n ≤ bound := by
  obtain ⟨count, rfl⟩ := hdvd
  have hcount := divHalfEven_mono (unit n) h
  rw [mul_comm, divHalfEven_mul_self _ (unit_pos n)] at hcount
  rw [nearestNat, mul_comm (unit n)]
  exact Nat.mul_le_mul_right _ hcount

theorem nearestNat_mono {m n : Nat} (h : m ≤ n) : nearestNat m ≤ nearestNat n := by
  rcases (digitCount_mono h).lt_or_eq with hdigits | hdigits
  · rcases Nat.lt_or_ge precision (digitCount n) with hmany | hfew
    · -- the power of ten at which the digits become more lies between the two
      have hm : m ≤ 10 ^ (digitCount n - 1) :=
        (lt_pow_digitCount m).le.trans (Nat.pow_le_pow_right (by decide) (by omega))
      have hn : 10 ^ (digitCount n - 1) ≤ n :=
        pow_le_of_lt_digitCount (by unfold precision at hmany; omega) (by omega)
      exact (nearestNat_le (unit_dvd_pow (by omega)) hm).trans
        (le_nearestNat (unit_dvd_pow (by unfold precision at *; omega)) hn)
    · rw [nearestNat_of_digitCount_le hfew, nearestNat_of_digitCount_le (hdigits.le.trans hfew)]
      exact h
  · rw [nearestNat, nearestNat, unit, unit, hdigits]
    exact Nat.mul_le_mul_right _ (divHalfEven_mono (unit n) h)

theorem nearest_natCast (n : Nat) : nearest n = nearestNat n := by
  rw [nearest, signedLike, if_neg (by omega), Int.natAbs_natCast]

theorem natAbs_nearest (n : Int) : (nearest n).natAbs = nearestNat n.natAbs := by
  rw [nearest, signedLike]
  split <;> omega

@[simp] theorem nearest_neg (n : Int) : nearest (-n) = -nearest n := by
  have hzero : nearestNat 0 = 0 := by decide
  rw [nearest, nearest, signedLike, signedLike, Int.natAbs_neg]
  rcases lt_trichotomy n 0 with hn | rfl | hn
  · rw [if_neg (by omega), if_pos hn, neg_neg]
  · simp [hzero]
  · rw [if_pos (by omega), if_neg (by omega)]

theorem nearest_mono {m n : Int} (h : m ≤ n) : nearest m ≤ nearest n := by
  have hnonneg : ∀ k : Nat, 0 ≤ nearest k := fun k => by
    rw [nearest_natCast]
    exact Int.natCast_nonneg _
  rcases le_total 0 m with hm | hm
  · obtain ⟨a, rfl⟩ := Int.eq_ofNat_of_zero_le hm
    obtain ⟨b, rfl⟩ := Int.eq_ofNat_of_zero_le (hm.trans h)
    rw [nearest_natCast, nearest_natCast]
    exact_mod_cast nearestNat_mono (by exact_mod_cast h)
  · obtain ⟨a, rfl⟩ := Int.exists_eq_neg_ofNat hm
    rw [nearest_neg]
    rcases le_total 0 n with hn | hn
    · obtain ⟨b, rfl⟩ := Int.eq_ofNat_of_zero_le hn
      have ha := hnonneg a
      have hb := hnonneg b
      omega
    · obtain ⟨b, rfl⟩ := Int.exists_eq_neg_ofNat hn
      rw [nearest_neg, nearest_natCast, nearest_natCast, neg_le_neg_iff]
      exact_mod_cast nearestNat_mono (by omega)

/-- An integer with no digits to lose is left alone. -/
theorem nearest_of_unit_dvd {n : Int} (h : unit n.natAbs ∣ n.natAbs) : nearest n = n := by
  rw [nearest, nearestNat_of_unit_dvd h, signedLike]
  split <;> omega

/-- So is one of at most 28 digits. -/
theorem nearest_eq_self {n : Int} (h : n.natAbs < 10 ^ 28) : nearest n = n := by
  have hdigits : digitCount n.natAbs ≤ precision := (digitCount_le_iff (by decide)).mpr h
  refine nearest_of_unit_dvd ?_
  rw [unit_eq_one hdigits]
  exact one_dvd _

/-- So is one of 29 digits of which the last is zero. -/
theorem nearest_of_ten_dvd {n : Int} (hdvd : 10 ∣ n) (h : n.natAbs < 10 ^ 29) :
    nearest n = n := by
  have hdigits : digitCount n.natAbs ≤ 1 + precision := (digitCount_le_iff (by decide)).mpr h
  refine nearest_of_unit_dvd ((unit_dvd_pow hdigits).trans ?_)
  rw [pow_one]
  exact Int.natAbs_dvd_natAbs.mpr hdvd

/-- What has more than 28 digits loses the last of them. -/
theorem ten_dvd_nearest_of_le {n : Int} (h : 10 ^ 28 ≤ n.natAbs) : 10 ∣ nearest n := by
  have hmany : precision < digitCount n.natAbs := by
    by_contra hfew
    exact absurd ((digitCount_le_iff (by decide)).mp (not_lt.mp hfew)) (not_lt.mpr h)
  have hunit : 10 ∣ unit n.natAbs := by
    rw [unit]
    exact dvd_pow_self 10 (by omega)
  rw [← Int.natAbs_dvd_natAbs, natAbs_nearest]
  exact hunit.trans (Nat.dvd_mul_left _ _)

/-- What has more than 28 digits after it was cut down has lost the last of them. -/
theorem ten_dvd_nearest {n : Int} (h : 10 ^ 28 ≤ (nearest n).natAbs) : 10 ∣ nearest n := by
  rcases Nat.lt_or_ge n.natAbs (10 ^ 28) with hfew | hmany
  · rw [nearest_eq_self hfew] at h
    exact absurd h (not_le.mpr hfew)
  · exact ten_dvd_nearest_of_le hmany

/-- An even number stays even: its last digit stays, or is lost and then a zero. -/
theorem two_dvd_nearest {n : Int} (h : 2 ∣ n) : 2 ∣ nearest n := by
  rcases Nat.lt_or_ge n.natAbs (10 ^ 28) with hfew | hmany
  · rw [nearest_eq_self hfew]
    exact h
  · have hten := ten_dvd_nearest_of_le hmany
    omega

/-- What is kept has at most 28 digits, but for a power of ten that rounding up carries into. -/
theorem ten_dvd_kept (n : Nat) (hcarry : ¬ digitCount (divHalfEven n (unit n)) ≤ precision) :
    10 ∣ divHalfEven n (unit n) := by
  have hle : divHalfEven n (unit n) ≤ 10 ^ 28 := by
    have hbound : n ≤ 10 ^ 28 * unit n := by
      rw [unit, ← pow_add]
      refine (lt_pow_digitCount n).le.trans (Nat.pow_le_pow_right (by decide) ?_)
      unfold precision
      omega
    have hmono := divHalfEven_mono (unit n) hbound
    rwa [divHalfEven_mul_self _ (unit_pos n)] at hmono
  have hge : 10 ^ 28 ≤ divHalfEven n (unit n) := by
    by_contra hlt
    exact hcarry ((digitCount_le_iff (by decide)).mpr (not_le.mp hlt))
  rw [le_antisymm hle hge]
  decide

/-! ## Decimals -/

/-- The number that a decimal is written for. -/
def value (x : Decimal) : ℚ := x.coefficient * 10 ^ x.exponent

/-- The decimal stands for `n` tenths. -/
structure Tenths (x : Decimal) (n : Int) : Prop where
  /-- There is at most one digit behind the point. -/
  exponent_ge : -1 ≤ x.exponent
  /-- So many tenths make up the value. -/
  coefficient_eq : x.coefficient * 10 ^ (x.exponent + 1).toNat = n

theorem signedLike_mul (sign : Int) (magnitude factor : Nat) :
    signedLike sign magnitude * factor = signedLike sign (magnitude * factor) := by
  rw [signedLike, signedLike]
  split <;> push_cast <;> ring

theorem signedLike_div_ten_mul (sign : Int) {magnitude : Nat} (h : 10 ∣ magnitude) :
    signedLike sign (magnitude / 10) * 10 = signedLike sign magnitude := by
  rw [show (10 : Int) = (10 : Nat) from rfl, signedLike_mul, Nat.div_mul_cancel h]

/-- The sign of a product with a positive factor. -/
theorem signedLike_mul_left (sign : Int) (magnitude : Nat) {factor : Int} (h : 0 < factor) :
    signedLike (sign * factor) magnitude = signedLike sign magnitude := by
  have hsign : sign * factor < 0 ↔ sign < 0 := by
    rw [mul_neg_iff]
    constructor
    · rintro (hpos | hneg)
      · omega
      · exact hneg.1
    · exact fun hneg => Or.inr ⟨hneg, h⟩
  rw [signedLike, signedLike]
  simp only [hsign]

namespace Tenths

variable {x y : Decimal} {m n : Int}

theorem ofInt (n : Int) : (ofInt n).Tenths (10 * n) :=
  ⟨by simp [Decimal.ofInt], by simp [Decimal.ofInt, mul_comm]⟩

theorem neg (h : x.Tenths n) : Tenths ⟨-x.coefficient, x.exponent⟩ (-n) :=
  ⟨h.exponent_ge, by rw [← h.coefficient_eq, neg_mul]⟩

/-- Its value is that number of tenths. -/
theorem value_eq (h : x.Tenths n) : x.value = n / 10 := by
  have hexp := h.exponent_ge
  have hpow : (10 : ℚ) ^ (x.exponent + 1).toNat = 10 ^ x.exponent * 10 := by
    rw [← zpow_natCast, Int.toNat_of_nonneg (by omega), zpow_add_one₀ (by norm_num)]
  rw [value, ← h.coefficient_eq]
  push_cast
  rw [hpow]
  ring

/-- The magnitude of the coefficient is that of the tenths, up to zeros. -/
theorem natAbs_eq (h : x.Tenths n) :
    x.coefficient.natAbs * 10 ^ (x.exponent + 1).toNat = n.natAbs := by
  rw [← h.coefficient_eq, Int.natAbs_mul, Int.natAbs_pow]
  rfl

theorem signedLike_eq (h : x.Tenths n) (magnitude : Nat) :
    signedLike x.coefficient magnitude = signedLike n magnitude := by
  rw [← h.coefficient_eq, signedLike_mul_left _ _ (by positivity)]

/-- With a coefficient of at most 28 digits the tenths have no other digits but zeros to lose. -/
theorem nearest_eq (h : x.Tenths n) (hfew : digitCount x.coefficient.natAbs ≤ precision) :
    nearest n = n := by
  have hexp := h.exponent_ge
  refine nearest_of_unit_dvd ?_
  rw [← h.natAbs_eq]
  rcases Nat.eq_zero_or_pos x.coefficient.natAbs with hzero | hpos
  · rw [hzero, zero_mul]
    exact dvd_zero _
  · refine (unit_dvd_pow ?_).trans (Nat.dvd_mul_left _ _)
    rw [digitCount_mul_pow hpos]
    omega

/-- The last digit that is kept is the same, whether tenths or coefficients are counted. -/
theorem unit_eq (h : x.Tenths n) (hmany : precision < digitCount x.coefficient.natAbs) :
    unit n.natAbs = unit x.coefficient.natAbs * 10 ^ (x.exponent + 1).toNat := by
  have hpos : 0 < x.coefficient.natAbs := by
    by_contra hzero
    rw [Nat.le_zero.mp (not_lt.mp hzero)] at hmany
    exact absurd hmany (by decide)
  rw [unit, unit, ← h.natAbs_eq, digitCount_mul_pow hpos, ← pow_add]
  congr 1
  omega

/-- What is kept of the coefficient makes up what is kept of the tenths. -/
theorem signedLike_kept_mul (h : x.Tenths n)
    (hmany : precision < digitCount x.coefficient.natAbs) :
    signedLike x.coefficient (divHalfEven x.coefficient.natAbs (unit x.coefficient.natAbs))
        * (unit n.natAbs : Nat)
      = nearest n := by
  have hkept : divHalfEven n.natAbs (unit n.natAbs)
      = divHalfEven x.coefficient.natAbs (unit x.coefficient.natAbs) := by
    rw [h.unit_eq hmany, ← h.natAbs_eq, divHalfEven_mul_right _ _ (Nat.pow_pos (by decide))]
  rw [signedLike_mul, h.signedLike_eq, nearest, nearestNat, hkept]

/-- A decimal is cut down as its tenths are. -/
theorem rounded (h : x.Tenths n) : x.rounded.Tenths (nearest n) := by
  have hexp := h.exponent_ge
  rw [Decimal.rounded]
  by_cases hextra : digitCount x.coefficient.natAbs - precision = 0
  · rw [if_pos hextra, h.nearest_eq (by omega)]
    exact h
  · set extra := digitCount x.coefficient.natAbs - precision with hdef
    set kept := divHalfEven x.coefficient.natAbs (Nat.pow 10 extra) with hkept
    have hmany : precision < digitCount x.coefficient.natAbs := by omega
    have hvalue : signedLike x.coefficient kept * 10 ^ (x.exponent + 1 + extra).toNat
        = nearest n := by
      have hpow : (10 : Int) ^ (x.exponent + 1 + extra).toNat = (unit n.natAbs : Nat) := by
        rw [h.unit_eq hmany, unit,
          show (x.exponent + 1 + extra).toNat = extra + (x.exponent + 1).toNat by omega, pow_add]
        push_cast
        rfl
      rw [hpow]
      exact h.signedLike_kept_mul hmany
    simp only [if_neg hextra]
    split
    · refine ⟨by simp only; omega, ?_⟩
      rw [← hvalue]
      simp only
      congr 2
      omega
    · rename_i hcarry
      -- a digit was carried into, and the last one is zero
      have hten : 10 ∣ kept := ten_dvd_kept _ hcarry
      refine ⟨by simp only; omega, ?_⟩
      rw [← hvalue, ← signedLike_div_ten_mul x.coefficient hten, mul_assoc, ← pow_succ']
      simp only
      congr 2
      omega

theorem add (hx : x.Tenths m) (hy : y.Tenths n) : (x + y).Tenths (nearest (m + n)) := by
  have hx' := hx.exponent_ge
  have hy' := hy.exponent_ge
  refine rounded ⟨by simp only; omega, ?_⟩
  have hpart : ∀ {z : Decimal} {k : Int}, z.Tenths k → min x.exponent y.exponent ≤ z.exponent →
      z.coefficientAt (min x.exponent y.exponent) * 10 ^ (min x.exponent y.exponent + 1).toNat
        = k := by
    intro z k hz hle
    rw [← hz.coefficient_eq, coefficientAt, mul_assoc]
    congr 1
    have hsum : (z.exponent + 1).toNat
        = (z.exponent - min x.exponent y.exponent).toNat
          + (min x.exponent y.exponent + 1).toNat := by omega
    rw [hsum, pow_add]
    rfl
  simp only
  rw [add_mul, hpart hx (min_le_left _ _), hpart hy (min_le_right _ _)]

theorem sub (hx : x.Tenths m) (hy : y.Tenths n) : (x - y).Tenths (nearest (m - n)) := by
  rw [sub_eq_add_neg]
  exact hx.add hy.neg

/-- The product of an integer with a fifth. -/
theorem ofInt_mul_fifth (n : Int) : (Decimal.ofInt n * ⟨2, -1⟩).Tenths (nearest (n * 2)) :=
  rounded ⟨by simp [Decimal.ofInt], by simp [Decimal.ofInt]⟩

/-- A number of tenths rounded to an integer, unless that has too many digits. -/
theorem toInt?_eq (h : x.Tenths n) :
    x.toInt?
      = if divHalfUp n.natAbs 10 < 10 ^ 28 then some (signedLike n (divHalfUp n.natAbs 10))
        else none := by
  have hnat := h.natAbs_eq
  have hmagnitude : divHalfUp (x.coefficient.natAbs * Nat.pow 10 x.exponent.toNat)
      (Nat.pow 10 (-x.exponent).toNat) = divHalfUp n.natAbs 10 := by
    rcases h.exponent_ge.lt_or_eq with hexp | hexp
    · -- no digit stands behind the point
      obtain ⟨e, he⟩ := Int.eq_ofNat_of_zero_le (show 0 ≤ x.exponent by omega)
      rw [he] at hnat ⊢
      rw [← hnat, show ((e : Int) + 1).toNat = e + 1 by omega, pow_succ, ← mul_assoc]
      simp [divHalfUp, Nat.mod_one]
    · rw [← hexp] at hnat ⊢
      rw [← hnat]
      simp
  rw [toInt?, hmagnitude, h.signedLike_eq]
  simp only [digitCount_le_iff (show 0 < precision by decide)]
  rfl

end Tenths

end ScriptAdvisor.Decimal
