/-! # Decimal arithmetic of bounded precision

Decimals with at most 28 significant digits. Sums and products are rounded to that precision, a tie
to the even neighbour. Rounding to an integer takes a tie away from zero and fails if the integer
has more digits than the precision allows. -/

namespace ScriptAdvisor

/-- `coefficient * 10 ^ exponent`. -/
structure Decimal where
  /-- The digits, with their sign. -/
  coefficient : Int
  /-- The power of ten. -/
  exponent : Int
  deriving DecidableEq, Repr, Inhabited

namespace Decimal

/-- How many significant digits the result of an operation keeps. -/
def precision : Nat := 28

/-- How many decimal digits a number has. -/
def digitCount (n : Nat) : Nat := (Nat.toDigits 10 n).length

/-- The decimal with the value of an integer. Nothing is rounded. -/
def ofInt (n : Int) : Decimal := ⟨n, 0⟩

/-- `n` divided by `d`, rounded to the nearest integer, a tie to the even neighbour. -/
def divHalfEven (n d : Nat) : Nat :=
  let rest := 2 * (n % d)
  if rest < d ∨ (rest = d ∧ n / d % 2 = 0) then n / d else n / d + 1

/-- `n` divided by `d`, rounded to the nearest integer, a tie upwards. -/
def divHalfUp (n d : Nat) : Nat := if 2 * (n % d) < d then n / d else n / d + 1

/-- The integer with the sign of `sign` and the given magnitude. -/
def signedLike (sign : Int) (magnitude : Nat) : Int :=
  if sign < 0 then -(magnitude : Int) else magnitude

/-- `x` with its digits cut down to the precision. -/
def rounded (x : Decimal) : Decimal :=
  let extra := digitCount x.coefficient.natAbs - precision
  if extra = 0 then x
  else
    let kept := divHalfEven x.coefficient.natAbs (Nat.pow 10 extra)
    -- Rounding up may carry into one digit more, which is then a zero.
    if digitCount kept ≤ precision then ⟨signedLike x.coefficient kept, x.exponent + extra⟩
    else ⟨signedLike x.coefficient (kept / 10), x.exponent + extra + 1⟩

/-- The coefficient of `x` at the exponent `exponent`, which is at most that of `x`. -/
def coefficientAt (x : Decimal) (exponent : Int) : Int :=
  x.coefficient * (Nat.pow 10 (x.exponent - exponent).toNat : Nat)

/-- The rounded sum. -/
def add (x y : Decimal) : Decimal :=
  let exponent := min x.exponent y.exponent
  rounded ⟨x.coefficientAt exponent + y.coefficientAt exponent, exponent⟩

/-- The rounded difference. -/
def sub (x y : Decimal) : Decimal := x.add ⟨-y.coefficient, y.exponent⟩

/-- The rounded product. -/
def mul (x y : Decimal) : Decimal :=
  rounded ⟨x.coefficient * y.coefficient, x.exponent + y.exponent⟩

instance : Add Decimal := ⟨add⟩
instance : Sub Decimal := ⟨sub⟩
instance : Mul Decimal := ⟨mul⟩

/-- The integer nearest to `x`, a tie away from zero; nothing if it has more digits than the
precision. -/
def toInt? (x : Decimal) : Option Int :=
  let magnitude :=
    divHalfUp (x.coefficient.natAbs * Nat.pow 10 x.exponent.toNat)
      (Nat.pow 10 (-x.exponent).toNat)
  if digitCount magnitude ≤ precision then some (signedLike x.coefficient magnitude) else none

end Decimal

end ScriptAdvisor
