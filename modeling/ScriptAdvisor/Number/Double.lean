/-! # Double-precision numbers

Numbers written with a point or an exponent are rounded to double precision. A `Double` is kept
decoded, as a significand times a power of two, so that its operations are exact integer arithmetic.

* `Double.ofDecimal` rounds a decimal to the nearest double, ties to the even significand.
* `Double.truncate?` drops the fraction of a finite double.
* `Double.text` writes the fewest digits that read back as the same double. -/

namespace ScriptAdvisor

/-- A double-precision number. -/
inductive Double where
  /-- `significand * 2 ^ exponent`, negated if `negative`. Zero keeps its sign. -/
  | finite (negative : Bool) (significand : Nat) (exponent : Int)
  /-- An infinity. -/
  | infinite (negative : Bool)
  /-- Not a number. -/
  | nan
  deriving DecidableEq, Repr, Inhabited

namespace Double

/-- The least exponent of a double. -/
def minExponent : Int := -1074

/-- The greatest exponent of a double. -/
def maxExponent : Int := 971

/-- `num / den` rounded to the nearest integer, a tie to the even neighbour. -/
def roundHalfEven (num den : Nat) : Nat :=
  let quotient := num / den
  let rest := 2 * (num % den)
  if rest < den ∨ (rest = den ∧ quotient % 2 = 0) then quotient else quotient + 1

/-- `num / den` in units of `2 ^ exponent`, as a numerator and a denominator. -/
def inUnits (num den : Nat) (exponent : Int) : Nat × Nat :=
  (num <<< (-exponent).toNat, den <<< exponent.toNat)

/-- The double nearest to `num / den`, both positive. -/
def ofRatio (negative : Bool) (num den : Nat) : Double :=
  let guess : Int := (Nat.log2 num : Int) - Nat.log2 den - 52
  let (n, d) := inUnits num den guess
  let exponent := max minExponent (if n / d < 1 <<< 52 then guess - 1 else guess)
  let (n, d) := inUnits num den exponent
  let significand := roundHalfEven n d
  let (significand, exponent) :=
    if significand = 1 <<< 53 then (1 <<< 52, exponent + 1) else (significand, exponent)
  if exponent > maxExponent then infinite negative else finite negative significand exponent

/-- The double nearest to `digits * 10 ^ exponent`. Decimals far outside the range of doubles are
settled by their number of digits alone. -/
def ofDecimal (negative : Bool) (digits : Nat) (exponent : Int) : Double :=
  let top : Int := (Nat.toDigits 10 digits).length + exponent
  if digits = 0 ∨ top < -400 then finite negative 0 minExponent
  else if top > 400 then infinite negative
  else ofRatio negative (digits * Nat.pow 10 exponent.toNat) (Nat.pow 10 (-exponent).toNat)

/-- The integer part of a finite double. -/
def truncate? : Double → Option Int
  | finite negative significand exponent =>
    let magnitude : Nat := significand <<< exponent.toNat >>> (-exponent).toNat
    some (if negative then -(magnitude : Int) else magnitude)
  | _ => none

/-- Whether a double is an integer. -/
def isWhole : Double → Bool
  | finite _ significand exponent => significand % (1 <<< (-exponent).toNat) == 0
  | _ => false

/-- Whether a double is zero, of either sign. -/
def isZero : Double → Bool
  | finite _ significand _ => significand == 0
  | _ => false

/-! ### The shortest decimal -/

/-- The place of the decimal point in `num / den`: the least `p` with `num / den < 10 ^ p`. -/
def pointPlace (num den : Nat) : Int :=
  if den ≤ num then (Nat.toDigits 10 (num / den)).length
  else
    match (List.range 400).find? fun j => den ≤ num * Nat.pow 10 j with
    | some j => 1 - (j : Int)
    | none => -399

/-- The decimal with `count` digits behind the point place `place` that lies nearest to
`value / den`, provided it lies between `low / den` and `high / den` (with the ends, if
`closed`). -/
def nearestDecimal? (value low high den : Nat) (closed : Bool) (place : Int) (count : Nat) :
    Option Nat :=
  let up := Nat.pow 10 ((count : Int) - place).toNat
  let down := den * Nat.pow 10 (place - (count : Int)).toNat
  let floor := value * up / down
  let inside (c : Nat) : Bool :=
    if closed then low * up ≤ c * down && c * down ≤ high * up
    else low * up < c * down && c * down < high * up
  let twiceRest := 2 * (value * up % down)
  let belowNearer := twiceRest < down || (twiceRest == down && floor % 2 == 0)
  match inside floor, inside (floor + 1) with
  | true, true => some (if belowNearer then floor else floor + 1)
  | true, false => some floor
  | false, true => some (floor + 1)
  | false, false => none

/-- The fewest decimal digits that read back as `significand * 2 ^ exponent`, and the place of the
decimal point relative to the first digit. A quarter of the last binary place is the unit, so that
the ends of the rounding interval are integers. -/
def shortest (significand : Nat) (exponent : Int) : List Char × Int :=
  let up : Nat := 1 <<< (exponent - 2).toNat
  let den : Nat := 1 <<< (2 - exponent).toNat
  let value := 4 * significand * up
  let high := (4 * significand + 2) * up
  let narrow := significand = 1 <<< 52 ∧ exponent > minExponent
  let low := (if narrow then 4 * significand - 1 else 4 * significand - 2) * up
  let place := pointPlace value den
  let hit := (List.range 17).findSome? fun n =>
    (nearestDecimal? value low high den (significand % 2 == 0) place (n + 1)).map (·, n + 1)
  match hit with
  | some (decimal, count) =>
    let digits := Nat.toDigits 10 decimal
    ((digits.reverse.dropWhile (· == '0')).reverse, place + (digits.length - count : Int))
  | none => (['0'], 1)

/-- The exponents of ten, as places of the decimal point, that are written positionally. -/
def isPositional (place : Int) : Bool := -4 < place && place ≤ 16

/-- An exponent of ten with its sign and at least two digits. -/
def exponentText (exponent : Int) : String :=
  let digits := toString exponent.natAbs
  (if exponent < 0 then "e-" else "e+") ++ (if digits.length < 2 then "0" ++ digits else digits)

/-- Digits with a decimal point at `place`. -/
def decimalText (digits : List Char) (place : Int) : String :=
  if isPositional place then
    if place ≤ 0 then
      "0." ++ String.ofList (List.replicate (-place).toNat '0' ++ digits)
    else if (digits.length : Int) ≤ place then
      String.ofList (digits ++ List.replicate (place.toNat - digits.length) '0') ++ ".0"
    else
      String.ofList (digits.take place.toNat) ++ "." ++ String.ofList (digits.drop place.toNat)
  else
    let mantissa :=
      match digits with
      | [] => ""
      | [d] => d.toString
      | d :: rest => d.toString ++ "." ++ String.ofList rest
    mantissa ++ exponentText (place - 1)

/-- A double in the fewest digits that read back, positionally from a ten-thousandth up to sixteen
digits before the point and with an exponent beyond. -/
def text : Double → String
  | finite negative significand exponent =>
    (if negative then "-" else "") ++
      (if significand = 0 then "0.0"
       else
        let (digits, place) := shortest significand exponent
        decimalText digits place)
  | infinite negative => if negative then "-inf" else "inf"
  | nan => "nan"

end Double

end ScriptAdvisor
