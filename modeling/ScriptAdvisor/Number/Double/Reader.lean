import ScriptAdvisor.Number.Double
import ScriptAdvisor.Text.Integer

/-! # Written doubles

A double is written as an optional sign, digits of any script with an optional point, and an
optional exponent. Infinity and not a number are written as words, whose case does not matter. -/

namespace ScriptAdvisor.Double

/-- The digits a text starts with, as numbers, and the rest. -/
def leadingDigits (text : List Char) : List Nat × List Char :=
  ((text.takeWhile fun c => (Text.digitValue? c).isSome).filterMap Text.digitValue?,
    text.dropWhile fun c => (Text.digitValue? c).isSome)

/-- The exponent a text consists of: nothing, or a letter, an optional sign and digits. -/
def writtenExponent? : List Char → Option Int
  | [] => some 0
  | letter :: rest =>
    let (negative, body) := Text.signed rest
    match leadingDigits body with
    | (digit :: digits, []) =>
      if letter.toLower == 'e' then
        some (Text.withSign negative (Text.ofDigitsIn 10 (digit :: digits)))
      else none
    | _ => none

/-- The double that digits, an optional fraction and an optional exponent denote. -/
def ofNumeral? (negative : Bool) (text : List Char) : Option Double :=
  let (whole, rest) := leadingDigits text
  let (fraction, rest) :=
    match rest with
    | '.' :: rest => leadingDigits rest
    | rest => ([], rest)
  if whole.isEmpty && fraction.isEmpty then none
  else
    (writtenExponent? rest).map fun exponent =>
      .ofDecimal negative (Text.ofDigitsIn 10 (whole ++ fraction)) (exponent - fraction.length)

/-- The double a text denotes. -/
def ofText? (text : List Char) : Option Double :=
  let (negative, body) := Text.signed (Text.dropAround Text.isPadding text)
  let word := String.ofList (body.map Char.toLower)
  if word == "inf" || word == "infinity" then some (.infinite negative)
  else if word == "nan" then some .nan
  else ofNumeral? negative body

/-- A finite double as a fraction of integers. -/
def fraction? : Double → Option (Int × Nat)
  | finite negative significand exponent =>
    some (Text.withSign negative (significand <<< exponent.toNat), 1 <<< (-exponent).toNat)
  | _ => none

/-- The double nearest to a fraction. -/
def ofFraction (num : Int) (den : Nat) : Double :=
  if num = 0 then .finite false 0 minExponent else ofRatio (num < 0) num.natAbs den

/-! ### Arithmetic -/

/-- A double with the opposite sign. -/
def negate : Double → Double
  | finite negative significand exponent => finite (!negative) significand exponent
  | infinite negative => infinite (!negative)
  | nan => nan

/-- The double nearest to the sum of two. -/
def plus (first second : Double) : Double :=
  match first.fraction?, second.fraction? with
  | some (a, b), some (c, d) => ofFraction (a * d + c * b) (b * d)
  | none, some _ => first
  | some _, none => second
  | none, none => if first = second then first else nan

/-- The double nearest to the product of one and the double nearest to a positive number. -/
def scale (value : Double) (factor : Nat) : Double :=
  match value.fraction?, (ofFraction factor 1).fraction? with
  | some (a, b), some (c, d) => ofFraction (a * c) (b * d)
  | _, _ => value

end ScriptAdvisor.Double
