import ScriptAdvisor.Text.Blank
import ScriptAdvisor.Text.Digit

/-! # Written integers

An integer is written as an optional sign and digits, with single underscores allowed between digits
and padding allowed around the whole. Texts with very many decimal digits are not read.

* `Text.readInt` takes the digits of any script, `Text.readIntIn` those of another base as well.
* `Text.readPlainInt` takes ASCII digits only. It is lenient about leading zeros and allows a
  fraction of zeros.
* `IntegerError` says why a text is not read. -/

namespace ScriptAdvisor

/-- Why a text is not read as an integer. -/
inductive IntegerError where
  /-- It is none. -/
  | malformed
  /-- It has this many decimal digits, which are too many. -/
  | tooLong (digits : Nat)
  deriving DecidableEq, Repr, Inhabited

namespace Text

/-- At most this many decimal digits are read, and written. -/
def digitLimit : Nat := 4300

/-- The wording for texts with too many digits. -/
def tooManyDigitsMessage (count : Nat) : String :=
  s!"Exceeds the limit ({digitLimit} digits) for integer string conversion: value has "
    ++ s!"{count} digits; use sys.set_int_max_str_digits() to increase the limit"

/-- The wording for integers with too many digits. -/
def unwritableMessage : String :=
  s!"Exceeds the limit ({digitLimit} digits) for integer string conversion; "
    ++ "use sys.set_int_max_str_digits() to increase the limit"

/-- The value of an ASCII digit. -/
def asciiDigit? (c : Char) : Option Nat := if c.isDigit then some (c.toNat - 0x30) else none

/-- The value of a digit to a base: a decimal digit of any script or an ASCII letter. -/
def digitIn? (base : Nat) (c : Char) : Option Nat :=
  let value :=
    if 'a' ≤ c && c ≤ 'z' then some (c.toNat - 0x57)
    else if 'A' ≤ c && c ≤ 'Z' then some (c.toNat - 0x37)
    else digitValue? c
  value.filter (· < base)

/-- Whether digits are written with single underscores between them. Underscores are `none`, and
`mustFollow` tells whether a digit must come next. -/
def isSpaced (mustFollow : Bool) : List (Option Nat) → Bool
  | [] => !mustFollow
  | some _ :: rest => isSpaced false rest
  | none :: rest => !mustFollow && isSpaced true rest

/-- The number that digits to a base denote, most significant first. -/
def ofDigitsIn (base : Nat) (digits : List Nat) : Nat :=
  digits.foldl (fun number digit => base * number + digit) 0

/-- The number that a whole text denotes as digits to a base. A text that goes on behind too many
decimal digits is still too long. -/
def readNat (base : Nat) (digit? : Char → Option Nat) (text : List Char) :
    Except IntegerError Nat :=
  let written := text.takeWhile fun c => (digit? c).isSome || c == '_'
  let digits := written.filterMap digit?
  if !isSpaced true (written.map digit?) then .error .malformed
  else if base = 10 ∧ digits.length > digitLimit then .error (.tooLong digits.length)
  else if written.length < text.length then .error .malformed
  else .ok (ofDigitsIn base digits)

/-- A sign, if the text starts with one, and the rest. -/
def signed : List Char → Bool × List Char
  | '-' :: rest => (true, rest)
  | '+' :: rest => (false, rest)
  | text => (false, text)

/-- The integer with the given sign and magnitude. -/
def withSign (negative : Bool) (magnitude : Nat) : Int :=
  if negative then -(magnitude : Int) else magnitude

/-- The letter that may stand behind a zero in front of digits to a base. -/
def baseLetter? (base : Nat) : Option Char :=
  if base = 2 then some 'b' else if base = 8 then some 'o' else if base = 16 then some 'x' else none

/-- Digits to a base without the zero and the letter that may announce them. One underscore may
follow the letter. -/
def withoutBaseMark (base : Nat) : List Char → List Char
  | '0' :: letter :: rest =>
    if baseLetter? base == some letter.toLower then
      match rest with
      | '_' :: digits => digits
      | digits => digits
    else '0' :: letter :: rest
  | text => text

/-- The integer a text denotes to a base. -/
def readIntIn (base : Nat) (text : List Char) : Except IntegerError Int :=
  let (negative, digits) := signed (dropAround isPadding text)
  (readNat base (digitIn? base) (withoutBaseMark base digits)).map (withSign negative)

/-- The integer a text denotes, in the decimal digits of any script. -/
def readInt (text : String) : Except IntegerError Int := readIntIn 10 text.toList

/-- The integer that ASCII characters denote, each of which is given by its byte. -/
def readByteInt (bytes : List UInt8) : Except IntegerError Int :=
  let text := bytes.map fun byte => Char.ofNat byte.toNat
  let (negative, digits) := signed (dropAround (fun c => isPadding c && c.toNat < 0x80) text)
  (readNat 10 asciiDigit? digits).map (withSign negative)

/-! ### The lenient form -/

/-- Digits without leading zeros. Underscores may follow the zeros in any number. The last zero
stays where no other digit follows. -/
def withoutLeadingZeros (text : List Char) : Option (List Char) :=
  match text with
  | '0' :: rest =>
    let zeros := rest.takeWhile fun c => c == '0' || c == '_'
    match rest.drop zeros.length with
    | [] => some [(zeros.getLast?).getD '0']
    | '.' :: fraction => some ((zeros.getLast?).getD '0' :: '.' :: fraction)
    | c :: digits => if c.isDigit then some (c :: digits) else none
  | c :: digits => if c.isDigit then some (c :: digits) else none
  | [] => none

/-- A number without a fraction of one or more zeros. -/
def withoutZeroFraction (text : List Char) : List Char :=
  let zeros := (text.dropWhile (· != '.')).drop 1
  if !zeros.isEmpty && zeros.all (· == '0') then text.takeWhile (· != '.') else text

/-- The integer a text denotes in ASCII digits. Leading zeros may be followed by any number of
underscores, and a point with one or more zeros may end the number. -/
def readPlainInt (text : String) : Except IntegerError Int :=
  let trimmed := dropAround isPadding text.toList
  let (negative, body) := signed trimmed
  if trimmed.length > digitLimit then .error (.tooLong trimmed.length)
  else
    match withoutLeadingZeros body with
    | some digits =>
      (readNat 10 asciiDigit? (withoutZeroFraction digits)).map (withSign negative)
    | none => .error .malformed

end Text

end ScriptAdvisor
