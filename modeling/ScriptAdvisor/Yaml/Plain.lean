import ScriptAdvisor.Number.Double.Reader
import ScriptAdvisor.Text.Base64
import ScriptAdvisor.Text.Case
import ScriptAdvisor.Yaml.Value

/-! # Scalars of standard kinds

The kind of a plain scalar follows from its text: truth values, numbers in several notations, null
and dates are recognised, all else is text. A tag may ask for a kind that the text does not have, so
that reading a text as a kind can fail.

* `Yaml.Kind` lists the standard kinds, `Yaml.Kind.ofPlain` is that of a plain scalar.
* `Yaml.readBool`, `Yaml.readInteger`, `Yaml.readDouble`, `Yaml.readDate` and `Yaml.readBytes?` read
  a text as a kind. Texts of that kind are read without a fault unless a number is too long or there
  is no such date. -/

namespace ScriptAdvisor.Yaml

/-- The standard kinds of node. -/
inductive Kind where
  /-- The null value. -/
  | null
  /-- A truth value. -/
  | bool
  /-- An integer. -/
  | int
  /-- A double. -/
  | float
  /-- Bytes. -/
  | binary
  /-- A date. -/
  | timestamp
  /-- A text. -/
  | str
  /-- A list. -/
  | seq
  /-- A mapping. -/
  | map
  /-- A set. -/
  | set
  /-- A list of pairs whose keys differ. -/
  | omap
  /-- A list of pairs. -/
  | pairs
  /-- The key under which a mapping takes over the entries of others. -/
  | merge
  /-- The key under which a mapping has the scalar it stands for. -/
  | value
  deriving DecidableEq, Repr, Inhabited

namespace Kind

/-- Every kind. -/
def all : List Kind :=
  [null, bool, int, float, binary, timestamp, str, seq, map, set, omap, pairs, merge, value]

/-- The name of a kind. -/
def name : Kind → String
  | null => "null"
  | bool => "bool"
  | int => "int"
  | float => "float"
  | binary => "binary"
  | timestamp => "timestamp"
  | str => "str"
  | seq => "seq"
  | map => "map"
  | set => "set"
  | omap => "omap"
  | pairs => "pairs"
  | merge => "merge"
  | value => "value"

/-- The tag of a kind. -/
def tag (kind : Kind) : String := "tag:yaml.org,2002:" ++ kind.name

/-- Whether values of a kind are collections. -/
def isCollection (kind : Kind) : Bool := [seq, map, set, omap, pairs].contains kind

/-- The kind with a tag. -/
def ofTag? (tag : String) : Option Kind := all.find? fun kind => kind.tag == tag

end Kind

/-! ### Truth values and null -/

/-- The texts for truth values, in lower case. -/
def truthWords : List (String × Bool) :=
  [("yes", true), ("no", false), ("true", true), ("false", false), ("on", true), ("off", false)]

/-- Whether a text is a word in lower case, in upper case, or in lower case behind a capital. -/
def isWordCase (word text : String) : Bool :=
  text == word || text == word.toUpper || text == word.capitalize

/-- The texts for null. -/
def nullWords : List String := ["~", "null", "Null", "NULL", ""]

/-- The truth value of a text, whose case does not matter. -/
def readBool (text : String) : Except Fault Bool :=
  let word := String.ofList (Text.lower text.toList)
  match truthWords.find? fun entry => entry.1 == word with
  | some (_, value) => .ok value
  | none => .error (.badTruth word)

/-! ### Numbers -/

/-- Whether a character is a digit or an underscore. -/
def isDigitOrGap (c : Char) : Bool := c.isDigit || c == '_'

/-- What follows one or more parts below sixty, each behind a colon. `isFirst` tells that none was
read yet. -/
def afterSixtieths (isFirst : Bool) : List Char → Option (List Char)
  | ':' :: a :: b :: rest =>
    if '0' ≤ a && a ≤ '5' && b.isDigit then afterSixtieths false rest
    else if a.isDigit then afterSixtieths false (b :: rest)
    else if isFirst then none else some (':' :: a :: b :: rest)
  | [':', a] => if a.isDigit then some [] else if isFirst then none else some [':', a]
  | rest => if isFirst then none else some rest
termination_by text => text.length

/-- Whether a text is an exponent: nothing, or a letter, a sign and digits. -/
def isExponent : List Char → Bool
  | [] => true
  | e :: sign :: digits =>
    (e == 'e' || e == 'E') && (sign == '+' || sign == '-') && !digits.isEmpty
      && digits.all Char.isDigit
  | _ => false

/-- A text without a sign at its start. -/
def withoutSign (text : List Char) : List Char := (Text.signed text).2

/-- Whether a plain scalar is a double. -/
def isDouble (text : List Char) : Bool :=
  let body := withoutSign text
  match body with
  | '.' :: rest =>
    ["inf", "Inf", "INF"].contains (String.ofList rest)
      || (text.head? == some '.'
        && (["nan", "NaN", "NAN"].contains (String.ofList rest)
          || ((rest.head?.map Char.isDigit).getD false
            && isExponent (rest.dropWhile isDigitOrGap))))
  | d :: _ =>
    d.isDigit
      && match body.dropWhile isDigitOrGap with
        | '.' :: rest => isExponent (rest.dropWhile isDigitOrGap)
        | rest =>
          match afterSixtieths true rest with
          | some ('.' :: fraction) => fraction.all isDigitOrGap
          | _ => false
  | [] => false

/-- Whether a plain scalar is an integer. -/
def isInteger (text : List Char) : Bool :=
  match withoutSign text with
  | '0' :: 'b' :: digits =>
    !digits.isEmpty && digits.all fun c => c == '0' || c == '1' || c == '_'
  | '0' :: 'x' :: digits =>
    !digits.isEmpty && digits.all fun c => (Text.hexValue? c).isSome || c == '_'
  | '0' :: digits => digits.all fun c => ('0' ≤ c && c ≤ '7') || c == '_'
  | d :: rest =>
    d.isDigit
      && match rest.dropWhile isDigitOrGap with
        | [] => true
        | rest => afterSixtieths true rest == some []
  | [] => false

/-- The parts of a text between colons. -/
def colonParts (text : List Char) : List (List Char) :=
  ((String.ofList text).splitOn ":").map String.toList

/-- The integer that digits to a base denote. -/
def integerIn (base : Nat) (digits : List Char) : Except Fault Int :=
  (Text.readIntIn base digits).mapError (Fault.ofIntegerError base (String.ofList digits))

/-- The integer of a text without sign and underscores. A letter behind a leading zero gives the
base, which is eight without one, and colons divide sixtieths. -/
def readMagnitude (text : List Char) : Except Fault Int :=
  match text with
  | [] => .error .emptyNumber
  | ['0'] => .ok 0
  | '0' :: 'b' :: digits => integerIn 2 digits
  | '0' :: 'x' :: digits => integerIn 16 digits
  | '0' :: _ => integerIn 8 text
  | _ =>
    if text.contains ':' then do
      let parts ← (colonParts text).mapM (integerIn 10)
      return parts.foldl (fun number part => 60 * number + part) 0
    else integerIn 10 text

/-- The integer of a text. -/
def readInteger (text : String) : Except Fault Int :=
  let digits := text.toList.filter (· != '_')
  if digits.isEmpty then .error .emptyNumber
  else
    let (negative, magnitude) := Text.signed digits
    (readMagnitude magnitude).map fun value => if negative then -value else value

/-- The double of digits with an optional fraction and exponent. -/
def doubleOf (digits : List Char) : Except Fault Double :=
  match Double.ofText? digits with
  | some value => .ok value
  | none => .error (.badDouble (String.ofList digits))

/-- The double of parts that are divided by colons, the last one of which counts ones. -/
def sixtiethsSum (parts : List Double) : Double :=
  let weighted := parts.reverse.zipIdx.map fun (part, place) => part.scale (Nat.pow 60 place)
  weighted.foldl Double.plus (Double.ofFraction 0 1)

/-- The double of a text. -/
def readDouble (text : String) : Except Fault Double :=
  let digits := Text.lower (text.toList.filter (· != '_'))
  if digits.isEmpty then .error .emptyNumber
  else
    let (negative, magnitude) := Text.signed digits
    let value : Except Fault Double :=
      if magnitude == ".inf".toList then .ok (.infinite false)
      else if magnitude == ".nan".toList then .ok .nan
      else if magnitude.contains ':' then
        ((colonParts magnitude).mapM doubleOf).map sixtiethsSum
      else doubleOf magnitude
    value.map fun value => if negative then value.negate else value

/-! ### Dates -/

/-- The parts of a written date. -/
structure DateParts where
  /-- The year. -/
  year : Nat
  /-- The digits of the month. -/
  month : List Char
  /-- The digits of the day. -/
  day : List Char
  /-- Hour, minute and second, the digits of the fraction of a second, and the distance from
  universal time in minutes, if there is a time of day. -/
  time : Option ((Nat × Nat × Nat) × List Char × Option Int)
  deriving DecidableEq, Repr, Inhabited

/-- The number of decimal digits. -/
def digitsNumber (digits : List Char) : Nat :=
  Text.ofDigitsIn 10 (digits.filterMap Text.asciiDigit?)

/-- At least `low` and at most `high` digits at the start of a text, and the rest. -/
def someDigits? (low high : Nat) (text : List Char) : Option (List Char × List Char) :=
  let digits := (text.takeWhile Char.isDigit).take high
  if digits.length < low then none else some (digits, text.drop digits.length)

/-- What follows a character. -/
def after? (c : Char) : List Char → Option (List Char)
  | first :: rest => if first == c then some rest else none
  | [] => none

/-- Whether a character is a blank in a date. -/
def isDateBlank (c : Char) : Bool := c == ' ' || c == '\t'

/-- The distance from universal time that a text consists of. -/
def zone? (text : List Char) : Option (Option Int) :=
  match text with
  | [] => some none
  | _ =>
    match text.dropWhile isDateBlank with
    | ['Z'] => some (some 0)
    | sign :: rest => do
      if sign != '+' && sign != '-' then none
      else
        let (hours, rest) ← someDigits? 1 2 rest
        let minutes ←
          match rest with
          | [] => some ['0']
          | _ => do
            let (minutes, rest) ← someDigits? 2 2 (← after? ':' rest)
            if rest.isEmpty then some minutes else none
        let span := 60 * digitsNumber hours + digitsNumber minutes
        return some (Text.withSign (sign == '-') span)
    | [] => none

/-- The time of day that a text consists of. -/
def time? (text : List Char) : Option ((Nat × Nat × Nat) × List Char × Option Int) := do
  let (hour, rest) ← someDigits? 1 2 text
  let (minute, rest) ← someDigits? 2 2 (← after? ':' rest)
  let (second, rest) ← someDigits? 2 2 (← after? ':' rest)
  let (fraction, rest) :=
    match rest with
    | '.' :: rest => (rest.takeWhile Char.isDigit, rest.dropWhile Char.isDigit)
    | _ => ([], rest)
  let zone ← zone? rest
  return ((digitsNumber hour, digitsNumber minute, digitsNumber second), fraction, zone)

/-- The parts of the date that a text consists of. A letter or blanks divide the day and the
time. -/
def dateParts? (text : List Char) : Option DateParts := do
  let (year, rest) ← someDigits? 4 4 text
  let (month, rest) ← someDigits? 1 2 (← after? '-' rest)
  let (day, rest) ← someDigits? 1 2 (← after? '-' rest)
  let time ←
    match rest with
    | [] => some none
    | c :: rest =>
      if c == 'T' || c == 't' then (time? rest).map some
      else if isDateBlank c then (time? (rest.dropWhile isDateBlank)).map some
      else none
  return { year := digitsNumber year, month, day, time }

/-- A text without a line break at its end. -/
def withoutFinalBreak (text : List Char) : List Char :=
  if text.getLast? == some '\n' then text.dropLast else text

/-- Whether a plain scalar is a date. Without a time of day, month and day have two digits. -/
def isDate (text : List Char) : Bool :=
  match dateParts? text with
  | some parts => parts.time.isSome || (parts.month.length == 2 && parts.day.length == 2)
  | none => false

/-- The millionths of a second that the digits of a fraction denote. -/
def microseconds (fraction : List Char) : Nat :=
  let digits := fraction.take 6
  digitsNumber digits * Nat.pow 10 (6 - digits.length)

/-- The date of a text. -/
def readDate (text : String) : Except Fault Value :=
  match dateParts? (withoutFinalBreak text.toList) with
  | none => .error (.noMember .null "groupdict")
  | some parts =>
    let month := digitsNumber parts.month
    let day := digitsNumber parts.day
    match parts.time with
    | none => ((Date.make parts.year month day).mapError .badDate).map .date
    | some ((hour, minute, second), fraction, zone) =>
      ((Moment.make parts.year month day hour minute second (microseconds fraction) zone).mapError
        .badDate).map .moment

/-! ### Bytes -/

/-- The bytes of a text. Only ASCII characters may occur in it. -/
def readBytes? (text : String) : Option (List UInt8) :=
  if text.toList.all fun c => c.toNat < 0x80 then Text.base64? text.toList else none

/-! ### The kind of a plain scalar -/

/-- The kind of a plain scalar. -/
def Kind.ofPlain (text : String) : Kind :=
  let chars := withoutFinalBreak text.toList
  let word := String.ofList chars
  if truthWords.any fun entry => isWordCase entry.1 word then .bool
  else if isDouble chars then .float
  else if isInteger chars then .int
  else if word == "<<" then .merge
  else if text.isEmpty || (!word.isEmpty && nullWords.contains word) then .null
  else if isDate chars then .timestamp
  else if word == "=" then .value
  else .str

end ScriptAdvisor.Yaml
