import ScriptAdvisor.Json.Basic
import ScriptAdvisor.Text.Integer

/-! # Reading JSON

A reader for JSON texts that reports where and why a text is refused. Beyond the standard it takes
`NaN`, `Infinity` and `-Infinity`. Of the entries of an object with the same key the last one
counts, at the place of the first. Half of a pair of units of UTF-16 is no character, and is read as
the replacement character (`loneUnit`), so that two keys that differ in such halves become one.

Lists and objects can be nested as deeply as there are calls left to read them.

* `Json.parse` reads a text, `ReadError` says what is wrong with it.
* The readers in `Json.Reader` take the start of a text and give back the rest. A failure carries
  the number of characters from the offending place to the end. -/

namespace ScriptAdvisor

/-- Why a text is not JSON. -/
inductive ReadFault where
  /-- No value starts here. -/
  | expectingValue
  /-- A key must start here. -/
  | expectingName
  /-- A colon must follow the key. -/
  | expectingColon
  /-- A comma or the closing bracket must follow. -/
  | expectingComma
  /-- A string is never closed. -/
  | unterminatedString
  /-- A string holds a control character. -/
  | controlCharacter
  /-- No escape has this letter. -/
  | badEscape
  /-- Four hexadecimal digits must follow. -/
  | badUnicodeEscape
  /-- Something follows the value. -/
  | extraData
  /-- The text starts with a byte order mark. -/
  | byteOrderMark
  /-- An integer has too many digits. -/
  | tooManyDigits (count : Nat)
  /-- The list or the object that starts here, with this bracket, is nested too deeply. -/
  | tooDeep (bracket : Char)
  deriving DecidableEq, Repr, Inhabited

/-- What cannot be done for want of calls, by the bracket that opens the list or the object. -/
def tooDeepActivity (bracket : Char) : String :=
  "while decoding a JSON " ++ (if bracket = '[' then "array" else "object")
    ++ " from a unicode string"

/-- The wording of a fault. -/
def ReadFault.message : ReadFault → String
  | expectingValue => "Expecting value"
  | expectingName => "Expecting property name enclosed in double quotes"
  | expectingColon => "Expecting ':' delimiter"
  | expectingComma => "Expecting ',' delimiter"
  | unterminatedString => "Unterminated string starting at"
  | controlCharacter => "Invalid control character at"
  | badEscape => "Invalid \\escape"
  | badUnicodeEscape => "Invalid \\uXXXX escape"
  | extraData => "Extra data"
  | byteOrderMark => "Unexpected UTF-8 BOM (decode using utf-8-sig)"
  | tooManyDigits count => Text.tooManyDigitsMessage count
  | tooDeep bracket => "maximum recursion depth exceeded " ++ tooDeepActivity bracket

/-- A refusal of a text. -/
structure ReadError where
  /-- What is wrong. -/
  fault : ReadFault
  /-- The place in the text, counted in characters from zero. -/
  index : Nat
  /-- The line of that place, counted from one. -/
  line : Nat
  /-- The place within its line, counted from zero. -/
  column : Nat
  deriving DecidableEq, Repr, Inhabited

namespace Json.Reader

/-- What is wrong, and how many characters there are from that place to the end. -/
structure Failure where
  /-- What is wrong. -/
  fault : ReadFault
  /-- How many characters are left. -/
  left : Nat
  deriving DecidableEq, Repr, Inhabited

/-- The blanks allowed between the parts of a value. -/
def isGap (c : Char) : Bool := c == ' ' || c == '\t' || c == '\n' || c == '\r'

/-- A text without leading gaps. -/
def skipGaps (text : List Char) : List Char := text.dropWhile isGap

/-! ### Strings -/

/-- The number four hexadecimal digits denote. -/
def fourHex? (a b c d : Char) : Option Nat := do
  let a ← Text.hexValue? a
  let b ← Text.hexValue? b
  let c ← Text.hexValue? c
  let d ← Text.hexValue? d
  return ((a * 16 + b) * 16 + c) * 16 + d

/-- The character of an escape with a single letter. -/
def simpleEscape? : Char → Option Char
  | '"' => some '"'
  | '\\' => some '\\'
  | '/' => some '/'
  | 'b' => some '\x08'
  | 'f' => some '\x0c'
  | 'n' => some '\n'
  | 'r' => some '\r'
  | 't' => some '\t'
  | _ => none

/-- The character a unit of UTF-16 denotes on its own. Half of a pair denotes the replacement
character. -/
def loneUnit (unit : Nat) : Char :=
  if 0xD800 ≤ unit ∧ unit ≤ 0xDFFF then '\ufffd' else Char.ofNat unit

/-- The escape behind `\u`, given what follows the letter: the character and how many characters the
escape takes from there. Two escapes that form a pair of units are one character. -/
def unicodeEscape (text : List Char) : Except Failure (Char × Nat) :=
  match text with
  | a :: b :: c :: d :: next :: rest =>
    match fourHex? a b c d with
    | none => .error ⟨.badUnicodeEscape, text.length + 1⟩
    | some high =>
      if 0xD800 ≤ high ∧ high ≤ 0xDBFF then
        match next :: rest with
        | '\\' :: 'u' :: e :: f :: g :: h :: _ :: _ =>
          match fourHex? e f g h with
          | none => .error ⟨.badUnicodeEscape, rest.length⟩
          | some low =>
            if 0xDC00 ≤ low ∧ low ≤ 0xDFFF then
              .ok (Char.ofNat (0x10000 + (high - 0xD800) * 0x400 + (low - 0xDC00)), 10)
            else .ok (loneUnit high, 4)
        | _ => .ok (loneUnit high, 4)
      else .ok (loneUnit high, 4)
  | _ => .error ⟨.badUnicodeEscape, text.length + 1⟩

/-- The escape behind a backslash: the character and how many characters the escape takes from
there. `opening` is the number of characters from the opening quote on. -/
def escape (opening : Nat) : List Char → Except Failure (Char × Nat)
  | [] => .error ⟨.unterminatedString, opening⟩
  | 'u' :: rest => (unicodeEscape rest).map fun (c, taken) => (c, taken + 1)
  | letter :: rest =>
    match simpleEscape? letter with
    | some c => .ok (c, 1)
    | none => .error ⟨.badEscape, rest.length + 2⟩

/-- The characters of a string up to its closing quote, and the rest of the text. `skip` characters
belong to an escape already read. -/
def stringBody (opening : Nat) : (skip : Nat) → List Char → Except Failure (List Char × List Char)
  | _, [] => .error ⟨.unterminatedString, opening⟩
  | skip + 1, _ :: rest => stringBody opening skip rest
  | 0, c :: rest =>
    if c = '"' then .ok ([], rest)
    else if c = '\\' then do
      let (char, taken) ← escape opening rest
      let (chars, rest) ← stringBody opening taken rest
      return (char :: chars, rest)
    else if c.toNat ≤ 0x1F then .error ⟨.controlCharacter, rest.length + 1⟩
    else do
      let (chars, rest) ← stringBody opening 0 rest
      return (c :: chars, rest)

/-- The string behind an opening quote. -/
def string (text : List Char) : Except Failure (String × List Char) := do
  let (chars, rest) ← stringBody (text.length + 1) 0 text
  return (String.ofList chars, rest)

/-! ### Numbers -/

/-- The leading ASCII digits and the rest. -/
def digits (text : List Char) : List Char × List Char :=
  (text.takeWhile Char.isDigit, text.dropWhile Char.isDigit)

/-- The digits before the point: a lone zero or digits that start with another one. -/
def wholePart? : List Char → Option (List Char × List Char)
  | [] => none
  | c :: rest =>
    if c = '0' then some (['0'], rest)
    else if c.isDigit then some (digits (c :: rest))
    else none

/-- The digits behind a point, if there are any. -/
def fractionPart : List Char → Option (List Char) × List Char
  | '.' :: rest =>
    match digits rest with
    | ([], _) => (none, '.' :: rest)
    | (fraction, rest) => (some fraction, rest)
  | text => (none, text)

/-- The exponent, if there is one with digits. -/
def exponentPart (text : List Char) : Option Int × List Char :=
  match text with
  | c :: rest =>
    if c == 'e' || c == 'E' then
      let (negative, body) :=
        match rest with
        | '-' :: body => (true, body)
        | '+' :: body => (false, body)
        | body => (false, body)
      match digits body with
      | ([], _) => (none, text)
      | (ds, rest) =>
        (some (if negative then -(Text.asciiNat ds : Int) else Text.asciiNat ds), rest)
    else (none, text)
  | [] => (none, [])

/-- The integer that digits denote, if they are not too many. -/
def integer (negative : Bool) (whole : List Char) : Except ReadFault Json :=
  if whole.length > Text.digitLimit then .error (.tooManyDigits whole.length)
  else .ok (.int (Text.withSign negative (Text.asciiNat whole)))

/-- A number and the rest. -/
def number (text : List Char) : Except ReadFault (Json × List Char) :=
  let (negative, body) :=
    match text with
    | '-' :: body => (true, body)
    | body => (false, body)
  match wholePart? body with
  | none => .error .expectingValue
  | some (whole, rest) =>
    let (fraction, rest) := fractionPart rest
    let (exponent, rest) := exponentPart rest
    match fraction, exponent with
    | none, none => (integer negative whole).map (·, rest)
    | _, _ =>
      let decimals := fraction.getD []
      .ok (.float (Double.ofDecimal negative (Text.asciiNat (whole ++ decimals))
        (exponent.getD 0 - decimals.length)), rest)

/-- The values written as words. -/
def wordValues : List (List Char × Json) :=
  [("null".toList, .null), ("true".toList, .bool true), ("false".toList, .bool false),
    ("NaN".toList, .float .nan), ("Infinity".toList, .float (.infinite false)),
    ("-Infinity".toList, .float (.infinite true))]

/-- A value written as a word or a number. -/
def scalar (text : List Char) : Except Failure (Json × List Char) :=
  match wordValues.find? fun (word, _) => word.isPrefixOf text with
  | some (word, value) => .ok (value, text.drop word.length)
  | none => (number text).mapError fun fault => ⟨fault, text.length⟩

/-! ### Values -/

mutual

/-- The value a text starts with. Every level of nesting and every item takes from `fuel`, and every
level takes one of the calls. -/
def value (fuel calls : Nat) (text : List Char) : Except Failure (Json × List Char) :=
  match fuel with
  | 0 => .error ⟨.expectingValue, text.length⟩
  | fuel + 1 =>
    match text with
    | '"' :: rest => do
      let (content, rest) ← string rest
      return (.str content, rest)
    | '[' :: rest =>
      if calls = 0 then .error ⟨.tooDeep '[', text.length⟩
      else
        match skipGaps rest with
        | ']' :: rest => .ok (.arr [], rest)
        | rest => do
          let (items, rest) ← items fuel (calls - 1) rest
          return (.arr items, rest)
    | '{' :: rest =>
      if calls = 0 then .error ⟨.tooDeep '{', text.length⟩
      else
        match skipGaps rest with
        | '}' :: rest => .ok (.obj [], rest)
        | rest => do
          let (pairs, rest) ← members fuel (calls - 1) rest
          return (.obj (Entries.ofList pairs), rest)
    | text => scalar text

/-- The items of a list up to its closing bracket. -/
def items (fuel calls : Nat) (text : List Char) : Except Failure (List Json × List Char) :=
  match fuel with
  | 0 => .error ⟨.expectingValue, text.length⟩
  | fuel + 1 => do
    let (item, rest) ← value fuel calls text
    match skipGaps rest with
    | ']' :: rest => return ([item], rest)
    | ',' :: rest => do
      let (more, rest) ← items fuel calls (skipGaps rest)
      return (item :: more, rest)
    | rest => .error ⟨.expectingComma, rest.length⟩

/-- The members of an object up to its closing brace. -/
def members (fuel calls : Nat) (text : List Char) :
    Except Failure (List (String × Json) × List Char) :=
  match fuel with
  | 0 => .error ⟨.expectingName, text.length⟩
  | fuel + 1 =>
    match text with
    | '"' :: rest => do
      let (key, rest) ← string rest
      match skipGaps rest with
      | ':' :: rest => do
        let (member, rest) ← value fuel calls (skipGaps rest)
        match skipGaps rest with
        | '}' :: rest => return ([(key, member)], rest)
        | ',' :: rest => do
          let (more, rest) ← members fuel calls (skipGaps rest)
          return ((key, member) :: more, rest)
        | rest => .error ⟨.expectingComma, rest.length⟩
      | rest => .error ⟨.expectingColon, rest.length⟩
    | text => .error ⟨.expectingName, text.length⟩

end

/-- The value a whole text denotes. -/
def whole (calls : Nat) (text : List Char) : Except Failure Json :=
  match text with
  | '\ufeff' :: _ => .error ⟨.byteOrderMark, text.length⟩
  | _ => do
    let (result, rest) ← value (2 * text.length + 2) calls (skipGaps text)
    match skipGaps rest with
    | [] => return result
    | rest => .error ⟨.extraData, rest.length⟩

end Json.Reader

/-- The error at the place `index` of a text. -/
def ReadError.ofPlace (fault : ReadFault) (text : List Char) (index : Nat) : ReadError :=
  let before := text.take index
  { fault, index
    line := before.count '\n' + 1
    column := (before.reverse.takeWhile (· != '\n')).length }

/-- The value a JSON text denotes. -/
def Json.parse (text : List Char) (calls : Nat := 990) : Except ReadError Json :=
  (Json.Reader.whole calls text).mapError fun failure =>
    .ofPlace failure.fault text (text.length - failure.left)

end ScriptAdvisor
