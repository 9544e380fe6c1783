import ScriptAdvisor.Text.Digit

/-! # Quoted texts of literals

A quoted text may have letters in front of it: `b` makes it bytes, `r` takes its backslashes as they
are, and `f` makes it a pattern to be filled in.

* `Literal.Quote` is a quoted text cut into its parts.
* `Literal.checkQuotes` checks quoted texts that follow one another. -/

namespace ScriptAdvisor.Literal

/-- A quoted text. -/
structure Quote where
  /-- Whether it stands for bytes. -/
  isBytes : Bool
  /-- Whether its backslashes are ordinary characters. -/
  isRaw : Bool
  /-- Whether it is a pattern. -/
  isPattern : Bool
  /-- The characters between the quotes. -/
  body : List Char
  deriving DecidableEq, Repr, Inhabited

namespace Quote

/-- The parts of a quoted text. -/
def ofText (text : List Char) : Quote :=
  let isMark (c : Char) : Bool := c != '"' && c != '\''
  let letters := (text.takeWhile isMark).map Char.toLower
  let quoted := text.dropWhile isMark
  let width := if (List.replicate 3 (quoted.headD '"')).isPrefixOf quoted && 6 ≤ quoted.length
    then 3 else 1
  { isBytes := letters.contains 'b', isRaw := letters.contains 'r'
    isPattern := letters.contains 'f'
    body := (quoted.drop width).take (quoted.length - 2 * width) }

/-- How much room a character takes where places in a text are counted. Those beyond ASCII are
counted as the escapes that could stand for them. -/
def room (c : Char) : Nat := if c.toNat < 0x80 then 1 else 10

/-- The wording for an escape between two places that cannot be read. -/
def escapeMessage (start stop : Nat) (reason : String) : String :=
  s!"(unicode error) 'unicodeescape' codec can't decode bytes in position {start}-{stop}: {reason}"

/-- The number of digits behind the letter of an escape, and the wording if some are missing. -/
def digitsBehind? : Char → Option (Nat × String)
  | 'x' => some (2, "truncated \\xXX escape")
  | 'u' => some (4, "truncated \\uXXXX escape")
  | 'U' => some (8, "truncated \\UXXXXXXXX escape")
  | _ => none

/-- Check the escapes of a text from a place on. -/
def checkEscapes (place : Nat) : List Char → Except String Unit
  | [] => .ok ()
  | '\\' :: letter :: rest =>
    match digitsBehind? letter with
    | some (count, reason) =>
      let digits := (rest.takeWhile fun c => (Text.hexValue? c).isSome).take count
      let number := digits.foldl (fun n c => 16 * n + (Text.hexValue? c).getD 0) 0
      if digits.length < count then
        .error (escapeMessage place (place + 1 + digits.length) reason)
      else if 0x10FFFF < number then
        .error (escapeMessage place (place + 1 + count) "illegal Unicode character")
      else checkEscapes (place + 2) rest
    | none => checkEscapes (place + 1 + room letter) rest
  | c :: rest => checkEscapes (place + room c) rest

/-- Check the escapes of bytes from a place on. -/
def checkByteEscapes (place : Nat) : List Char → Except String Unit
  | [] => .ok ()
  | '\\' :: 'x' :: rest =>
    if (rest.takeWhile fun c => (Text.hexValue? c).isSome).length < 2 then
      .error s!"(value error) invalid \\x escape at position {place}"
    else checkByteEscapes (place + 2) rest
  | '\\' :: _ :: rest => checkByteEscapes (place + 2) rest
  | _ :: rest => checkByteEscapes (place + 1) rest

/-- Check a quoted text. -/
def check (quote : Quote) : Except String Unit :=
  if quote.isPattern && quote.body.any fun c => c == '{' || c == '}' then .ok ()
  else if quote.isBytes then
    if quote.body.any fun c => 0x80 ≤ c.toNat then
      .error "bytes can only contain ASCII literal characters"
    else if quote.isRaw then .ok ()
    else checkByteEscapes 0 quote.body
  else if quote.isRaw then .ok ()
  else checkEscapes 0 quote.body

end Quote

/-- Check quoted texts that follow one another; `isBytes` tells what the earlier ones are. -/
def checkQuotes (isBytes : Option Bool) : List Quote → Except String Unit
  | [] => .ok ()
  | quote :: rest => do
    quote.check
    if isBytes == some (!quote.isBytes) then .error "cannot mix bytes and nonbytes literals"
    else checkQuotes (some quote.isBytes) rest

end ScriptAdvisor.Literal
