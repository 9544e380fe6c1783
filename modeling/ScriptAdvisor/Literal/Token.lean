import ScriptAdvisor.Text.Digit
import ScriptAdvisor.Text.Utf8
import ScriptAdvisor.Text.Printable
import ScriptAdvisor.Text.Word

/-! # Tokens of literals

A literal is cut into names, numbers, quoted texts and operators. Brackets must close in pairs, and
inside them line breaks have no meaning.

* `Literal.Token` is the type of tokens.
* `Literal.Ending` says how the text ends: properly, at an error, or inside a bracket.
* `Literal.tokens` cuts a text. -/

namespace ScriptAdvisor.Literal

/-- The kinds of token. -/
inductive TokenKind where
  /-- A name or a keyword. -/
  | word
  /-- A number. -/
  | number
  /-- A quoted text with the letters in front of it. -/
  | quote
  /-- An operator or a bracket. -/
  | sign
  /-- The end of a line. -/
  | newline
  /-- A line starts further to the right. -/
  | indent
  /-- A line starts further to the left. -/
  | dedent
  /-- The end of the text. -/
  | finish
  deriving DecidableEq, Repr, Inhabited

/-- A token. -/
structure Token where
  /-- Its kind. -/
  kind : TokenKind
  /-- Its characters. -/
  text : List Char
  /-- How many brackets are open behind it. -/
  level : Nat
  /-- The line it is on, counted from one. -/
  line : Nat
  deriving DecidableEq, Repr, Inhabited

/-- How the tokens of a text end. -/
inductive Ending where
  /-- At the end of the text. -/
  | finished
  /-- At an error. -/
  | broken (message : String)
  /-- At an error that counts only if it is reached. -/
  | cut (message : String)
  /-- At the end of the text with a bracket open since a line. -/
  | unclosed (bracket : Char) (line : Nat)
  deriving DecidableEq, Repr, Inhabited

/-! ### Numbers -/

/-- Whether a character may belong to a name: ASCII letters, digits, the underscore and all
characters beyond ASCII. -/
def isNameChar (c : Char) : Bool := c.isAlphanum || c == '_' || 0x80 ≤ c.toNat

/-- The keywords that may follow a number at once. -/
def followers : List String := ["and", "else", "for", "if", "in", "is", "not", "or"]

/-- Check that a number of the given kind ends before `rest`. -/
def checkNumberEnd (kind : String) (rest : List Char) : Except String Unit :=
  let isFollower := followers.any fun word => word.toList.isPrefixOf rest
  match rest with
  | c :: _ =>
    if c.toNat < 0x80 && isNameChar c && !isFollower then .error s!"invalid {kind} literal"
    else .ok ()
  | [] => .ok ()

/-- Further digits, with single underscores between them, and what follows. -/
def moreDigits (fuel : Nat) (text : List Char) : Except String (List Char) :=
  match fuel with
  | 0 => .ok text
  | fuel + 1 =>
    match text.dropWhile Char.isDigit with
    | '_' :: rest =>
      if (rest.head?.map Char.isDigit).getD false then moreDigits fuel rest
      else .error "invalid decimal literal"
    | rest => .ok rest

/-- What follows decimal digits. -/
def afterDigits (text : List Char) : Except String (List Char) := moreDigits (text.length + 1) text

/-- What follows digits to a base behind the letter of that base. -/
def afterBased (kind : String) (isDigit : Char → Bool) (fuel : Nat) (text : List Char) :
    Except String (List Char) :=
  match fuel with
  | 0 => .ok text
  | fuel + 1 => do
    let text := match text with
      | '_' :: rest => rest
      | _ => text
    match text with
    | c :: rest =>
      if isDigit c then
        match rest.dropWhile isDigit with
        | '_' :: more => afterBased kind isDigit fuel ('_' :: more)
        | c :: more =>
          if c.isDigit then .error s!"invalid digit '{c}' in {kind} literal"
          else
            checkNumberEnd kind (c :: more)
            return c :: more
        | [] => return []
      else if c.isDigit then .error s!"invalid digit '{c}' in {kind} literal"
      else .error s!"invalid {kind} literal"
    | [] => .error s!"invalid {kind} literal"

/-- What follows the letter of an imaginary number, if there is one, behind a decimal number. -/
def afterDecimal (text : List Char) : Except String (List Char) := do
  match text with
  | c :: rest =>
    if c == 'j' || c == 'J' then
      checkNumberEnd "imaginary" rest
      return rest
    else
      checkNumberEnd "decimal" text
      return text
  | [] => return []

/-- What follows an exponent, if there is one, behind the digits of a decimal number. -/
def afterExponent (text : List Char) : Except String (List Char) := do
  match text with
  | c :: rest =>
    if c == 'e' || c == 'E' then
      match rest with
      | d :: more =>
        if d == '+' || d == '-' then
          if (more.head?.map Char.isDigit).getD false then afterDecimal (← afterDigits more)
          else .error "invalid decimal literal"
        else if d.isDigit then afterDecimal (← afterDigits rest)
        else
          checkNumberEnd "decimal" text
          return text
      | [] => .error "invalid decimal literal"
    else afterDecimal text
  | [] => return []

/-- What follows the fraction of a decimal number behind its point. -/
def afterPoint (text : List Char) : Except String (List Char) := do
  if (text.head?.map Char.isDigit).getD false then afterExponent (← afterDigits text)
  else afterExponent text

/-- What follows zeros with single underscores between them. -/
def afterZeros (fuel : Nat) (text : List Char) : Except String (List Char) :=
  match fuel with
  | 0 => .ok text
  | fuel + 1 =>
    match text with
    | '_' :: rest =>
      if (rest.head?.map Char.isDigit).getD false then
        if rest.head? == some '0' then afterZeros fuel rest else .ok rest
      else .error "invalid decimal literal"
    | '0' :: rest => afterZeros fuel rest
    | rest => .ok rest

/-- The error of a decimal number that starts with a zero. -/
def leadingZeros : String :=
  "leading zeros in decimal integer literals are not permitted; "
    ++ "use an 0o prefix for octal integers"

/-- What follows the number that a text starts with. -/
def afterNumber (text : List Char) : Except String (List Char) := do
  match text with
  | '.' :: rest => afterPoint rest
  | '0' :: c :: rest =>
    let fuel := text.length + 1
    if c == 'x' || c == 'X' then
      afterBased "hexadecimal" (fun c => (Text.hexValue? c).isSome) fuel rest
    else if c == 'o' || c == 'O' then
      afterBased "octal" (fun c => '0' ≤ c && c ≤ '7') fuel rest
    else if c == 'b' || c == 'B' then
      afterBased "binary" (fun c => c == '0' || c == '1') fuel rest
    else
      let rest ← afterZeros fuel (c :: rest)
      let hasMore := (rest.head?.map Char.isDigit).getD false
      let rest ← if hasMore then afterDigits rest else pure rest
      match rest with
      | '.' :: more => afterPoint more
      | c :: _ =>
        if c == 'e' || c == 'E' || c == 'j' || c == 'J' then afterExponent rest
        else if hasMore then .error leadingZeros
        else
          checkNumberEnd "decimal" rest
          return rest
      | [] => if hasMore then .error leadingZeros else return []
  | _ =>
    let rest ← afterDigits text
    match rest with
    | '.' :: more => afterPoint more
    | _ => afterExponent rest

/-! ### Quoted texts -/

/-- What follows the quoted text that starts at the quotes `quotes`, and the line on which it ends;
or the line on which it should have ended. -/
def afterQuote (quotes : List Char) (line : Nat) : List Char → Except Nat (List Char × Nat)
  | [] => .error line
  | '\\' :: '\n' :: rest => afterQuote quotes (line + 1) rest
  | '\\' :: _ :: rest => afterQuote quotes line rest
  | '\n' :: rest => if quotes.length = 1 then .error line else afterQuote quotes (line + 1) rest
  | c :: rest =>
    if quotes.isPrefixOf (c :: rest) then .ok ((c :: rest).drop quotes.length, line)
    else afterQuote quotes line rest

/-- The quoted text at the start of a text: what follows it and the line on which it ends. -/
def quotedText (line : Nat) (text : List Char) : Except String (List Char × Nat) :=
  let quote := text.headD '"'
  let three := List.replicate 3 quote
  if three.isPrefixOf text then
    (afterQuote three line (text.drop 3)).mapError fun line =>
      s!"unterminated triple-quoted string literal (detected at line {line})"
  else
    (afterQuote [quote] line (text.drop 1)).mapError fun line =>
      s!"unterminated string literal (detected at line {line})"

/-- Whether letters may stand in front of a quoted text. -/
def isQuoteMark (letters : List Char) : Bool :=
  ["b", "u", "r", "f", "br", "rb", "fr", "rf"].contains
    (String.ofList (letters.map Char.toLower))

/-! ### Names and operators -/

/-- A character in messages: itself and its number, or its number alone if it is not printable. -/
def badCharacter (c : Char) : String :=
  let digits := (Nat.toDigits 16 c.toNat).map Char.toUpper
  let code := String.ofList (List.replicate (4 - digits.length) '0' ++ digits)
  if Text.isPrintable c then s!"invalid character '{c}' (U+{code})"
  else s!"invalid non-printable character U+{code}"

/-- Whether a character is a letter or, behind the first place of a name, a digit. -/
def isLetter (isFirst : Bool) (c : Char) : Bool :=
  if c.toNat < 0x80 then c.isAlpha || c == '_' || (!isFirst && c.isDigit)
  else if (Text.digitValue? c).isSome then !isFirst
  else Text.isWordChar c

/-- The first character that may not stand in a name. -/
def misfit? (name : List Char) : Option Char :=
  match name with
  | [] => none
  | first :: rest => if isLetter true first then rest.find? (!isLetter false ·) else some first

/-- The operators of several characters, the longest first. -/
def longSigns : List String :=
  ["**=", "//=", ">>=", "<<=", "...", "!=", "%=", "&=", "**", "*=", "+=", "-=", "->", "//", "/=",
    ":=", "<<", "<=", "<>", "==", ">=", ">>", "@=", "^=", "|="]

/-- The operator or single character at the start of a text. -/
def signAt (text : List Char) : List Char :=
  match longSigns.find? fun sign => sign.toList.isPrefixOf text with
  | some sign => sign.toList
  | none => text.take 1

/-- The bracket that closes one. -/
def closing (bracket : Char) : Char :=
  if bracket == '(' then ')' else if bracket == '[' then ']' else '}'

/-! ### Cutting -/

/-- The state between two tokens. -/
structure State where
  /-- The characters still to come. -/
  rest : List Char
  /-- The line, counted from one. -/
  line : Nat := 1
  /-- The open brackets and their lines, the innermost first. -/
  brackets : List (Char × Nat) := []
  /-- Whether a token was read on this line. -/
  inLine : Bool := false
  /-- The columns to which lines are indented, the innermost first. -/
  indents : List Nat := []
  deriving Inhabited

/-- One step: a token, nothing to report, or the end. -/
inductive Step where
  /-- A token and the state behind it. -/
  | token (token : Token) (next : State)
  /-- The state behind what has no meaning. -/
  | skip (next : State)
  /-- The end. -/
  | stop (ending : Ending)
  deriving Inhabited

namespace State

/-- A token of a kind whose characters end before `rest`. -/
def take (state : State) (kind : TokenKind) (rest : List Char) : Step :=
  let text := state.rest.take (state.rest.length - rest.length)
  .token { kind, text, level := state.brackets.length, line := state.line }
    { state with rest, inLine := true }

/-- An opening bracket. -/
def opened (state : State) (bracket : Char) : Step :=
  { state with brackets := (bracket, state.line) :: state.brackets }.take .sign (state.rest.drop 1)

/-- A closing bracket. -/
def closed (state : State) (bracket : Char) : Step :=
  match state.brackets with
  | [] => .stop (.broken s!"unmatched '{bracket}'")
  | (open_, line) :: brackets =>
    if closing open_ == bracket then
      { state with brackets }.take .sign (state.rest.drop 1)
    else
      let message :=
        s!"closing parenthesis '{bracket}' does not match opening parenthesis '{open_}'"
      .stop (.broken (if line = state.line then message else message ++ s!" on line {line}"))

/-- The end of the text. The last line is ended and its indentation taken back first. -/
def atEnd (state : State) : Step :=
  let token (kind : TokenKind) : Token := { kind, text := [], level := 0, line := state.line }
  match state.brackets.getLast?, state.inLine, state.indents with
  | some _, _, _ =>
    match state.brackets with
    | (bracket, line) :: _ => .stop (.unclosed bracket line)
    | [] => .stop .finished
  | none, true, _ => .token (token .newline) { state with inLine := false }
  | none, false, _ :: indents => .token (token .dedent) { state with indents }
  | none, false, [] => .stop .finished

/-- The start of a line that is not empty: a change of the indentation, if there is one. -/
def indentation (state : State) (column : Nat) : Option Step :=
  let token (kind : TokenKind) : Token := { kind, text := [], level := 0, line := state.line }
  let current := state.indents.headD 0
  if column = current then none
  else if current < column then
    some (.token (token .indent) { state with indents := column :: state.indents })
  else
    match state.indents with
    | _ :: indents => some (.token (token .dedent) { state with indents })
    | [] => none

/-- What a name or the letters in front of a quoted text lead to. -/
def word (state : State) : Step :=
  let name := state.rest.takeWhile isNameChar
  let rest := state.rest.drop name.length
  if isQuoteMark name && (rest.head? == some '"' || rest.head? == some '\'') then
    match quotedText state.line rest with
    | .ok (rest, line) =>
      match state.take .quote rest with
      | .token token next => .token token { next with line }
      | step => step
    | .error message => .stop (.broken message)
  else
    match misfit? name with
    | some c => .stop (.broken (badCharacter c))
    | none => state.take .word rest

/-- The step at a character that belongs to a token. -/
def step (state : State) (c : Char) : Step :=
  let rest := state.rest.drop 1
  if isNameChar c && !c.isDigit then state.word
  else if c.isDigit || (c == '.' && (rest.head?.map Char.isDigit).getD false) then
    match afterNumber state.rest with
    | .ok rest => state.take .number rest
    | .error message => .stop (.broken message)
  else if c == '"' || c == '\'' then
    match quotedText state.line state.rest with
    | .ok (rest, line) =>
      match state.take .quote rest with
      | .token token next => .token token { next with line }
      | step => step
    | .error message => .stop (.broken message)
  else if c == '(' || c == '[' || c == '{' then state.opened c
  else if c == ')' || c == ']' || c == '}' then state.closed c
  else if Text.isPrintable c then
    state.take .sign (state.rest.drop (signAt state.rest).length)
  else .stop (.broken (badCharacter c))

/-- Whether a character is passed over between tokens. -/
def isGap (c : Char) : Bool := c == ' ' || c == '\t' || c == '\x0c'

/-- The step at the start of the characters still to come. -/
def next (state : State) : Step :=
  match state.rest with
  | [] => state.atEnd
  | '\n' :: rest =>
    if state.brackets.isEmpty && state.inLine then
      .token { kind := .newline, text := ['\n'], level := 0, line := state.line }
        { state with rest, line := state.line + 1, inLine := false }
    else .skip { state with rest, line := state.line + 1 }
  | '#' :: rest => .skip { state with rest := rest.dropWhile (· != '\n') }
  | '\\' :: rest =>
    match rest with
    | ['\n'] => .stop (.cut "unexpected EOF while parsing")
    | '\n' :: rest => .skip { state with rest, line := state.line + 1, inLine := true }
    | _ => .stop (.cut "unexpected character after line continuation character")
  | c :: rest =>
    if !state.inLine && state.brackets.isEmpty then
      let blanks := (c :: rest).takeWhile isGap
      match (c :: rest).drop blanks.length with
      | [] => .skip { state with rest := [] }
      | d :: more =>
        if d == '\n' || d == '#' then .skip { state with rest := d :: more }
        else
          match state.indentation blanks.length with
          | some step => step
          | none => { state with rest := d :: more }.step d
    else if isGap c then .skip { state with rest }
    else state.step c

/-- The tokens from a state on. -/
def tokens (fuel : Nat) (state : State) : List Token × Ending :=
  match fuel with
  | 0 => ([], .finished)
  | fuel + 1 =>
    match state.next with
    | .token token next =>
      let (more, ending) := next.tokens fuel
      (token :: more, ending)
    | .skip next => next.tokens fuel
    | .stop .finished =>
      ([{ kind := .finish, text := [], level := 0, line := state.line }], .finished)
    | .stop ending => ([], ending)

end State

/-- The tokens of a text and how they end. -/
def tokens (text : List Char) : List Token × Ending :=
  let text := Text.unifyNewlines text
  { rest := text : State }.tokens (3 * text.length + 4)

end ScriptAdvisor.Literal
