import ScriptAdvisor.Yaml.Scalar

/-! # Cutting YAML into tokens

Indentation opens and closes collections. A scalar turns out to be a key only when the colon behind
it is met, so that the token that announces the key is put in front of it afterwards.

* `Yaml.Lexer` is the state between tokens, `Yaml.Lexer.token` reads the next one.
* `Yaml.tokens` cuts a whole text. -/

namespace ScriptAdvisor.Yaml

/-- A place where a key may have started. -/
structure KeyStart where
  /-- How many brackets are open there. -/
  level : Nat
  /-- How many tokens come before. -/
  tokenCount : Nat
  /-- Whether a colon must follow. -/
  isRequired : Bool
  /-- How many characters come before. -/
  index : Nat
  /-- How many lines come before. -/
  line : Nat
  /-- How many characters of the line come before. -/
  column : Nat
  deriving Inhabited

/-- The state between two tokens. -/
structure Lexer where
  /-- The place in the text. -/
  cursor : Cursor
  /-- The tokens so far. -/
  tokens : List Token := []
  /-- How many brackets are open. -/
  level : Nat := 0
  /-- The column of the innermost block collection. -/
  indent : Int := -1
  /-- The columns of the block collections around it. -/
  outer : List Int := []
  /-- Whether a key may start here. -/
  allowsKey : Bool := true
  /-- Where keys may have started, the innermost first. -/
  keys : List KeyStart := []
  deriving Inhabited

/-- A key and the colon behind it are at most this many characters apart. -/
def keyReach : Nat := 1024

namespace Lexer

/-- Add a token. -/
def push (lexer : Lexer) (token : Token) : Lexer :=
  { lexer with tokens := lexer.tokens ++ [token] }

/-- Add a token behind the first `place` tokens. -/
def insertAt (lexer : Lexer) (place : Nat) (token : Token) : Lexer :=
  { lexer with tokens := lexer.tokens.take place ++ token :: lexer.tokens.drop place }

/-- Move on in the text. -/
def moveTo (lexer : Lexer) (cursor : Cursor) : Lexer := { lexer with cursor }

/-- Pass over blanks, comments and line breaks. A new line allows a key unless brackets are open. -/
def skipToToken (fuel : Nat) (lexer : Lexer) : Lexer :=
  match fuel with
  | 0 => lexer
  | fuel + 1 =>
    let cursor := lexer.cursor.skipWhile (· == ' ')
    let cursor := if cursor.peek == '#' then cursor.skipWhile (!isBreakOrEnd ·) else cursor
    match cursor.lineBreak? with
    | some (_, cursor) =>
      skipToToken fuel
        { lexer with cursor, allowsKey := lexer.allowsKey || lexer.level == 0 }
    | none => { lexer with cursor }

/-- Whether a key that started on an earlier line or too far back is out of reach. -/
def isStale (lexer : Lexer) (key : KeyStart) : Bool :=
  key.line != lexer.cursor.line || keyReach < lexer.cursor.index - key.index

/-- Forget the keys that are out of reach. -/
def dropStale (lexer : Lexer) : Except Error Lexer :=
  if lexer.keys.any fun key => lexer.isStale key && key.isRequired then .error .lostKey
  else .ok { lexer with keys := lexer.keys.filter fun key => !lexer.isStale key }

/-- The key that may have started at the present level. -/
def key? (lexer : Lexer) : Option KeyStart :=
  lexer.keys.find? fun key => key.level == lexer.level

/-- The state without the key of the present level. -/
def withoutKey (lexer : Lexer) : Lexer :=
  { lexer with keys := lexer.keys.filter fun key => key.level != lexer.level }

/-- Give up the key that may have started at the present level. -/
def dropKey (lexer : Lexer) : Except Error Lexer :=
  match lexer.key? with
  | some key => if key.isRequired then .error .lostKey else .ok lexer.withoutKey
  | none => .ok lexer

/-- Remember that a key may start here. -/
def saveKey (lexer : Lexer) : Except Error Lexer :=
  if lexer.allowsKey then do
    let isRequired := lexer.level == 0 && lexer.indent == lexer.cursor.column
    let lexer ← lexer.dropKey
    let key : KeyStart :=
      { level := lexer.level, tokenCount := lexer.tokens.length, isRequired
        index := lexer.cursor.index, line := lexer.cursor.line
        column := lexer.cursor.column }
    return { lexer with keys := key :: lexer.keys }
  else .ok lexer

/-- Close the block collections that are indented further than `column`. -/
def closeBlocks (lexer : Lexer) (column : Int) : Lexer :=
  if lexer.level == 0 && column < lexer.indent then
    match _h : lexer.outer with
    | [] => lexer
    | indent :: outer =>
      closeBlocks { lexer.push .blockEnd with indent, outer } column
  else lexer
termination_by lexer.outer.length
decreasing_by simp [_h]

/-- Note a block collection at `column`, if it is indented further than the one around it. -/
def openBlock (lexer : Lexer) (column : Nat) : Bool × Lexer :=
  if lexer.indent < column then
    (true, { lexer with indent := column, outer := lexer.indent :: lexer.outer })
  else (false, lexer)

/-- Note a block collection at the present column, and add the token that opens it. -/
def openBlockWith (lexer : Lexer) (token : Token) : Except Error Lexer :=
  if lexer.level == 0 then
    if lexer.allowsKey then
      match lexer.openBlock lexer.cursor.column with
      | (true, lexer) => .ok (lexer.push token)
      | (false, lexer) => .ok lexer
    else .error .misplaced
  else .ok lexer

/-- The marker of a document. -/
def documentMarker (lexer : Lexer) (token : Token) : Except Error Lexer := do
  let lexer ← (lexer.closeBlocks (-1)).dropKey
  return ({ lexer with allowsKey := false }.moveTo (lexer.cursor.forward 3)).push token

/-- An opening bracket. -/
def openBracket (lexer : Lexer) (token : Token) : Except Error Lexer := do
  let lexer ← lexer.saveKey
  return ({ lexer with level := lexer.level + 1, allowsKey := true }.moveTo
    lexer.cursor.next).push token

/-- A closing bracket. -/
def closeBracket (lexer : Lexer) (token : Token) : Except Error Lexer :=
  if lexer.level == 0 then .error .unopened
  else do
    let lexer ← lexer.dropKey
    return ({ lexer with level := lexer.level - 1, allowsKey := false }.moveTo
      lexer.cursor.next).push token

/-- A comma. -/
def comma (lexer : Lexer) : Except Error Lexer := do
  let lexer ← { lexer with allowsKey := true }.dropKey
  return (lexer.moveTo lexer.cursor.next).push .flowEntry

/-- A dash that starts an item. -/
def dash (lexer : Lexer) : Except Error Lexer := do
  let lexer ← lexer.openBlockWith .blockSequenceStart
  let lexer ← { lexer with allowsKey := true }.dropKey
  return (lexer.moveTo lexer.cursor.next).push .blockEntry

/-- A question mark that starts a key. -/
def question (lexer : Lexer) : Except Error Lexer := do
  let lexer ← lexer.openBlockWith .blockMappingStart
  let lexer ← { lexer with allowsKey := lexer.level == 0 }.dropKey
  return (lexer.moveTo lexer.cursor.next).push .key

/-- A colon that starts a value. What came before it was a key. -/
def colon (lexer : Lexer) : Except Error Lexer := do
  match lexer.key? with
  | some key =>
    let lexer := lexer.withoutKey.insertAt key.tokenCount .key
    let lexer :=
      if lexer.level == 0 then
        match lexer.openBlock key.column with
        | (true, lexer) => lexer.insertAt key.tokenCount .blockMappingStart
        | (false, lexer) => lexer
      else lexer
    return ({ lexer with allowsKey := false }.moveTo lexer.cursor.next).push .value
  | none =>
    let lexer ← lexer.openBlockWith .blockMappingStart
    let lexer ← { lexer with allowsKey := lexer.level == 0 }.dropKey
    return (lexer.moveTo lexer.cursor.next).push .value

/-- A token that may start a key, given its reader. -/
def keyLike (lexer : Lexer) (read : Cursor → Except Error (Token × Cursor)) :
    Except Error Lexer := do
  let lexer ← lexer.saveKey
  let (token, cursor) ← read lexer.cursor
  return ({ lexer with allowsKey := false }.moveTo cursor).push token

/-- A plain scalar. A line that ends behind it allows a key. -/
def plain (lexer : Lexer) : Except Error Lexer := do
  let lexer ← lexer.saveKey
  let (text, lineEnded, cursor) :=
    plainBody (lexer.level != 0) (lexer.indent + 1) (lexer.cursor.rest.length + 1) [] false
      lexer.cursor
  return ({ lexer with allowsKey := lineEnded }.moveTo cursor).push
    (.scalar (String.ofList text) true)

/-- A block scalar. -/
def block (lexer : Lexer) (isFolded : Bool) : Except Error Lexer := do
  let lexer ← { lexer with allowsKey := true }.dropKey
  let (text, cursor) ← blockScalar isFolded lexer.indent lexer.cursor
  return (lexer.moveTo cursor).push (.scalar text false)

/-- Whether a plain scalar starts with `c`, which `after` follows. -/
def startsPlain (inFlow : Bool) (c after : Char) : Bool :=
  !(isSpaceOrEnd c || "-?:,[]{}#&*!|>'\"%@`".toList.contains c)
    || (!isSpaceOrEnd after && (c == '-' || (!inFlow && (c == '?' || c == ':'))))

/-- The next token, which does not start with a blank. -/
def token (lexer : Lexer) : Except Error Lexer :=
  let cursor := lexer.cursor
  let c := cursor.peek
  let after := cursor.peek 1
  let inFlow := lexer.level != 0
  if c == '%' && cursor.column == 0 then do
    let lexer ← (lexer.closeBlocks (-1)).dropKey
    let (token, cursor) ← directive lexer.cursor
    return ({ lexer with allowsKey := false }.moveTo cursor).push token
  else if cursor.column == 0 && cursor.isMarker '-' then lexer.documentMarker .documentStart
  else if cursor.column == 0 && cursor.isMarker '.' then lexer.documentMarker .documentEnd
  else if c == '[' then lexer.openBracket .flowSequenceStart
  else if c == '{' then lexer.openBracket .flowMappingStart
  else if c == ']' then lexer.closeBracket .flowSequenceEnd
  else if c == '}' then lexer.closeBracket .flowMappingEnd
  else if c == ',' then lexer.comma
  else if c == '-' && isSpaceOrEnd after then lexer.dash
  else if c == '?' && (inFlow || isSpaceOrEnd after) then lexer.question
  else if c == ':' && (inFlow || isSpaceOrEnd after) then lexer.colon
  else if c == '*' then
    lexer.keyLike fun cursor =>
      (anchorName cursor).map fun (name, cursor) => (.alias name, cursor)
  else if c == '&' then
    lexer.keyLike fun cursor =>
      (anchorName cursor).map fun (name, cursor) => (.anchor name, cursor)
  else if c == '!' then
    lexer.keyLike fun cursor => (rawTag cursor).map fun (tag, cursor) => (.tag tag, cursor)
  else if c == '|' && !inFlow then lexer.block false
  else if c == '>' && !inFlow then lexer.block true
  else if c == '\'' || c == '"' then
    lexer.keyLike fun cursor =>
      (quotedScalar (c == '"') cursor).map fun (text, cursor) => (.scalar text false, cursor)
  else if startsPlain inFlow c after then lexer.plain
  else .error .noToken

/-- Cut the rest of the text. -/
def scan (fuel : Nat) (lexer : Lexer) : Except Error (List Token) :=
  match fuel with
  | 0 => .error .noToken
  | fuel + 1 => do
    let lexer := lexer.skipToToken (lexer.cursor.rest.length + 1)
    let lexer ← lexer.dropStale
    let lexer := lexer.closeBlocks lexer.cursor.column
    if lexer.cursor.rest.isEmpty then
      let lexer ← (lexer.closeBlocks (-1)).dropKey
      return lexer.tokens ++ [.streamEnd]
    else scan fuel (← lexer.token)

end Lexer

/-- Whether a character may occur in YAML. -/
def isAllowed (c : Char) : Bool :=
  let n := c.toNat
  n == 0x09 || n == 0x0A || n == 0x0D || (0x20 ≤ n && n ≤ 0x7E) || n == 0x85
    || (0xA0 ≤ n && n ≤ 0xD7FF) || (0xE000 ≤ n && n ≤ 0xFFFD) || 0x10000 ≤ n

/-- The tokens of a text. A byte order mark at its start is passed over. -/
def tokens (text : List Char) : Except Error (List Token) :=
  if text.all isAllowed then
    let cursor : Cursor := { rest := text }
    let cursor := if cursor.peek == '\ufeff' then cursor.next else cursor
    Lexer.scan (text.length + 2) { cursor }
  else .error .unprintable

end ScriptAdvisor.Yaml
