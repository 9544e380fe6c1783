import ScriptAdvisor.Text.Digit
import ScriptAdvisor.Yaml.Token

/-! # Scalars of YAML

The readers of scalars, names, tags and directives. Each starts at a cursor and gives back the
cursor behind what it read.

* `Yaml.quotedScalar`, `Yaml.plainBody` and `Yaml.blockScalar` read the kinds of scalar.
* `Yaml.anchorName`, `Yaml.rawTag` and `Yaml.directive` read the rest. -/

namespace ScriptAdvisor.Yaml

/-! ### Quoted, plain and block scalars -/

/-- The line break at the end of a line as it folds: a single one becomes a blank, and further ones
stay. -/
def folded (first : Char) (more : List Char) : List Char :=
  (if first != '\n' then [first] else if more.isEmpty then [' '] else []) ++ more

/-- The line breaks inside a quoted scalar, with the blanks around them passed over. -/
def quotedBreaks (fuel : Nat) (cursor : Cursor) : Except Error (List Char × Cursor) :=
  match fuel with
  | 0 => .error .unfinished
  | fuel + 1 =>
    if cursor.isDocumentMarker then .error .unfinished
    else
      let cursor := cursor.skipWhile fun c => c == ' ' || c == '\t'
      match cursor.lineBreak? with
      | some (c, cursor) => do
        let (more, cursor) ← quotedBreaks fuel cursor
        return (c :: more, cursor)
      | none => .ok ([], cursor)

/-- The blanks and line breaks inside a quoted scalar. -/
def quotedSpaces (cursor : Cursor) : Except Error (List Char × Cursor) :=
  let (blanks, cursor) := cursor.takeWhile fun c => c == ' ' || c == '\t'
  if cursor.rest.isEmpty then .error .unfinished
  else
    match cursor.lineBreak? with
    | some (first, cursor) => do
      let (more, cursor) ← quotedBreaks (cursor.rest.length + 1) cursor
      return (folded first more, cursor)
    | none => .ok (blanks, cursor)

/-- The character of an escape with a single letter. -/
def simpleEscape? : Char → Option Char
  | '0' => some '\x00'
  | 'a' => some '\x07'
  | 'b' => some '\x08'
  | 't' => some '\t'
  | '\t' => some '\t'
  | 'n' => some '\n'
  | 'v' => some '\x0b'
  | 'f' => some '\x0c'
  | 'r' => some '\r'
  | 'e' => some '\x1b'
  | ' ' => some ' '
  | '"' => some '"'
  | '\\' => some '\\'
  | '/' => some '/'
  | 'N' => some '\u0085'
  | '_' => some '\u00a0'
  | 'L' => some '\u2028'
  | 'P' => some '\u2029'
  | _ => none

/-- How many hexadecimal digits follow the letter of an escape. -/
def escapeWidth? : Char → Option Nat
  | 'x' => some 2
  | 'u' => some 4
  | 'U' => some 8
  | _ => none

/-- The number hexadecimal digits denote. -/
def hexNumber? (digits : List Char) : Option Nat :=
  digits.foldlM (fun n c => (Text.hexValue? c).map (16 * n + ·)) 0

/-- The escape at a backslash of a double-quoted scalar. -/
def escaped (cursor : Cursor) : Except Error (List Char × Cursor) :=
  let letter := cursor.peek 1
  match simpleEscape? letter, escapeWidth? letter with
  | some c, _ => .ok ([c], cursor.forward 2)
  | none, some width =>
    let digits := (cursor.rest.drop 2).take width
    match hexNumber? digits with
    | some n =>
      if digits.length = width then .ok ([Char.ofNat n], cursor.forward (2 + width))
      else .error .badEscape
    | none => .error .badEscape
  | none, none =>
    match cursor.next.lineBreak? with
    | some (_, cursor) => quotedBreaks (cursor.rest.length + 1) cursor
    | none => .error .badEscape

/-- The characters of a quoted scalar up to its closing quote. -/
def quotedBody (isDouble : Bool) (fuel : Nat) (cursor : Cursor) :
    Except Error (List Char × Cursor) :=
  match fuel with
  | 0 => .error .unfinished
  | fuel + 1 =>
    let quote := if isDouble then '"' else '\''
    let c := cursor.peek
    if c == quote then
      if !isDouble && cursor.peek 1 == '\'' then do
        let (more, cursor) ← quotedBody isDouble fuel (cursor.forward 2)
        return ('\'' :: more, cursor)
      else .ok ([], cursor.next)
    else if isDouble && c == '\\' then do
      let (first, cursor) ← escaped cursor
      let (more, cursor) ← quotedBody isDouble fuel cursor
      return (first ++ more, cursor)
    else if isSpaceOrEnd c then do
      let (first, cursor) ← quotedSpaces cursor
      let (more, cursor) ← quotedBody isDouble fuel cursor
      return (first ++ more, cursor)
    else do
      let (more, cursor) ← quotedBody isDouble fuel cursor.next
      return (c :: more, cursor)

/-- A quoted scalar, from its opening quote on. -/
def quotedScalar (isDouble : Bool) (cursor : Cursor) : Except Error (String × Cursor) := do
  let (text, cursor) ← quotedBody isDouble (cursor.rest.length + 1) cursor.next
  return (String.ofList text, cursor)

/-- The line breaks behind a line of a plain scalar, with blanks passed over; nothing if a document
starts or ends there. -/
def plainBreaks (fuel : Nat) (cursor : Cursor) : Option (List Char) × Cursor :=
  match fuel with
  | 0 => (some [], cursor)
  | fuel + 1 =>
    if cursor.isDocumentMarker && cursor.column == 0 then (none, cursor)
    else
      let cursor := cursor.skipWhile (· == ' ')
      match cursor.lineBreak? with
      | some (c, cursor) =>
        let (more, cursor) := plainBreaks fuel cursor
        (more.map (c :: ·), cursor)
      | none => (some [], cursor)

/-- The blanks and line breaks behind a piece of a plain scalar, whether a line ended, and the place
behind them. -/
def plainSpaces (cursor : Cursor) : List Char × Bool × Cursor :=
  let (blanks, cursor) := cursor.takeWhile (· == ' ')
  match cursor.lineBreak? with
  | some (first, cursor) =>
    let (more, cursor) := plainBreaks (cursor.rest.length + 1) cursor
    ((more.map (folded first)).getD [], true, cursor)
  | none => (blanks, false, cursor)

/-- Whether a plain scalar ends before the character `c`, which `after` follows. -/
def endsPlain (inFlow : Bool) (c after : Char) : Bool :=
  isSpaceOrEnd c
    || (c == ':' && (isSpaceOrEnd after || (inFlow && ",[]{}".toList.contains after)))
    || (inFlow && ",?[]{}".toList.contains c)

/-- A piece of a plain scalar without blanks. -/
def plainPiece (inFlow : Bool) : List Char → List Char
  | [] => []
  | c :: rest =>
    if endsPlain inFlow c (rest.head?.getD endMark) then [] else c :: plainPiece inFlow rest

/-- A plain scalar from a place on, given the blanks before it. Its further lines must be indented
to the column `indent` at least. Also tells whether a line ended behind it. -/
def plainBody (inFlow : Bool) (indent : Int) (fuel : Nat) (blanks : List Char) (lineEnded : Bool)
    (cursor : Cursor) : List Char × Bool × Cursor :=
  match fuel with
  | 0 => ([], lineEnded, cursor)
  | fuel + 1 =>
    let piece := plainPiece inFlow cursor.rest
    if cursor.peek == '#' || piece.isEmpty then ([], lineEnded, cursor)
    else
      let (spaces, lineEnded, cursor) := plainSpaces (cursor.forward piece.length)
      if spaces.isEmpty || cursor.peek == '#' || (!inFlow && (cursor.column : Int) < indent) then
        (blanks ++ piece, lineEnded, cursor)
      else
        let (more, lineEnded, cursor) := plainBody inFlow indent fuel spaces lineEnded cursor
        (blanks ++ piece ++ more, lineEnded, cursor)

/-- How the line breaks at the end of a block scalar are treated. -/
inductive Chomping where
  /-- All but one are dropped. -/
  | clip
  /-- All are dropped. -/
  | strip
  /-- All are kept. -/
  | keep
  deriving DecidableEq, Repr, Inhabited

/-- The head of a block scalar: how it ends and how far it is indented, in either order. -/
def blockIndicators (cursor : Cursor) : Except Error (Chomping × Option Nat × Cursor) :=
  let chomping? (c : Char) : Option Chomping :=
    if c == '+' then some .keep else if c == '-' then some .strip else none
  let indent? (c : Char) : Except Error (Option Nat) :=
    if c == '0' then .error .badBlock
    else if c.isDigit then .ok (some (c.toNat - 0x30)) else .ok none
  match chomping? cursor.peek with
  | some chomping => do
    match ← indent? (cursor.peek 1) with
    | some n => return (chomping, some n, cursor.forward 2)
    | none => return (chomping, none, cursor.next)
  | none => do
    match ← indent? cursor.peek with
    | some n =>
      match chomping? (cursor.peek 1) with
      | some chomping => return (chomping, some n, cursor.forward 2)
      | none => return (.clip, some n, cursor.next)
    | none => return (.clip, none, cursor)

/-- The head of a block scalar, which a blank or the end of the line follows. -/
def blockHead (cursor : Cursor) : Except Error (Chomping × Option Nat × Cursor) := do
  let (chomping, indent, cursor) ← blockIndicators cursor
  let c := cursor.peek
  if isBreakOrEnd c || c == ' ' then return (chomping, indent, cursor) else .error .badBlock

/-- The place behind the rest of a line that holds nothing but blanks and a comment. -/
def restOfLine (error : Error) (cursor : Cursor) : Except Error Cursor :=
  let cursor := cursor.skipWhile (· == ' ')
  let cursor := if cursor.peek == '#' then cursor.skipWhile (!isBreakOrEnd ·) else cursor
  match cursor.lineBreak? with
  | some (_, cursor) => .ok cursor
  | none => if cursor.rest.isEmpty then .ok cursor else .error error

/-- The empty lines at the start of a block scalar and the greatest indentation among them. -/
def leadingBreaks (fuel : Nat) (cursor : Cursor) (widest : Nat) : List Char × Nat × Cursor :=
  match fuel with
  | 0 => ([], widest, cursor)
  | fuel + 1 =>
    let cursor := cursor.skipWhile (· == ' ')
    let widest := max widest cursor.column
    match cursor.lineBreak? with
    | some (c, cursor) =>
      let (more, widest, cursor) := leadingBreaks fuel cursor widest
      (c :: more, widest, cursor)
    | none => ([], widest, cursor)

/-- The empty lines between the lines of a block scalar indented to the column `indent`. -/
def innerBreaks (indent : Nat) (fuel : Nat) (cursor : Cursor) : List Char × Cursor :=
  match fuel with
  | 0 => ([], cursor)
  | fuel + 1 =>
    let room := indent - cursor.column
    let blanks := (cursor.rest.takeWhile (· == ' ')).length
    let cursor := cursor.forward (min room blanks)
    match cursor.lineBreak? with
    | some (c, cursor) =>
      let (more, cursor) := innerBreaks indent fuel cursor
      (c :: more, cursor)
    | none => ([], cursor)

/-- The lines of a block scalar from a place at its indentation on, with the line break behind the
last and the empty lines behind that. -/
def blockBody (isFolded : Bool) (indent : Nat) (fuel : Nat) (cursor : Cursor) :
    List Char × List Char × List Char × Cursor :=
  match fuel with
  | 0 => ([], [], [], cursor)
  | fuel + 1 =>
    if cursor.column = indent && !cursor.rest.isEmpty then
      let leadingText := !(cursor.peek == ' ' || cursor.peek == '\t')
      let (line, cursor) := cursor.takeWhile (!isBreakOrEnd ·)
      let (lineBreak, cursor) :=
        match cursor.lineBreak? with
        | some (c, cursor) => ([c], cursor)
        | none => ([], cursor)
      let (breaks, cursor) := innerBreaks indent (cursor.rest.length + 1) cursor
      if cursor.column = indent && !cursor.rest.isEmpty then
        let joint :=
          if isFolded && lineBreak == ['\n'] && leadingText
              && !(cursor.peek == ' ' || cursor.peek == '\t') then
            if breaks.isEmpty then [' '] else []
          else lineBreak
        let (more, last, trailing, cursor) := blockBody isFolded indent fuel cursor
        (line ++ joint ++ breaks ++ more, last, trailing, cursor)
      else (line, lineBreak, breaks, cursor)
    else ([], [], [], cursor)

/-- A block scalar, from its indicator on. `parentIndent` is the indentation around it. -/
def blockScalar (isFolded : Bool) (parentIndent : Int) (cursor : Cursor) :
    Except Error (String × Cursor) := do
  let (chomping, given, cursor) ← blockHead cursor.next
  let cursor ← restOfLine .badBlock cursor
  let least : Nat := max (parentIndent + 1).toNat 1
  let fuel := cursor.rest.length + 1
  let (breaks, indent, cursor) :=
    match given with
    | some n =>
      let indent := least + n - 1
      let (breaks, cursor) := innerBreaks indent fuel cursor
      (breaks, indent, cursor)
    | none =>
      let (breaks, widest, cursor) := leadingBreaks fuel cursor 0
      (breaks, max least widest, cursor)
  let (text, last, trailing, cursor) := blockBody isFolded indent fuel cursor
  -- Without a line of text the empty lines are trailing ones.
  let (text, trailing) :=
    if text.isEmpty && last.isEmpty && trailing.isEmpty then ([], breaks)
    else (breaks ++ text, trailing)
  let ending :=
    match chomping with
    | .strip => []
    | .clip => last
    | .keep => last ++ trailing
  return (String.ofList (text ++ ending), cursor)

/-! ### Names and tags -/

/-- The characters of a name. -/
def isNameChar (c : Char) : Bool := c.isAlphanum || c == '-' || c == '_'

/-- The name of an anchor or alias, from its indicator on. -/
def anchorName (cursor : Cursor) : Except Error (String × Cursor) :=
  let (name, cursor) := cursor.next.takeWhile isNameChar
  let c := cursor.peek
  if name.isEmpty || !(isSpaceOrEnd c || r"?:,]}%@`".toList.contains c) then .error .badAnchor
  else .ok (String.ofList name, cursor)

/-- The characters of a tag. -/
def isTagChar (c : Char) : Bool := c.isAlphanum || "-;/?:@&=+$,_.!~*'()[]%".toList.contains c

/-- A tag, from its exclamation mark on. -/
def rawTag (cursor : Cursor) : Except Error (RawTag × Cursor) := do
  let (tag, cursor) ←
    if cursor.peek 1 == '<' then
      let (uri, cursor) := (cursor.forward 2).takeWhile isTagChar
      if uri.isEmpty || cursor.peek != '>' then .error .badTag
      else .ok (⟨none, String.ofList uri⟩, cursor.next)
    else if isSpaceOrEnd (cursor.peek 1) then .ok (⟨none, "!"⟩, cursor.next)
    else
      let word := (cursor.rest.drop 1).takeWhile fun c => !(isBreakOrEnd c || c == ' ')
      if word.contains '!' then
        let (name, cursor) := cursor.next.takeWhile isNameChar
        if cursor.peek != '!' then .error .badTag
        else
          let (uri, cursor) := cursor.next.takeWhile isTagChar
          if uri.isEmpty then .error .badTag
          else .ok (⟨some ("!" ++ String.ofList name ++ "!"), String.ofList uri⟩, cursor)
      else
        let (uri, cursor) := cursor.next.takeWhile isTagChar
        if uri.isEmpty then .error .badTag else .ok (⟨some "!", String.ofList uri⟩, cursor)
  let c := cursor.peek
  if isBreakOrEnd c || c == ' ' then return (tag, cursor) else .error .badTag

/-- The words of a line before its comment. -/
def lineWords (line : List Char) : List String :=
  let words := (String.ofList line).splitOn " "
  (words.takeWhile fun word => !word.startsWith "#").filter (!·.isEmpty)

/-- Whether the words behind the name of a directive are well formed: a version has two numbers, a
tag directive a handle and a meaning, and others may have any words. -/
def isDirective (name : String) (words : List String) : Bool :=
  if name == "YAML" then
    match words with
    | [version] =>
      match version.splitOn "." with
      | [major, minor] =>
        !major.isEmpty && !minor.isEmpty && major.toList.all Char.isDigit
          && minor.toList.all Char.isDigit
      | _ => false
    | _ => false
  else if name == "TAG" then
    match words with
    | [handle, _] =>
      handle.startsWith "!" && (handle == "!" || (handle.endsWith "!" && handle.length ≥ 2))
    | _ => false
  else true

/-- A directive, from its percent sign on. -/
def directive (cursor : Cursor) : Except Error (Token × Cursor) :=
  let (name, cursor) := cursor.next.takeWhile isNameChar
  let c := cursor.peek
  if name.isEmpty || !(isBreakOrEnd c || c == ' ') then .error .badDirective
  else
    let (line, cursor) := cursor.takeWhile (!isBreakOrEnd ·)
    let name := String.ofList name
    let words := lineWords line
    if isDirective name words then
      .ok (.directive name words, (cursor.lineBreak?.map (·.2)).getD cursor)
    else .error .badDirective

end ScriptAdvisor.Yaml
