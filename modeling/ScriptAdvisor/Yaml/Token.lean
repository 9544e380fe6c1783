/-! # Tokens of YAML

The tokens a YAML text is cut into, what can be wrong with such a text, and places in it.

* `Yaml.Token` is the type of tokens.
* `Yaml.Error` lists the errors, `Yaml.Error.message` words them.
* `Yaml.Cursor` is a place in a text that knows its line and column. -/

namespace ScriptAdvisor.Yaml

/-- Why a text is not a YAML document that can be read. -/
inductive Error where
  /-- A character may not occur in YAML. -/
  | unprintable
  /-- No token starts with this character. -/
  | noToken
  /-- A key is not followed by a colon. -/
  | lostKey
  /-- An entry, a key or a value may not stand here. -/
  | misplaced
  /-- A closing bracket has no opening one. -/
  | unopened
  /-- A quoted scalar does not end. -/
  | unfinished
  /-- An escape is unknown. -/
  | badEscape
  /-- A directive is malformed. -/
  | badDirective
  /-- The name of an anchor is malformed. -/
  | badAnchor
  /-- A tag is malformed. -/
  | badTag
  /-- The head of a block scalar is malformed. -/
  | badBlock
  /-- A token does not fit the grammar. -/
  | unexpected
  /-- There is more than one document. -/
  | severalDocuments
  /-- An alias has no anchor. -/
  | unknownAlias
  /-- Two anchors have the same name. -/
  | repeatedAnchor
  /-- A tag has no meaning here. -/
  | unknownTag
  /-- A collection is used as a key. -/
  | badKey
  /-- A value to merge is no mapping. -/
  | badMerge
  /-- A scalar does not fit its tag. -/
  | badScalar
  deriving DecidableEq, Repr, Inhabited

/-- The wording of an error. -/
def Error.message : Error → String
  | unprintable => "special characters are not allowed"
  | noToken => "found character that cannot start any token"
  | lostKey => "could not find expected ':'"
  | misplaced => "an entry, a key or a value is not allowed here"
  | unopened => "found a closing bracket without an opening one"
  | unfinished => "found unexpected end of a quoted scalar"
  | badEscape => "found unknown escape character"
  | badDirective => "found a malformed directive"
  | badAnchor => "found a malformed anchor or alias"
  | badTag => "found a malformed tag"
  | badBlock => "found a malformed block scalar"
  | unexpected => "found an unexpected token"
  | severalDocuments => "expected a single document in the stream"
  | unknownAlias => "found undefined alias"
  | repeatedAnchor => "found duplicate anchor"
  | unknownTag => "could not determine a constructor for the tag"
  | badKey => "found unhashable key"
  | badMerge => "expected a mapping or list of mappings for merging"
  | badScalar => "found a scalar that does not fit its tag"

/-- A tag as it is written: its handle, if any, and the rest. -/
structure RawTag where
  /-- The handle, such as `!` or `!!`. -/
  handle : Option String
  /-- What follows the handle. -/
  suffix : String
  deriving DecidableEq, Repr, Inhabited

/-- The tokens of YAML. -/
inductive Token where
  /-- A directive: its name and its words. -/
  | directive (name : String) (words : List String)
  /-- Three dashes. -/
  | documentStart
  /-- Three dots. -/
  | documentEnd
  /-- The end of the text. -/
  | streamEnd
  /-- Indentation opens a list. -/
  | blockSequenceStart
  /-- Indentation opens a mapping. -/
  | blockMappingStart
  /-- Indentation closes a collection. -/
  | blockEnd
  /-- An opening square bracket. -/
  | flowSequenceStart
  /-- A closing square bracket. -/
  | flowSequenceEnd
  /-- An opening curly bracket. -/
  | flowMappingStart
  /-- A closing curly bracket. -/
  | flowMappingEnd
  /-- A comma inside brackets. -/
  | flowEntry
  /-- A dash that starts an item. -/
  | blockEntry
  /-- A key follows. -/
  | key
  /-- A value follows. -/
  | value
  /-- A reference to an anchor. -/
  | alias (name : String)
  /-- A name for the next node. -/
  | anchor (name : String)
  /-- A tag for the next node. -/
  | tag (tag : RawTag)
  /-- A scalar and whether it is written plainly. -/
  | scalar (text : String) (isPlain : Bool)
  deriving DecidableEq, Repr, Inhabited

/-! ### Cursors -/

/-- A place in a text. -/
structure Cursor where
  /-- What follows. -/
  rest : List Char
  /-- How many characters come before. -/
  index : Nat := 0
  /-- How many lines come before. -/
  line : Nat := 0
  /-- How many characters of the line come before. -/
  column : Nat := 0
  deriving Inhabited

/-- The character that stands for the end of the text. -/
def endMark : Char := '\x00'

/-- Whether a character ends a line. -/
def isBreak (c : Char) : Bool :=
  c == '\r' || c == '\n' || c == '\u0085' || c == '\u2028' || c == '\u2029'

/-- Whether a character ends a line or the text. -/
def isBreakOrEnd (c : Char) : Bool := isBreak c || c == endMark

/-- Whether a character is a blank, or ends a line or the text. -/
def isSpaceOrEnd (c : Char) : Bool := isBreakOrEnd c || c == ' ' || c == '\t'

namespace Cursor

/-- The character `n` places ahead. -/
def peek (cursor : Cursor) (n : Nat := 0) : Char := cursor.rest[n]?.getD endMark

/-- One character further. -/
def next (cursor : Cursor) : Cursor :=
  match cursor.rest with
  | [] => cursor
  | c :: rest =>
    if (isBreak c && c != '\r') || (c == '\r' && rest.head? != some '\n') then
      { rest, index := cursor.index + 1, line := cursor.line + 1, column := 0 }
    else
      { rest, index := cursor.index + 1, line := cursor.line
        column := if c == '\ufeff' then cursor.column else cursor.column + 1 }

/-- `n` characters further. -/
def forward (cursor : Cursor) : Nat → Cursor
  | 0 => cursor
  | n + 1 => cursor.next.forward n

/-- The longest run of characters of a class, and the place behind it. -/
def takeWhile (cursor : Cursor) (p : Char → Bool) : List Char × Cursor :=
  let run := cursor.rest.takeWhile p
  (run, cursor.forward run.length)

/-- The place behind the longest run of characters of a class. -/
def skipWhile (cursor : Cursor) (p : Char → Bool) : Cursor := (cursor.takeWhile p).2

/-- The line break at a place, as it counts in a scalar, and the place behind it. -/
def lineBreak? (cursor : Cursor) : Option (Char × Cursor) :=
  match cursor.rest with
  | '\r' :: '\n' :: _ => some ('\n', cursor.forward 2)
  | c :: _ =>
    if c == '\u2028' || c == '\u2029' then some (c, cursor.next)
    else if isBreak c then some ('\n', cursor.next)
    else none
  | [] => none

/-- Whether three of the character `c` stand alone at a place. -/
def isMarker (cursor : Cursor) (c : Char) : Bool :=
  cursor.peek == c && cursor.peek 1 == c && cursor.peek 2 == c && isSpaceOrEnd (cursor.peek 3)

/-- Whether a document starts or ends at a place. -/
def isDocumentMarker (cursor : Cursor) : Bool := cursor.isMarker '-' || cursor.isMarker '.'

end Cursor

end ScriptAdvisor.Yaml
