import ScriptAdvisor.Literal.Value
import ScriptAdvisor.Screen.Emoji
import ScriptAdvisor.Screen.Style

/-! # Markup

Text for the screen carries its styles as tags in square brackets: `[bold]` starts a style,
`[/bold]` ends it and `[/]` ends the last one. A backslash before a tag makes it text. A tag may
have parameters behind an equals sign; those of a tag that starts with an at sign are a call with
literal arguments. The screen is plain, so tags only have to be taken out.

* `Markup.Piece` is a stretch of text or a tag, `Markup.pieces` cuts a text into them.
* `Markup.render` is the text without its tags, and the stretches that have a style.
* `Markup.plain` is the text as it is shown; `MarkupError` says why there is none. -/

namespace ScriptAdvisor

/-- Why a text has no plain form. -/
inductive MarkupError where
  /-- A tag ends a style that is not open. -/
  | unmatched (tag : String) (place : Nat)
  /-- There is no style to end. -/
  | nothingToClose (place : Nat)
  /-- The arguments among the parameters are no expression. -/
  | badArguments (arguments parameters message : String)
  /-- The arguments among the parameters are no literal. -/
  | badParameters (parameters message : String)
  /-- A number in the description of a style cannot be read. -/
  | style (fault : Fault)
  deriving DecidableEq, Repr, Inhabited

/-- The wording of the error. -/
def MarkupError.message : MarkupError → String
  | unmatched tag place => s!"closing tag '[{tag}]' at position {place} doesn't match any open tag"
  | nothingToClose place => s!"closing tag '[/]' at position {place} has nothing to close"
  | badArguments arguments parameters message =>
    s!"error parsing {Text.quoted arguments} in {Text.quoted parameters}; {message}"
  | badParameters parameters message => s!"error parsing {Text.quoted parameters}; {message}"
  | style fault => fault.message

namespace Markup

/-- A stretch of text or a tag. -/
inductive Piece where
  /-- Text to show. -/
  | text (content : List Char)
  /-- A tag, what stands between its brackets and its place. -/
  | tag (content : List Char) (place : Nat)
  deriving DecidableEq, Repr, Inhabited

/-- Whether a tag may start with a character. -/
def startsTag (c : Char) : Bool := ('a' ≤ c && c ≤ 'z') || c == '#' || c == '/' || c == '@'

/-- The tag a text starts with: the number of backslashes before it and what stands between its
brackets. -/
def tagAt? (text : List Char) : Option (Nat × List Char) :=
  let slashes := (text.takeWhile (· == '\\')).length
  match text.drop slashes with
  | '[' :: rest =>
    let content := rest.takeWhile fun c => c != '[' && c != ']'
    match content, rest.drop content.length with
    | first :: _, ']' :: _ => if startsTag first then some (slashes, content) else none
    | _, _ => none
  | _ => none

/-- A backslash before a bracket is not shown. -/
def unescape : List Char → List Char
  | '\\' :: '[' :: rest => '[' :: unescape rest
  | c :: rest => c :: unescape rest
  | [] => []

/-- Text as a piece, unless it is empty. Emoji stand in the place of their names. -/
def textPiece (content : List Char) : List Piece :=
  if content.isEmpty then [] else [.text (Emoji.replace (unescape content))]

/-- A tag behind backslashes. Two of them show one; one that is left over makes the tag text. -/
def tagPieces (slashes : Nat) (content : List Char) (place : Nat) : List Piece :=
  textPiece (List.replicate (slashes / 2) '\\')
    ++ if slashes % 2 = 1 then textPiece ('[' :: content ++ [']'])
      else [.tag content (place + slashes)]

/-- The pieces of a text that starts at `place`; `pending` is the text before it, backwards. -/
def pieces (place : Nat) (pending : List Char) : List Char → List Piece
  | [] => textPiece pending.reverse
  | c :: rest =>
    match tagAt? (c :: rest) with
    | some (slashes, content) =>
      let size := slashes + content.length + 1
      textPiece pending.reverse ++ tagPieces slashes content place
        ++ pieces (place + size + 1) [] (rest.drop size)
    | none => pieces (place + 1) (c :: pending) rest
termination_by text => text.length
decreasing_by all_goals (simp only [List.length_drop, List.length_cons]; omega)

/-! ### Tags -/

/-- A tag that is open. -/
structure OpenTag where
  /-- Its style in normal form. -/
  style : String
  /-- What stands behind its equals sign, if there is one. -/
  parameters : Option (List Char)
  /-- How much text comes before it. -/
  start : Nat
  deriving DecidableEq, Repr, Inhabited

/-- A stretch of text with a style. -/
structure Span where
  /-- How much text comes before it. -/
  start : Nat
  /-- How much text there is up to its end. -/
  stop : Nat
  /-- The description of its style. -/
  style : List Char
  deriving DecidableEq, Repr, Inhabited

/-- What stands before the first equals sign of a tag. -/
def nameOf (content : List Char) : List Char := content.takeWhile (· != '=')

/-- What stands behind the first equals sign of a tag. -/
def parametersOf (content : List Char) : Option (List Char) :=
  match content.dropWhile (· != '=') with
  | [] => none
  | _ :: parameters => some parameters

/-- The normal form of the description of a style. -/
def normalForm (description : List Char) : Except MarkupError String :=
  (Style.normalForm description).mapError .style

/-- The tag with the given content, open behind `start` characters of text. -/
def OpenTag.make (content : List Char) (start : Nat) : Except MarkupError OpenTag := do
  let style ← normalForm (nameOf content)
  return { style, parameters := parametersOf content, start }

namespace OpenTag

/-- Whether a tag stands for an action rather than a style. -/
def isAction (tag : OpenTag) : Bool := tag.style.startsWith "@"

/-- The arguments among parameters: those in the brackets of a call, none for a name alone, and
otherwise all there is. -/
def argumentsOf (parameters : List Char) : List Char :=
  let trimmed := Text.trim parameters
  let rest := trimmed.dropWhile fun c => Text.isWordChar c || c == '.'
  if rest.isEmpty then "()".toList
  else if rest.head? == some '(' && rest.getLast? == some ')' && !rest.contains '\n' then rest
  else trimmed

/-- Check the parameters of a tag that is closed. Only those of an action must be literals. -/
def check (tag : OpenTag) : Except MarkupError Unit :=
  match tag.parameters.filter fun parameters => tag.isAction && !parameters.isEmpty with
  | none => .ok ()
  | some parameters =>
    let arguments := argumentsOf parameters
    (Literal.check arguments).mapError fun
      | .malformed message =>
        .badArguments (String.ofList arguments) (String.ofList parameters) message
      | .unsuitable message => .badParameters (String.ofList parameters) message

/-- The stretch of text from a tag on, unless it stands for an action. -/
def span? (tag : OpenTag) (stop : Nat) : Option Span :=
  let description :=
    match tag.parameters with
    | some parameters => tag.style.toList ++ ' ' :: parameters
    | none => tag.style.toList
  if tag.isAction then none else some { start := tag.start, stop, style := description }

end OpenTag

/-! ### Rendering -/

/-- The tags without the last one of a style. -/
def closeStyle? (style : String) : List OpenTag → Option (OpenTag × List OpenTag)
  | [] => none
  | tag :: rest =>
    if tag.style == style then some (tag, rest)
    else (closeStyle? style rest).map fun (found, others) => (found, tag :: others)

/-- The tag that a closing tag ends, and the tags that stay open, the last one first. -/
def close (opened : List OpenTag) (content : List Char) (place : Nat) :
    Except MarkupError (OpenTag × List OpenTag) := do
  let name := Text.trim ((nameOf content).drop 1)
  if name.isEmpty then
    match opened with
    | tag :: rest => return (tag, rest)
    | [] => .error (.nothingToClose place)
  else
    match closeStyle? (← normalForm name) opened with
    | some found => return found
    | none => .error (.unmatched (String.ofList content) place)

/-- The text of pieces and its stretches with a style, where `shown` is the text so far and `opened`
are the tags that are open, the last one first. -/
def renderFrom (shown : List Char) (opened : List OpenTag) (spans : List Span) :
    List Piece → Except MarkupError (List Char × List Span)
  | [] => .ok (shown, spans ++ opened.filterMap fun tag => tag.span? shown.length)
  | .text content :: rest => renderFrom (shown ++ content) opened spans rest
  | .tag content place :: rest => do
    if content.head? == some '/' then
      let (tag, opened) ← close opened content place
      tag.check
      renderFrom shown opened (spans ++ (tag.span? shown.length).toList) rest
    else
      let tag ← OpenTag.make content shown.length
      renderFrom shown (tag :: opened) spans rest

/-- The text without its tags, and its stretches with a style. -/
def render (text : String) : Except MarkupError (List Char × List Span) :=
  renderFrom [] [] [] (pieces 0 [] text.toList)

/-- Whether a stretch is shown. In a text of one line all are, in one of several lines those that
hold more than line breaks. -/
def Span.isShown (span : Span) (text : List Char) : Bool :=
  !text.contains '\n' || ((text.take span.stop).drop span.start).any (· != '\n')

/-- Check that the styles of the stretches that are shown have readable numbers. Descriptions that
say nothing else of use are passed over. -/
def checkSpans (text : List Char) (spans : List Span) : Except MarkupError Unit :=
  match (spans.filter fun span => span.isShown text).findSome? fault? with
  | some fault => .error (.style fault)
  | none => .ok ()
where
  /-- What is wrong with a number in the description of a style. -/
  fault? (span : Span) : Option Fault :=
    match Style.parse span.style with
    | .error (.number fault) => some fault
    | _ => none

/-- The text as it is shown, without its tags. -/
def plain (text : String) : Except MarkupError String := do
  let (shown, spans) ← render text
  checkSpans shown spans
  return String.ofList shown

end Markup

end ScriptAdvisor
