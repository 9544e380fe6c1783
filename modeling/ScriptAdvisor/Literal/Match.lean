import ScriptAdvisor.Literal.Grammar
import Std.Data.HashMap

/-! # Matching the grammar

Patterns are matched from left to right, and the first choice that fits is taken. What some rules
match at a place is remembered, so that trying several choices costs little.

* `Literal.Result` is what comes of matching a pattern at a place.
* `Literal.parse` matches a whole text; if it does not fit, a second reading words what is wrong. -/

namespace ScriptAdvisor.Literal

/-- What comes of matching a pattern at a place. -/
inductive Result where
  /-- It matches these trees up to this place. -/
  | fits (trees : List Tree) (next : Nat)
  /-- It does not match. -/
  | misses
  /-- Reading stops because of what is wrong. -/
  | stops (message : String)
  deriving Inhabited

/-- What matching works on. -/
structure Source where
  /-- The tokens. -/
  tokens : Array Token
  /-- How they end. -/
  ending : Ending
  deriving Inhabited

/-- What is known about the rules at the places of a text. -/
abbrev Memory := Std.HashMap (Rule × Nat) Result

/-- The rules whose matches are remembered. Nothing is looked for twice in them, so that a wording
is missed where the rule was first matched without looking for one. -/
def remembered : List Rule :=
  [.expression, .starExpression, .disjunction, .conjunction, .inversion, .bitOr, .bitXor, .bitAnd,
    .shift, .sum, .term, .factor, .awaiting, .primary, .quotes, .callBody, .badNaming, .target,
    .targetAtom, .targetPrimary]

/-- A match in the course of which memory grows and the last place looked at moves on. -/
abbrev Matching (α : Type) := StateM (Memory × Nat) α

/-- The wording for a bracket that is not closed. -/
def neverClosed (bracket : Char) : String := s!"'{bracket}' was never closed"

namespace Source

/-- The message at the end of the tokens. -/
def endMessage (source : Source) : String :=
  match source.ending with
  | .finished => "invalid syntax"
  | .broken message => message
  | .cut message => message
  | .unclosed bracket _ => neverClosed bracket

/-- Match a token that passes a test. -/
def token (source : Source) (place : Nat) (fits : Token → Bool) : Matching Result := do
  modify fun (memory, reached) => (memory, max reached place)
  match source.tokens[place]? with
  | some token => return if fits token then .fits [.leaf token] (place + 1) else .misses
  | none => return .stops source.endMessage

/-- How many brackets are open before a place. -/
def levelBefore (source : Source) (place : Nat) : Nat :=
  ((source.tokens[place - 1]?).map Token.level).getD 0

end Source

/-- Whether a token is a keyword. -/
def Token.isKeyword (token : Token) : Bool :=
  token.kind = .word && keywords.contains (String.ofList token.text)

mutual

/-- Match a pattern at a place, where `found` is what the sequence around it has matched. -/
def matchPattern (source : Source) (searches : Bool) (fuel : Nat) (found : List Tree)
    (place : Nat) (pattern : Pattern) : Matching Result :=
  match fuel with
  | 0 => return .misses
  | fuel + 1 =>
    match pattern with
    | .keyword text =>
      source.token place fun token => token.kind = .word && token.text == text.toList
    | .sign text =>
      source.token place fun token => token.kind = .sign && token.text == text.toList
    | .kind kind => source.token place fun token => token.kind = kind && !token.isKeyword
    | .softKeyword =>
      source.token place fun token =>
        token.kind = .word && softKeywords.contains (String.ofList token.text)
    | .rule rule => matchRule source searches fuel place rule
    | .seq parts => matchSeq source searches fuel [] place parts
    | .choice options => matchChoice source searches fuel place options
    | .many part => matchMany source searches fuel [] place part
    | .maybe part => do
      match ← matchPattern source searches fuel [] place part with
      | .misses => return .fits [] place
      | result => return result
    | .ahead part => do
      match ← matchPattern source searches fuel [] place part with
      | .fits _ _ => return .fits [] place
      | result => return result
    | .unless part => do
      match ← matchPattern source searches fuel [] place part with
      | .fits _ _ => return .misses
      | .misses => return .fits [] place
      | result => return result
    | .search part =>
      if searches then matchPattern source searches fuel found place part else return .misses
    | .plain part => matchPattern source false fuel found place part
    | .report wording =>
      match wording found (source.levelBefore place) with
      | some message => return .stops message
      | none => return .misses
    | .check wording =>
      match wording found with
      | some message => return .stops message
      | none => return .fits [] place

/-- Match a rule at a place. -/
def matchRule (source : Source) (searches : Bool) (fuel : Nat) (place : Nat) (rule : Rule) :
    Matching Result :=
  match fuel with
  | 0 => return .misses
  | fuel + 1 => do
    match (← get).1[(rule, place)]? with
    | some result => return result
    | none =>
      let result ← matchPattern source searches fuel [] place rule.body
      let result := match result with
        | .fits trees next => .fits [.ofRule rule trees] next
        | result => result
      if remembered.contains rule then
        modify fun (memory, reached) => (memory.insert (rule, place) result, reached)
      return result

/-- Match patterns one after the other. -/
def matchSeq (source : Source) (searches : Bool) (fuel : Nat) (found : List Tree) (place : Nat)
    (parts : List Pattern) : Matching Result :=
  match fuel with
  | 0 => return .misses
  | fuel + 1 =>
    match parts with
    | [] => return .fits found place
    | part :: rest => do
      match ← matchPattern source searches fuel found place part with
      | .fits trees next => matchSeq source searches fuel (found ++ trees) next rest
      | result => return result

/-- Match the first pattern that fits. -/
def matchChoice (source : Source) (searches : Bool) (fuel : Nat) (place : Nat)
    (options : List Pattern) : Matching Result :=
  match fuel with
  | 0 => return .misses
  | fuel + 1 =>
    match options with
    | [] => return .misses
    | option :: rest => do
      match ← matchPattern source searches fuel [] place option with
      | .misses => matchChoice source searches fuel place rest
      | result => return result

/-- Match a pattern as often as it fits. -/
def matchMany (source : Source) (searches : Bool) (fuel : Nat) (found : List Tree) (place : Nat)
    (part : Pattern) : Matching Result :=
  match fuel with
  | 0 => return .fits found place
  | fuel + 1 => do
    match ← matchPattern source searches fuel [] place part with
    | .fits trees next =>
      if next = place then return .fits found place
      else matchMany source searches fuel (found ++ trees) next part
    | .misses => return .fits found place
    | result => return result

end

/-- Match a whole text. The last place looked at comes with the result. -/
def matchWhole (source : Source) (searches : Bool) : Result × Nat :=
  let fuel := 400 * (source.tokens.size + 2)
  let (result, _, reached) := (matchRule source searches fuel 0 .whole).run ({}, 0)
  (result, reached)

/-- The message for what is wrong, given the last place looked at. Errors in the tokens come before
those of the grammar, even if they were not reached, and so does a bracket left open on an earlier
line, unless the last token was reached with a wording of its own. -/
def finalMessage (source : Source) (wording : Option String) (reached : Nat) : String :=
  let message := wording.getD "invalid syntax"
  match source.tokens[reached]?, source.ending with
  | some _, .broken message => message
  | some token, .unclosed bracket opened =>
    if opened < token.line && (wording.isNone || reached + 1 < source.tokens.size) then
      neverClosed bracket
    else message
  | _, _ => message

/-- The expression of a whole text, without the end of the text. -/
def wholePart : List Tree → Tree
  | [.branch .whole (part :: _)] => part
  | trees => .branch .whole trees

/-- The tree of a text, or what is wrong with it. -/
def parse (text : List Char) : Except String Tree :=
  let (tokens, ending) := tokens text
  let source : Source := { tokens := tokens.toArray, ending }
  match matchWhole source false with
  | (.fits trees _, _) => .ok (wholePart trees)
  | (.stops message, reached) => .error (finalMessage source (some message) reached)
  | (.misses, last) =>
    match matchWhole source true with
    | (.stops message, reached) => .error (finalMessage source (some message) reached)
    | (_, reached) =>
      match (source.tokens[last]?).map Token.kind with
      | some .indent => .error "unexpected indent"
      | some .dedent => .error "unexpected unindent"
      | _ => .error (finalMessage source none reached)

end ScriptAdvisor.Literal
