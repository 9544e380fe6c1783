import ScriptAdvisor.Fault
import ScriptAdvisor.Literal.Match

/-! # Values of literals

An expression is a literal if it is built from numbers, quoted texts, truth values and null with
brackets alone. Members of sets and keys of mappings must be values that do not change.

* `LiteralError` says why a text is no literal.
* `Literal.check` checks a text. -/

namespace ScriptAdvisor

/-- Why a text is no literal. -/
inductive LiteralError where
  /-- It is no expression. -/
  | malformed (message : String)
  /-- It is an expression, but no literal. -/
  | unsuitable (message : String)
  deriving DecidableEq, Repr, Inhabited

namespace Literal

/-- The message for an expression that is no literal. -/
def notLiteral : LiteralError := .unsuitable "malformed node or string"

/-- What a literal is like where it matters: nothing special, or something that may change, of a
kind. -/
abbrev Nature := Option Shape

/-- Whether a token is a number, and if so whether it is imaginary. -/
def number? : Tree → Option Bool
  | .leaf token =>
    if token.kind = .number then
      some (token.text.getLast? == some 'j' || token.text.getLast? == some 'J')
    else none
  | .branch _ _ => none

/-- Whether a tree is a number with at most one sign, and if so whether it is imaginary. -/
def signedNumber? : Tree → Option Bool
  | .branch .factor [sign, part] =>
    if sign.isSign "+" || sign.isSign "-" then number? part else none
  | tree => number? tree

/-- The nature of a constant. -/
def constant? (token : Token) : Option Nature :=
  match token.kind with
  | .number => some none
  | .quote => if (Quote.ofText token.text).isPattern then none else some none
  | .word =>
    if ["True", "False", "None"].contains (String.ofList token.text) then some none else none
  | .sign => if token.text == "...".toList then some none else none
  | _ => none

/-- The first nature in a list that is something that may change. -/
def firstChanging (natures : List Nature) : Nature := natures.findSome? id

/-- Check that what is used as a member or a key does not change. -/
def steady (nature : Nature) : Except LiteralError Unit :=
  match nature with
  | some shape => .error (.unsuitable (Fault.unhashable shape).message)
  | none => .ok ()

mutual

/-- The nature of a literal. -/
def nature : Tree → Except LiteralError Nature
  | .leaf token =>
    match constant? token with
    | some nature => .ok nature
    | none => .error notLiteral
  | .branch rule parts =>
    match rule with
    | .quotes => do
      let natures ← naturesOf parts
      return firstChanging natures
    | .tuple | .expressions => do
      let natures ← naturesOf parts
      return firstChanging natures
    | .set => do
      let natures ← naturesOf parts
      steady (firstChanging natures)
      return some .set
    | .mapping => do
      checkEntries parts
      return some .object
    | .sum =>
      match parts with
      | [left, sign, right] =>
        if (sign.isSign "+" || sign.isSign "-") && signedNumber? left == some false
            && number? right == some true then .ok none
        else .error notLiteral
      | _ => .error notLiteral
    | .factor =>
      if (signedNumber? (.branch rule parts)).isSome then .ok none else .error notLiteral
    | .primary =>
      match parts with
      | [function, _, _] =>
        if function.word? == some "set" then .ok (some .set) else .error notLiteral
      | _ => .error notLiteral
    | _ => .error notLiteral

/-- The natures of the parts of a literal that are no brackets or commas. -/
def naturesOf : List Tree → Except LiteralError (List Nature)
  | [] => .ok []
  | .branch .items parts :: rest => do
    let first ← naturesOf parts
    let more ← naturesOf rest
    return first ++ more
  | .leaf token :: rest =>
    if token.kind = .sign && token.text != "...".toList then naturesOf rest
    else
      match constant? token with
      | some nature => (naturesOf rest).map (nature :: ·)
      | none => .error notLiteral
  | .branch rule parts :: rest => do
    let first ← nature (.branch rule parts)
    let more ← naturesOf rest
    return first :: more

/-- Check the entries of a mapping. -/
def checkEntries : List Tree → Except LiteralError Unit
  | [] => .ok ()
  | .branch .entries parts :: rest => do
    checkEntries parts
    checkEntries rest
  | .branch .pair [key, _, value] :: rest => do
    let keyNature ← nature key
    let _ ← nature value
    steady keyNature
    checkEntries rest
  | .branch .entry _ :: _ => .error (.unsuitable "malformed node or string: None")
  | .leaf _ :: rest => checkEntries rest
  | _ :: _ => .error notLiteral

end

/-- Check that a text is a literal. -/
def check (text : List Char) : Except LiteralError Unit :=
  if text.contains '\x00' then
    .error (.unsuitable "source code string cannot contain null bytes")
  else
    match parse text with
    | .error message => .error (.malformed message)
    | .ok tree => (nature tree).map fun _ => ()

end Literal

end ScriptAdvisor
