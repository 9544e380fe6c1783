import ScriptAdvisor.Literal.Quote
import ScriptAdvisor.Literal.Token

/-! # The grammar of literals

Literals are a part of a language of expressions, and a text that is none is told apart by where it
leaves that language. The grammar is kept as data: a rule is described by a pattern, whose choices
are tried in order. Some choices are there only to word what is wrong; they are tried once it is
known that a text does not fit.

* `Literal.Tree` is what a pattern matches.
* `Literal.Pattern` is the type of patterns, `Literal.Rule` lists the rules and `Literal.Rule.body`
  describes them. -/

namespace ScriptAdvisor.Literal

/-- The rules of the grammar. -/
inductive Rule where
  /-- A whole text. -/
  | whole
  /-- Expressions divided by commas. -/
  | expressions
  /-- An expression. -/
  | expression
  /-- An expression that gives way. -/
  | yielding
  /-- Expressions divided by commas, some of them perhaps behind a star. -/
  | starExpressions
  /-- An expression, perhaps behind a star. -/
  | starExpression
  /-- Expressions, perhaps named or behind a star. -/
  | items
  /-- An expression, perhaps named or behind a star. -/
  | item
  /-- An expression with a name. -/
  | naming
  /-- An expression, perhaps with a name. -/
  | named
  /-- Alternatives. -/
  | disjunction
  /-- Conditions that go together. -/
  | conjunction
  /-- A condition, perhaps turned round. -/
  | inversion
  /-- A comparison. -/
  | comparison
  /-- Operands of the weakest operator on bits. -/
  | bitOr
  /-- Operands of the next operator on bits. -/
  | bitXor
  /-- Operands of the strongest operator on bits. -/
  | bitAnd
  /-- Operands of shifts. -/
  | shift
  /-- Terms of a sum. -/
  | sum
  /-- Factors of a product. -/
  | term
  /-- A factor with its signs. -/
  | factor
  /-- A power. -/
  | power
  /-- An expression that is waited for. -/
  | awaiting
  /-- An atom with calls and members behind it. -/
  | primary
  /-- An atom. -/
  | atom
  /-- Quoted texts that follow one another. -/
  | quotes
  /-- An expression in brackets. -/
  | group
  /-- A tuple in brackets. -/
  | tuple
  /-- A set. -/
  | set
  /-- A mapping. -/
  | mapping
  /-- The entries of a mapping. -/
  | entries
  /-- An entry of a mapping, or a mapping taken over behind stars. -/
  | entry
  /-- A key and a value. -/
  | pair
  /-- The clauses of a comprehension. -/
  | clauses
  /-- A clause of a comprehension. -/
  | clause
  /-- A comprehension in round brackets. -/
  | generator
  /-- A comprehension of a set. -/
  | setOver
  /-- A comprehension of a mapping. -/
  | mappingOver
  /-- What stands between the brackets of a call. -/
  | callBody
  /-- The arguments of a call. -/
  | arguments
  /-- The arguments with keywords. -/
  | keywords
  /-- An expression behind a star. -/
  | starred
  /-- An argument with a keyword or behind a star. -/
  | keywordOrStarred
  /-- An argument with a keyword or behind two stars. -/
  | keywordOrTwoStars
  /-- A function without a name. -/
  | lambda
  /-- The parameters of such a function. -/
  | parameters
  /-- A parameter without a default. -/
  | bareParameter
  /-- A parameter with a default. -/
  | defaultParameter
  /-- A parameter with or without a default. -/
  | anyParameter
  /-- The parameters from the first star on. -/
  | starParameters
  /-- The parameter behind two stars. -/
  | twoStarParameter
  /-- The parameters before a stroke. -/
  | strokeParameters
  /-- The parameters before a stroke, the last ones of which have defaults. -/
  | strokeDefaultParameters
  /-- What a clause gives values to. -/
  | targets
  /-- One of the things a clause gives values to. -/
  | target
  /-- A member or an atom that is given a value. -/
  | targetAtom
  /-- What stands before the last member of a target. -/
  | targetPrimary
  /-- An expression read without looking for what is wrong. -/
  | plainExpression
  /-- Wordings for an expression. -/
  | badExpression
  /-- Wordings for a statement of old. -/
  | badStatement
  /-- Wordings for an expression with a name. -/
  | badNaming
  /-- Wordings for an expression in brackets. -/
  | badGroup
  /-- Wordings for a comprehension. -/
  | badComprehension
  /-- Wordings for a comprehension of a mapping. -/
  | badMappingOver
  /-- Wordings for the entries of a mapping. -/
  | badEntries
  /-- Wordings for an entry of a mapping. -/
  | badEntry
  /-- Wordings for what a clause gives values to. -/
  | badTarget
  /-- Wordings for arguments. -/
  | badArguments
  /-- Wordings for an argument with a keyword. -/
  | badKeyword
  /-- Wordings for parameters. -/
  | badParameters
  /-- Wordings for the parameters from the first star on. -/
  | badStarParameters
  /-- Wordings for the parameter behind two stars. -/
  | badTwoStarParameter
  deriving DecidableEq, Repr, Inhabited, Hashable

/-- What a pattern matches. -/
inductive Tree where
  /-- A token. -/
  | leaf (token : Token)
  /-- The parts of what a rule matches. -/
  | branch (rule : Rule) (parts : List Tree)
  deriving Inhabited

namespace Tree

/-- The tree of a rule. A single part stands for itself, and brackets around an expression leave no
trace. -/
def ofRule (rule : Rule) (parts : List Tree) : Tree :=
  match rule, parts with
  | _, [part] => part
  | .group, [_, part, _] => part
  | _, _ => branch rule parts

/-- The word a tree consists of. -/
def word? : Tree → Option String
  | leaf token => if token.kind = .word then some (String.ofList token.text) else none
  | branch _ _ => none

/-- Whether a tree is an operator. -/
def isSign (sign : String) : Tree → Bool
  | leaf token => token.kind = .sign && token.text == sign.toList
  | branch _ _ => false

end Tree

/-- A pattern of tokens. -/
inductive Pattern where
  /-- A keyword. -/
  | keyword (text : String)
  /-- An operator or a bracket. -/
  | sign (text : String)
  /-- A token of a kind; words that are keywords do not count. -/
  | kind (kind : TokenKind)
  /-- One of the names that are keywords in some places. -/
  | softKeyword
  /-- What a rule matches. -/
  | rule (rule : Rule)
  /-- Patterns one after the other. -/
  | seq (parts : List Pattern)
  /-- The first pattern that matches. -/
  | choice (options : List Pattern)
  /-- A pattern as often as it matches. -/
  | many (part : Pattern)
  /-- A pattern or nothing. -/
  | maybe (part : Pattern)
  /-- A pattern matches here. -/
  | ahead (part : Pattern)
  /-- A pattern does not match here. -/
  | unless (part : Pattern)
  /-- A pattern tried only to word what is wrong. -/
  | search (part : Pattern)
  /-- A pattern read without looking for what is wrong. -/
  | plain (part : Pattern)
  /-- The wording of what is wrong, given what was matched in the sequence and how many brackets are
  open behind it. Without a wording the pattern does not match. -/
  | report (wording : List Tree → Nat → Option String)
  /-- The wording of what is wrong with what was matched in the sequence. Without one all is
  well. -/
  | check (wording : List Tree → Option String)
  deriving Inhabited

/-- The keywords. -/
def keywords : List String :=
  ["False", "None", "True", "and", "as", "assert", "async", "await", "break", "class", "continue",
    "def", "del", "elif", "else", "except", "finally", "for", "from", "global", "if", "import",
    "in", "is", "lambda", "nonlocal", "not", "or", "pass", "raise", "return", "try", "while",
    "with", "yield"]

/-- The names that are keywords in some places. -/
def softKeywords : List String := ["_", "case", "match"]

/-! ### What is wrong -/

/-- What an expression is called in messages. -/
def Tree.title : Tree → String
  | .leaf token =>
    match token.kind with
    | .word =>
      let text := String.ofList token.text
      if ["True", "False", "None"].contains text then text else "name"
    | .sign => "ellipsis"
    | _ => "literal"
  | .branch rule parts =>
    match rule with
    | .expression => "conditional expression"
    | .yielding => "yield expression"
    | .naming => "named expression"
    | .comparison => "comparison"
    | .awaiting => "await expression"
    | .quotes => "literal"
    | .tuple => "tuple"
    | .expressions => "tuple"
    | .starExpressions => "tuple"
    | .starExpression => "starred"
    | .item => "starred"
    | .starred => "starred"
    | .set => "set display"
    | .mapping => "dict literal"
    | .generator => "generator expression"
    | .setOver => "set comprehension"
    | .mappingOver => "dict comprehension"
    | .lambda => "lambda"
    | .primary =>
      if ((parts.reverse.drop 1).head?.map (Tree.isSign ".")).getD false then "attribute"
      else "function call"
    | _ => "expression"

mutual

/-- The part of an expression that cannot be given a value. -/
def Tree.fixed? : Tree → Option Tree
  | .leaf token =>
    let tree := Tree.leaf token
    match token.kind with
    | .word => if keywords.contains (String.ofList token.text) then some tree else none
    | .sign => if token.text == "...".toList then some tree else none
    | _ => some tree
  | .branch rule parts =>
    if [.tuple, .expressions, .starExpressions, .items, .starExpression, .item].contains rule then
      Tree.fixedIn? parts
    else if rule = .comparison then
      match parts with
      | left :: .leaf token :: _ => if token.text == "in".toList then Tree.fixed? left else none
      | _ => none
    else if rule = .primary && Tree.title (.branch rule parts) == "attribute" then none
    else some (.branch rule parts)

/-- The first part of expressions that cannot be given a value. -/
def Tree.fixedIn? : List Tree → Option Tree
  | [] => none
  | part :: rest => (Tree.fixed? part).or (Tree.fixedIn? rest)

end

namespace Pattern

/-- A fixed wording. -/
def fail (message : String) : Pattern := .report fun _ _ => some message

/-- A wording that names what the first part of the sequence is. -/
def failOn (message : String → String) : Pattern :=
  .report fun parts _ => parts.head?.map fun part => message part.title

/-- A pattern once or more often. -/
def oneOrMore (part : Pattern) : Pattern := .seq [part, .many part]

/-- A pattern once or more often, with commas between. -/
def listOf (part : Pattern) : Pattern := .seq [part, .many (.seq [.sign ",", part])]

/-- A name. -/
def name : Pattern := .kind .word

end Pattern

/-- Words that were statements once. -/
def oldStatements : List String := ["print", "exec"]

/-- Whether a tree is a word that was a statement once. -/
def Tree.isOldStatement (tree : Tree) : Bool :=
  (tree.word?.map oldStatements.contains).getD false

/-- The wording for a comparison that lacks an equals sign. -/
def lonelyEquals : String :=
  "invalid syntax. Maybe you meant '==' or ':=' instead of '='?"

namespace Rule

open Pattern

/-- An operand followed by operators and operands. -/
def operands (operand : Rule) (signs : List String) : Pattern :=
  .seq [.rule operand, .many (.seq [.choice (signs.map .sign), .rule operand])]

/-- The operator of a comparison. -/
def comparisonSign : Pattern :=
  .choice
    [.sign "==", .sign "!=", .sign "<=", .sign "<", .sign ">=", .sign ">",
      .seq [.keyword "not", .keyword "in"], .keyword "in", .seq [.keyword "is", .keyword "not"],
      .keyword "is"]

/-- An argument of a call without a keyword. -/
def argument : Pattern :=
  .choice
    [.rule .starred,
      .seq [.choice [.rule .naming, .seq [.rule .expression, .unless (.sign ":=")]],
        .unless (.sign "=")]]

/-- A parameter, its default if `value` matches one, and what ends it. -/
def parameter (value : List Pattern) : Pattern :=
  .seq (.name :: value ++ [.choice [.sign ",", .ahead (.sign ":")]])

/-- A default. -/
def fallback : Pattern := .seq [.sign "=", .rule .expression]

/-- The description of a rule for arguments and parameters. -/
def bodyOfCall : Rule → Pattern
  | .callBody =>
    .choice
      [.seq [.rule .arguments, .maybe (.sign ","), .ahead (.sign ")")],
        .search (.rule .badArguments)]
  | .arguments =>
    .choice
      [.seq [listOf argument, .maybe (.seq [.sign ",", .rule .keywords])], .rule .keywords]
  | .keywords =>
    .choice
      [.seq [listOf (.rule .keywordOrStarred), .sign ",", listOf (.rule .keywordOrTwoStars)],
        listOf (.rule .keywordOrStarred), listOf (.rule .keywordOrTwoStars)]
  | .starred =>
    .choice
      [.seq [.sign "*", .rule .expression], .seq [.sign "*", fail "Invalid star expression"]]
  | .keywordOrStarred =>
    .choice
      [.search (.rule .badKeyword), .seq [.name, .sign "=", .rule .expression], .rule .starred]
  | .keywordOrTwoStars =>
    .choice
      [.search (.rule .badKeyword), .seq [.name, .sign "=", .rule .expression],
        .seq [.sign "**", .rule .expression]]
  | .lambda =>
    .seq [.keyword "lambda", .maybe (.rule .parameters), .sign ":", .rule .expression]
  | .parameters =>
    .choice
      [.search (.rule .badParameters),
        .seq [.rule .strokeParameters, .many (.rule .bareParameter),
          .many (.rule .defaultParameter), .maybe (.rule .starParameters)],
        .seq [.rule .strokeDefaultParameters, .many (.rule .defaultParameter),
          .maybe (.rule .starParameters)],
        .seq [oneOrMore (.rule .bareParameter), .many (.rule .defaultParameter),
          .maybe (.rule .starParameters)],
        .seq [oneOrMore (.rule .defaultParameter), .maybe (.rule .starParameters)],
        .rule .starParameters]
  | .bareParameter => parameter []
  | .defaultParameter => parameter [fallback]
  | .anyParameter => parameter [.maybe fallback]
  | .strokeParameters =>
    .seq [oneOrMore (.rule .bareParameter), .sign "/", .choice [.sign ",", .ahead (.sign ":")]]
  | .strokeDefaultParameters =>
    .seq [.many (.rule .bareParameter), oneOrMore (.rule .defaultParameter), .sign "/",
      .choice [.sign ",", .ahead (.sign ":")]]
  | .starParameters =>
    .choice
      [.search (.rule .badStarParameters),
        .seq [.sign "*", .rule .bareParameter, .many (.rule .anyParameter),
          .maybe (.rule .twoStarParameter)],
        .seq [.sign "*", .sign ",", oneOrMore (.rule .anyParameter),
          .maybe (.rule .twoStarParameter)],
        .rule .twoStarParameter]
  | .twoStarParameter =>
    .choice
      [.search (.rule .badTwoStarParameter), .seq [.sign "**", .rule .bareParameter]]
  | _ => .choice []

/-- The description of a rule that words what is wrong. -/
def bodyOfWording : Rule → Pattern
  | .badExpression =>
    .choice
      [.seq [.unless (.choice [.seq [.name, .kind .quote], .softKeyword]), .rule .disjunction,
          .plain (.rule .plainExpression), .report forgottenComma],
        .seq [.rule .disjunction, .keyword "if", .rule .disjunction,
          .unless (.choice [.keyword "else", .sign ":"]),
          fail "expected 'else' after 'if' expression"]]
  | .badStatement =>
    .seq [.name, .unless (.sign "("), .rule .starExpressions, .report oldStatement]
  | .badNaming =>
    .choice
      [.seq [.rule .expression, .sign ":=", .rule .expression,
          failOn fun title => s!"cannot use assignment expressions with {title}"],
        .seq [.name, .sign "=", .rule .bitOr,
          .unless (.choice [.sign "=", .sign ":="]), fail lonelyEquals],
        .seq [.unless (.choice [.rule .tuple, .rule .generator, .keyword "True", .keyword "None",
            .keyword "False"]),
          .rule .bitOr, .sign "=", .rule .bitOr, .unless (.choice [.sign "=", .sign ":="]),
          failOn fun title =>
            s!"cannot assign to {title} here. Maybe you meant '==' instead of '='?"]]
  | .badGroup =>
    .choice
      [.seq [.sign "(", .rule .starred, .sign ")", fail "cannot use starred expression here"],
        .seq [.sign "(", .sign "**", .rule .expression, .sign ")",
          fail "cannot use double starred expression here"]]
  | .badComprehension =>
    let lost := fail "did you forget parentheses around the comprehension target?"
    .choice
      [.seq [.choice [.sign "(", .sign r"{"], .rule .starred, .rule .clauses,
          fail "iterable unpacking cannot be used in comprehension"],
        .seq [.sign r"{", .rule .item, .sign ",", .rule .items, .rule .clauses, lost],
        .seq [.sign r"{", .rule .item, .sign ",", .rule .clauses, lost]]
  | .badMappingOver =>
    .seq [.sign r"{", .sign "**", .rule .bitOr, .rule .clauses, .sign r"}",
      fail "dict unpacking cannot be used in dict comprehension"]
  | .badEntries =>
    .choice
      [.seq [listOf (.rule .entry), .sign ",", .rule .badEntry],
        .seq [.rule .expression, .sign ":", .sign "*", .rule .bitOr,
          fail "cannot use a starred expression in a dictionary value"],
        .seq [.rule .expression, .sign ":", .ahead (.choice [.sign r"}", .sign ","]),
          fail "expression expected after dictionary key and ':'"]]
  | .badEntry =>
    .choice
      [.seq [.rule .expression, .unless (.sign ":"), fail "':' expected after dictionary key"],
        .seq [.rule .expression, .sign ":", .sign "*", .rule .bitOr,
          fail "cannot use a starred expression in a dictionary value"],
        .seq [.rule .expression, .sign ":", .ahead (.choice [.sign r"}", .sign ","]),
          fail "expression expected after dictionary key and ':'"]]
  | .badTarget =>
    .seq [.maybe (.keyword "async"), .keyword "for", .rule .starExpressions, .report fixedTarget]
  | .badArguments =>
    .choice
      [.seq [.choice [.seq [listOf argument, .sign ",", .rule .keywords], .rule .keywords],
          .sign ",", listOf (.seq [.rule .starred, .unless (.sign "=")]),
          fail "iterable argument unpacking follows keyword argument unpacking"],
        .seq [.rule .expression, .rule .clauses, .sign ",",
          .maybe (.choice [.rule .arguments, .seq [.rule .expression, .rule .clauses]]),
          fail "Generator expression must be parenthesized"],
        .seq [.name, .sign "=", .rule .expression, .rule .clauses, fail lonelyEquals],
        .seq [.rule .arguments, .rule .clauses, .report looseGenerator],
        .seq [.rule .arguments, .sign ",", .rule .expression, .rule .clauses,
          fail "Generator expression must be parenthesized"],
        .seq [.rule .arguments, .sign ",", .rule .arguments, .report lateArgument]]
  | .badKeyword =>
    .choice
      [.seq [.choice [.keyword "True", .keyword "False", .keyword "None"], .sign "=",
          failOn fun title => s!"cannot assign to {title}"],
        .seq [.name, .sign "=", .rule .expression, .rule .clauses, fail lonelyEquals],
        .seq [.unless (.seq [.name, .sign "="]), .rule .expression, .sign "=",
          fail "expression cannot contain assignment, perhaps you meant \"==\"?"]]
  | .badParameters =>
    .choice
      [.seq [.sign "/", .sign ",", fail "at least one argument must precede /"],
        .seq [.choice [.rule .strokeParameters, .rule .strokeDefaultParameters],
          .many (.rule .anyParameter), .sign "/", fail "/ may appear only once"],
        .seq [.maybe (.rule .strokeParameters), .many (.rule .bareParameter),
          .choice [.rule .strokeDefaultParameters, oneOrMore (.rule .defaultParameter)],
          .rule .bareParameter, fail "non-default argument follows default argument"],
        .seq [.many (.rule .bareParameter), .sign "(", listOf .name, .maybe (.sign ","),
          .sign ")", fail "Lambda expression parameters cannot be parenthesized"],
        .seq [.maybe (.choice [.rule .strokeParameters, .rule .strokeDefaultParameters]),
          .many (.rule .anyParameter), .sign "*", .choice [.sign ",", .rule .bareParameter],
          .many (.rule .anyParameter), .sign "/", fail "/ must be ahead of *"],
        .seq [oneOrMore (.rule .anyParameter), .sign "/", .sign "*",
          fail "expected comma between / and *"]]
  | .badStarParameters =>
    .choice
      [.seq [.sign "*",
          .choice [.sign ":", .seq [.sign ",", .choice [.sign ":", .sign "**"]]],
          fail "named arguments must follow bare *"],
        .seq [.sign "*", .name, .sign "=",
          fail "var-positional argument cannot have default value"],
        .seq [.sign "*", .choice [.rule .bareParameter, .sign ","], .many (.rule .anyParameter),
          .sign "*", .choice [.rule .bareParameter, .sign ","],
          fail "* argument may appear only once"]]
  | .badTwoStarParameter =>
    .choice
      [.seq [.sign "**", .name, .sign "=",
          fail "var-keyword argument cannot have default value"],
        .seq [.sign "**", .name, .sign ",", .choice [.name, .sign "*", .sign "**", .sign "/"],
          fail "arguments cannot follow var-keyword argument"]]
  | _ => .choice []
where
  /-- Two expressions side by side in brackets. -/
  forgottenComma (parts : List Tree) (level : Nat) : Option String :=
    if level = 0 || (parts.head?.map Tree.isOldStatement).getD false then none
    else some "invalid syntax. Perhaps you forgot a comma?"
  /-- A statement of old. -/
  oldStatement (parts : List Tree) (_ : Nat) : Option String := do
    let word ← (← parts.head?).word?
    if oldStatements.contains word then
      some s!"Missing parentheses in call to '{word}'. Did you mean {word}(...)?"
    else none
  /-- A clause that gives values to what cannot take them. -/
  fixedTarget (parts : List Tree) (_ : Nat) : Option String :=
    (parts.getLast?.bind Tree.fixed?).map fun tree => s!"cannot assign to {tree.title}"
  /-- A comprehension behind other arguments. -/
  looseGenerator (parts : List Tree) (_ : Nat) : Option String :=
    let isPlain (part : Tree) : Bool :=
      match part with
      | .branch .keywords _ | .branch .keywordOrStarred _ | .branch .keywordOrTwoStars _ => false
      | part => !part.isSign ","
    match parts with
    | .branch .arguments parts :: _ =>
      if 2 ≤ (parts.filter isPlain).length then some "Generator expression must be parenthesized"
      else none
    | _ => none
  /-- An argument behind those with keywords. -/
  lateArgument (parts : List Tree) (_ : Nat) : Option String :=
    let message := "positional argument follows keyword argument"
    match parts with
    | first :: _ => some (if hasTwoStars first then message ++ " unpacking" else message)
    | [] => none
  /-- Whether arguments have one behind two stars. -/
  hasTwoStars (tree : Tree) : Bool :=
    let direct (tree : Tree) : Bool :=
      match tree with
      | .branch .keywordOrTwoStars (first :: _) => first.isSign "**"
      | _ => false
    match tree with
    | .branch .arguments parts | .branch .keywords parts =>
      parts.any fun part =>
        direct part
          || match part with
            | .branch .keywords parts => parts.any direct
            | _ => false
    | tree => direct tree

/-- The description of a rule. -/
def body : Rule → Pattern
  | .whole => .seq [.rule .expressions, .many (.kind .newline), .kind .finish]
  | .expressions =>
    .seq [.rule .expression, .many (.seq [.sign ",", .rule .expression]), .maybe (.sign ",")]
  | .expression =>
    .choice
      [.search (.rule .badExpression), .search (.rule .badStatement),
        .seq [.rule .disjunction, .keyword "if", .rule .disjunction, .keyword "else",
          .rule .expression],
        .rule .disjunction, .rule .lambda]
  | .plainExpression =>
    .choice
      [.seq [.rule .disjunction, .keyword "if", .rule .disjunction, .keyword "else",
          .rule .expression],
        .rule .disjunction, .rule .lambda]
  | .yielding =>
    .choice
      [.seq [.keyword "yield", .keyword "from", .rule .expression],
        .seq [.keyword "yield", .maybe (.rule .starExpressions)]]
  | .starExpressions =>
    .seq [.rule .starExpression, .many (.seq [.sign ",", .rule .starExpression]),
      .maybe (.sign ",")]
  | .starExpression => .choice [.seq [.sign "*", .rule .bitOr], .rule .expression]
  | .items => .seq [listOf (.rule .item), .maybe (.sign ",")]
  | .item => .choice [.seq [.sign "*", .rule .bitOr], .rule .named]
  | .naming => .seq [.name, .sign ":=", .rule .expression]
  | .named =>
    .choice
      [.rule .naming, .search (.rule .badNaming),
        .seq [.rule .expression, .unless (.sign ":=")]]
  | .disjunction =>
    .seq [.rule .conjunction, .many (.seq [.keyword "or", .rule .conjunction])]
  | .conjunction =>
    .seq [.rule .inversion, .many (.seq [.keyword "and", .rule .inversion])]
  | .inversion => .choice [.seq [.keyword "not", .rule .inversion], .rule .comparison]
  | .comparison => .seq [.rule .bitOr, .many (.seq [comparisonSign, .rule .bitOr])]
  | .bitOr => operands .bitXor ["|"]
  | .bitXor => operands .bitAnd ["^"]
  | .bitAnd => operands .shift ["&"]
  | .shift => operands .sum ["<<", ">>"]
  | .sum => operands .term ["+", "-"]
  | .term => operands .factor ["*", "/", "//", "%", "@"]
  | .factor =>
    .choice
      [.seq [.choice [.sign "+", .sign "-", .sign "~"], .rule .factor], .rule .power]
  | .power => .seq [.rule .awaiting, .maybe (.seq [.sign "**", .rule .factor])]
  | .awaiting => .seq [.maybe (.keyword "await"), .rule .primary]
  | .primary =>
    .seq [.rule .atom,
      .many (.choice
        [.seq [.sign ".", .name], .rule .generator,
          .seq [.sign "(", .maybe (.rule .callBody), .sign ")"]])]
  | .atom =>
    .choice
      [.name, .keyword "True", .keyword "False", .keyword "None", .rule .quotes, .kind .number,
        .seq [.ahead (.sign "("), .choice [.rule .tuple, .rule .group, .rule .generator]],
        .seq [.ahead (.sign r"{"),
          .choice [.rule .mapping, .rule .set, .rule .mappingOver, .rule .setOver]],
        .sign "..."]
  | .quotes => .seq [oneOrMore (.kind .quote), .check wrongQuotes]
  | .group =>
    .choice
      [.seq [.sign "(", .choice [.rule .yielding, .rule .named], .sign ")"],
        .search (.rule .badGroup)]
  | .tuple =>
    .seq [.sign "(", .maybe (.seq [.rule .item, .sign ",", .maybe (.rule .items)]), .sign ")"]
  | .set => .seq [.sign r"{", .rule .items, .sign r"}"]
  | .mapping =>
    .choice
      [.seq [.sign r"{", .maybe (.rule .entries), .sign r"}"],
        .seq [.sign r"{", .search (.rule .badEntries), .sign r"}"]]
  | .entries => .seq [listOf (.rule .entry), .maybe (.sign ",")]
  | .entry => .choice [.seq [.sign "**", .rule .bitOr], .rule .pair]
  | .pair => .seq [.rule .expression, .sign ":", .rule .expression]
  | .clauses => oneOrMore (.rule .clause)
  | .clause =>
    let start := [.maybe (.keyword "async"), .keyword "for", .rule .targets, .keyword "in"]
    .choice
      [.seq (start ++ [.rule .disjunction, .many (.seq [.keyword "if", .rule .disjunction])]),
        .search (.seq [.unless (.seq start), .rule .badTarget])]
  | .generator =>
    .choice
      [.seq [.sign "(", .choice [.rule .naming, .seq [.rule .expression, .unless (.sign ":=")]],
          .rule .clauses, .sign ")"],
        .search (.rule .badComprehension)]
  | .setOver =>
    .choice
      [.seq [.sign r"{", .rule .named, .rule .clauses, .sign r"}"],
        .search (.rule .badComprehension)]
  | .mappingOver =>
    .choice
      [.seq [.sign r"{", .rule .pair, .rule .clauses, .sign r"}"],
        .search (.rule .badMappingOver)]
  | .targets =>
    .seq [.rule .target, .many (.seq [.sign ",", .rule .target]), .maybe (.sign ",")]
  | .target =>
    .choice
      [.seq [.sign "*", .unless (.sign "*"), .rule .target], .rule .targetAtom]
  | .targetAtom =>
    .choice
      [.seq [.rule .targetPrimary, .sign ".", .name, .unless targetGoesOn], .name,
        .seq [.sign "(", .rule .targetAtom, .sign ")"],
        .seq [.sign "(",
          .maybe (.choice
            [.seq [.rule .target, oneOrMore (.seq [.sign ",", .rule .target]),
                .maybe (.sign ",")],
              .seq [.rule .target, .sign ","]]),
          .sign ")"]]
  | .targetPrimary =>
    .seq [.rule .atom, .ahead targetGoesOn,
      .many (.choice
        [.seq [.sign ".", .name, .ahead targetGoesOn], .seq [.rule .generator, .ahead targetGoesOn],
          .seq [.sign "(", .maybe (.rule .callBody), .sign ")", .ahead targetGoesOn]])]
  | other =>
    if [.callBody, .arguments, .keywords, .starred, .keywordOrStarred, .keywordOrTwoStars, .lambda,
        .parameters, .bareParameter, .defaultParameter, .anyParameter, .starParameters,
        .twoStarParameter, .strokeParameters, .strokeDefaultParameters].contains other then
      bodyOfCall other
    else bodyOfWording other
where
  /-- Whether a target goes on. -/
  targetGoesOn : Pattern := .choice [.sign "(", .sign "."]
  /-- What is wrong with quoted texts. -/
  wrongQuotes (parts : List Tree) : Option String :=
    let quotes := parts.filterMap fun part =>
      match part with
      | .leaf token => some (Quote.ofText token.text)
      | .branch _ _ => none
    match checkQuotes none quotes with
    | .ok () => none
    | .error message => some message

end Rule

end ScriptAdvisor.Literal
