import ScriptAdvisor.Yaml.Token.Lexer

/-! # Nodes of YAML

The tokens of a YAML text form a tree of scalars, lists and mappings, each perhaps with a tag.
Aliases are replaced by the nodes they refer to. A node that refers to itself is unfolded a few
times, which is deeper than anything looks into it.

* `Yaml.Node` is the tree, `Yaml.Node.unfold` unfolds a node that refers to itself.
* `Yaml.Reader` holds the tokens still to come and the anchors seen.
* `Yaml.document?` reads the single document of a text; there is none in an empty text. -/

namespace ScriptAdvisor.Yaml

/-- A node of a YAML document. -/
inductive Node where
  /-- A scalar, and whether its kind follows from its text. -/
  | scalar (tag : Option String) (text : String) (isPlain : Bool)
  /-- A list. -/
  | sequence (tag : Option String) (items : List Node)
  /-- A mapping. -/
  | mapping (tag : Option String) (pairs : List (Node × Node))
  /-- A node around this one, by its name. -/
  | again (name : String)
  deriving Repr, Inhabited

namespace Node

/-- The node where nothing is written. -/
def empty : Node := .scalar none "" true

mutual

/-- A node in which another one stands where `name` is referred to. -/
def replace (name : String) (other : Node) : Node → Node
  | scalar tag text isPlain => scalar tag text isPlain
  | sequence tag items => sequence tag (replaceItems name other items)
  | mapping tag pairs => mapping tag (replacePairs name other pairs)
  | again outer => if outer == name then other else again outer

/-- The items of a list after the replacement. -/
def replaceItems (name : String) (other : Node) : List Node → List Node
  | [] => []
  | item :: rest => replace name other item :: replaceItems name other rest

/-- The pairs of a mapping after the replacement. -/
def replacePairs (name : String) (other : Node) : List (Node × Node) → List (Node × Node)
  | [] => []
  | (key, value) :: rest =>
    (replace name other key, replace name other value) :: replacePairs name other rest

end

mutual

/-- How deeply nodes are nested in a node. -/
def height : Node → Nat
  | scalar _ _ _ => 1
  | sequence _ items => heightOfItems items + 1
  | mapping _ pairs => heightOfPairs pairs + 1
  | again _ => 1

/-- How deeply nodes are nested in the items of a list. -/
def heightOfItems : List Node → Nat
  | [] => 0
  | item :: rest => max (height item) (heightOfItems rest)

/-- How deeply nodes are nested in the pairs of a mapping. -/
def heightOfPairs : List (Node × Node) → Nat
  | [] => 0
  | (key, value) :: rest => max (max (height key) (height value)) (heightOfPairs rest)

end

/-- How often a node that refers to itself is unfolded. -/
def unfoldings : Nat := 3

/-- A node in which it stands itself where its name is referred to, so often. -/
def unfold (name : String) (node : Node) : Node :=
  unfoldings.fold (fun _ _ other => replace name other node) node

end Node

/-- The state of reading nodes. -/
structure Reader where
  /-- The tokens still to come. -/
  tokens : List Token
  /-- The nodes that have a name. -/
  anchors : List (String × Node) := []
  /-- The names of the nodes around. -/
  opened : List String := []
  /-- The meanings of the tag handles. -/
  handles : List (String × String) := [("!", "!"), ("!!", "tag:yaml.org,2002:")]
  deriving Inhabited

namespace Reader

/-- The next token. -/
def next (reader : Reader) : Token := reader.tokens.head?.getD .streamEnd

/-- Pass over the next token. -/
def skip (reader : Reader) : Reader := { reader with tokens := reader.tokens.tail }

/-- Whether the next token is one of the given ones. -/
def atAny (reader : Reader) (tokens : List Token) : Bool := tokens.contains reader.next

/-- The tag a written tag stands for. -/
def resolveTag (reader : Reader) (tag : RawTag) : Except Error String :=
  match tag.handle with
  | none => .ok tag.suffix
  | some handle =>
    match reader.handles.find? fun entry => entry.1 == handle with
    | some (_, meaning) => .ok (meaning ++ tag.suffix)
    | none => .error .badTag

/-- The anchor and the tag in front of a node, in either order. -/
def properties (reader : Reader) : Except Error (Option String × Option String × Reader) :=
  match reader.tokens with
  | .anchor name :: .tag tag :: rest => do
    let tag ← reader.resolveTag tag
    return (some name, some tag, { reader with tokens := rest })
  | .anchor name :: rest => .ok (some name, none, { reader with tokens := rest })
  | .tag tag :: .anchor name :: rest => do
    let tag ← reader.resolveTag tag
    return (some name, some tag, { reader with tokens := rest })
  | .tag tag :: rest => do
    let tag ← reader.resolveTag tag
    return (none, some tag, { reader with tokens := rest })
  | _ => .ok (none, none, reader)

/-- The node an alias refers to: one that has this name, or one around the alias. -/
def named (reader : Reader) (name : String) : Except Error Node :=
  if reader.opened.contains name then .ok (.again name)
  else
    match reader.anchors.find? fun entry => entry.1 == name with
    | some (_, node) => .ok node
    | none => .error .unknownAlias

/-- The state inside a node that has the name `anchor`. -/
def enter (reader : Reader) (anchor : Option String) : Except Error Reader :=
  match anchor with
  | none => .ok reader
  | some anchor =>
    if reader.opened.contains anchor || reader.anchors.any fun entry => entry.1 == anchor then
      .error .repeatedAnchor
    else .ok { reader with opened := anchor :: reader.opened }

/-- The state behind `node`, which has the name `anchor`, and the node itself unfolded. Nodes inside
it may refer to it. -/
def leave (reader : Reader) (anchor : Option String) (node : Node) : Node × Reader :=
  match anchor with
  | none => (node, reader)
  | some anchor =>
    let node := node.unfold anchor
    let anchors := reader.anchors.map fun (name, inner) => (name, inner.replace anchor node)
    (node,
      { reader with anchors := (anchor, node) :: anchors, opened := reader.opened.erase anchor })

end Reader

mutual

/-- The node at a place. `inBlock` tells whether indentation may open it, `indentless` whether it
may be a list that is not indented. -/
def node (inBlock indentless : Bool) (fuel : Nat) (reader : Reader) :
    Except Error (Node × Reader) :=
  match fuel with
  | 0 => .error .unexpected
  | fuel + 1 =>
    match reader.next with
    | .alias name => (reader.named name).map fun node => (node, reader.skip)
    | _ => do
      let (anchor, tag, reader) ← reader.properties
      let reader ← reader.enter anchor
      let (node, reader) ← content inBlock indentless (anchor.isSome || tag.isSome) tag fuel reader
      return reader.leave anchor node

/-- The node behind its anchor and tag. -/
def content (inBlock indentless hasProperties : Bool) (tag : Option String) (fuel : Nat)
    (reader : Reader) : Except Error (Node × Reader) :=
  match fuel with
  | 0 => .error .unexpected
  | fuel + 1 =>
    match reader.next with
    | .scalar text isPlain =>
      .ok (.scalar (tag.filter (· != "!")) text
        ((isPlain && tag.isNone) || tag == some "!"), reader.skip)
    | .flowSequenceStart => do
      let (items, reader) ← flowItems true fuel reader.skip
      return (.sequence tag items, reader)
    | .flowMappingStart => do
      let (pairs, reader) ← flowPairs true fuel reader.skip
      return (.mapping tag pairs, reader)
    | .blockEntry =>
      if indentless then do
        let (items, reader) ← looseItems fuel reader
        return (.sequence tag items, reader)
      else if hasProperties then .ok (.scalar (tag.filter (· != "!")) "" true, reader)
      else .error .unexpected
    | token =>
      if inBlock && token == .blockSequenceStart then do
        let (items, reader) ← blockItems fuel reader.skip
        return (.sequence tag items, reader)
      else if inBlock && token == .blockMappingStart then do
        let (pairs, reader) ← blockPairs fuel reader.skip
        return (.mapping tag pairs, reader)
      else if hasProperties then .ok (.scalar (tag.filter (· != "!")) "" true, reader)
      else .error .unexpected

/-- The items of an indented list. -/
def blockItems (fuel : Nat) (reader : Reader) : Except Error (List Node × Reader) :=
  match fuel with
  | 0 => .error .unexpected
  | fuel + 1 =>
    match reader.next with
    | .blockEntry => do
      let (item, reader) ←
        if reader.skip.atAny [.blockEntry, .blockEnd] then .ok (.empty, reader.skip)
        else node true false fuel reader.skip
      let (more, reader) ← blockItems fuel reader
      return (item :: more, reader)
    | .blockEnd => .ok ([], reader.skip)
    | _ => .error .unexpected

/-- The items of a list that is not indented. -/
def looseItems (fuel : Nat) (reader : Reader) : Except Error (List Node × Reader) :=
  match fuel with
  | 0 => .error .unexpected
  | fuel + 1 =>
    match reader.next with
    | .blockEntry => do
      let (item, reader) ←
        if reader.skip.atAny [.blockEntry, .key, .value, .blockEnd] then .ok (.empty, reader.skip)
        else node true false fuel reader.skip
      let (more, reader) ← looseItems fuel reader
      return (item :: more, reader)
    | _ => .ok ([], reader)

/-- The pairs of an indented mapping. -/
def blockPairs (fuel : Nat) (reader : Reader) : Except Error (List (Node × Node) × Reader) :=
  match fuel with
  | 0 => .error .unexpected
  | fuel + 1 =>
    match reader.next with
    | .blockEnd => .ok ([], reader.skip)
    | .key => do
      let (key, reader) ←
        if reader.skip.atAny [.key, .value, .blockEnd] then .ok (.empty, reader.skip)
        else node true true fuel reader.skip
      let (value, reader) ← blockValue fuel reader
      let (more, reader) ← blockPairs fuel reader
      return ((key, value) :: more, reader)
    | _ => .error .unexpected

/-- The value of a pair of an indented mapping. -/
def blockValue (fuel : Nat) (reader : Reader) : Except Error (Node × Reader) :=
  match fuel with
  | 0 => .error .unexpected
  | fuel + 1 =>
    if reader.next == .value then
      if reader.skip.atAny [.key, .value, .blockEnd] then .ok (.empty, reader.skip)
      else node true true fuel reader.skip
    else .ok (.empty, reader)

/-- The items of a list in brackets. A pair without brackets of its own is a mapping. -/
def flowItems (isFirst : Bool) (fuel : Nat) (reader : Reader) :
    Except Error (List Node × Reader) :=
  match fuel with
  | 0 => .error .unexpected
  | fuel + 1 =>
    if reader.next == .flowSequenceEnd then .ok ([], reader.skip)
    else do
      let reader ←
        if isFirst then .ok reader
        else if reader.next == .flowEntry then .ok reader.skip
        else .error .unexpected
      match reader.next with
      | .flowSequenceEnd => return ([], reader.skip)
      | .key =>
        let (key, reader) ← flowPart [.value, .flowEntry, .flowSequenceEnd] fuel reader.skip
        let (value, reader) ← flowValue [.flowEntry, .flowSequenceEnd] fuel reader
        let (more, reader) ← flowItems false fuel reader
        return (.mapping none [(key, value)] :: more, reader)
      | _ =>
        let (item, reader) ← node false false fuel reader
        let (more, reader) ← flowItems false fuel reader
        return (item :: more, reader)

/-- The pairs of a mapping in brackets. -/
def flowPairs (isFirst : Bool) (fuel : Nat) (reader : Reader) :
    Except Error (List (Node × Node) × Reader) :=
  match fuel with
  | 0 => .error .unexpected
  | fuel + 1 =>
    if reader.next == .flowMappingEnd then .ok ([], reader.skip)
    else do
      let reader ←
        if isFirst then .ok reader
        else if reader.next == .flowEntry then .ok reader.skip
        else .error .unexpected
      match reader.next with
      | .flowMappingEnd => return ([], reader.skip)
      | .key =>
        let (key, reader) ← flowPart [.value, .flowEntry, .flowMappingEnd] fuel reader.skip
        let (value, reader) ← flowValue [.flowEntry, .flowMappingEnd] fuel reader
        let (more, reader) ← flowPairs false fuel reader
        return ((key, value) :: more, reader)
      | _ =>
        let (key, reader) ← node false false fuel reader
        let (more, reader) ← flowPairs false fuel reader
        return ((key, .empty) :: more, reader)

/-- A node in brackets that may be missing before one of the tokens `stops`. -/
def flowPart (stops : List Token) (fuel : Nat) (reader : Reader) : Except Error (Node × Reader) :=
  match fuel with
  | 0 => .error .unexpected
  | fuel + 1 => if reader.atAny stops then .ok (.empty, reader) else node false false fuel reader

/-- The value of a pair in brackets. -/
def flowValue (stops : List Token) (fuel : Nat) (reader : Reader) :
    Except Error (Node × Reader) :=
  match fuel with
  | 0 => .error .unexpected
  | fuel + 1 =>
    if reader.next == .value then flowPart stops fuel reader.skip else .ok (.empty, reader)

end

/-- Take in the directives in front of a document. The version must be one of the first edition. -/
def directives (seenVersion : Bool) (handles : List (String × String)) :
    List Token → Except Error (List (String × String) × List Token)
  | .directive "YAML" words :: rest =>
    if seenVersion || !((words.head?.map fun version => version.startsWith "1.").getD false) then
      .error .badDirective
    else directives true handles rest
  | .directive "TAG" [handle, meaning] :: rest =>
    if handles.any fun entry => entry.1 == handle then .error .badDirective
    else directives seenVersion ((handle, meaning) :: handles) rest
  | .directive _ _ :: rest => directives seenVersion handles rest
  | rest => .ok (handles, rest)

/-- The reader at the content of an explicit document. -/
def explicitStart (tokens : List Token) : Except Error Reader := do
  let (handles, rest) ← directives false [] tokens
  match rest with
  | .documentStart :: rest =>
    let base : Reader := { tokens := rest }
    return { base with handles := handles ++ base.handles }
  | _ => .error .unexpected

/-- The document the tokens of a text form, if there is one. More than one is refused. -/
def documentOfTokens? (tokens : List Token) : Except Error (Option Node) :=
  match tokens with
  | [] | [.streamEnd] => .ok none
  | first :: _ => do
    let isExplicit :=
      match first with
      | .directive _ _ | .documentStart => true
      | _ => false
    let reader ← if isExplicit then explicitStart tokens else .ok { tokens }
    let isEmpty :=
      match reader.next with
      | .directive _ _ | .documentStart | .documentEnd | .streamEnd => isExplicit
      | _ => false
    let (root, reader) ←
      if isEmpty then .ok (.empty, reader) else node true false (4 * tokens.length + 4) reader
    match reader.tokens.dropWhile (· == .documentEnd) with
    | [] | [.streamEnd] => return some root
    | _ => .error .severalDocuments

/-- The document of a text, if there is one. -/
def document? (text : List Char) : Except Error (Option Node) := do
  documentOfTokens? (← tokens text)

end ScriptAdvisor.Yaml
