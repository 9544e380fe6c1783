/-! # Paths

Paths as lists of names separated by slashes. Empty names and single dots carry no meaning.

* `Path.ofString` and `Path.text` read and write a path.
* `Path.name`, `Path.suffix` and `Path.parent` are its last name, the extension of that name and
  the rest.
* `Path.resolve` carries out the double dots. -/

namespace ScriptAdvisor

/-- A path: its leading slashes and its names. -/
structure Path where
  /-- The leading slashes: none, one, or exactly two. -/
  root : String
  /-- The names between the slashes. -/
  parts : List String
  deriving DecidableEq, Repr, Inhabited

namespace Path

/-- The pieces of a text between its slashes. -/
def pieces : List Char → List (List Char)
  | [] => [[]]
  | c :: rest =>
    if c = '/' then [] :: pieces rest
    else
      match pieces rest with
      | [] => [[c]]
      | piece :: more => (c :: piece) :: more

/-- The path a text denotes. Exactly two leading slashes are kept, three or more count as one. -/
def ofString (text : String) : Path :=
  let root :=
    match text.toList with
    | '/' :: '/' :: '/' :: _ => "/"
    | '/' :: '/' :: _ => "//"
    | '/' :: _ => "/"
    | _ => ""
  { root
    parts := ((pieces text.toList).map String.ofList).filter fun part => part != "" && part != "." }

/-- The text of a path. -/
def text (path : Path) : String :=
  if path.root.isEmpty && path.parts.isEmpty then "."
  else path.root ++ "/".intercalate path.parts

/-- The last name of a path, empty if it has none. -/
def name (path : Path) : String := path.parts.getLast?.getD ""

/-- The extension of a name with its dot: what starts at the last dot, unless that dot is the first
or the last character. -/
def suffixOf (name : List Char) : List Char :=
  let tail := (name.reverse.takeWhile (· != '.')).reverse
  let stem := name.length - tail.length
  if 1 < stem ∧ !tail.isEmpty then '.' :: tail else []

/-- The extension of the last name. -/
def suffix (path : Path) : String := String.ofList (suffixOf path.name.toList)

/-- The path without its last name. -/
def parent (path : Path) : Path := { path with parts := path.parts.dropLast }

/-- The path with one more name. -/
def child (path : Path) (name : String) : Path := { path with parts := path.parts ++ [name] }

/-- The names of `parts` taken one after the other from `base`, where a double dot steps back. -/
def resolve (base : List String) (parts : List String) : List String :=
  parts.foldl (fun names part => if part = ".." then names.dropLast else names ++ [part]) base

end Path

end ScriptAdvisor
