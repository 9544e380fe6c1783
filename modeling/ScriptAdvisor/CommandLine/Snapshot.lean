import ScriptAdvisor.CommandLine.Run

/-! # The files a command may read

Commands work on a snapshot of the file system, which has to hold every file that they may read: the
source, the document with its syntax tree, and the settings. -/

namespace ScriptAdvisor

namespace Target

/-- The paths that a command with this target may read, seen from a directory. -/
def reads (target : Target) (current : List String) : List Path :=
  let document := target.document.getD (Path.ofString (target.path.text ++ treeSuffix))
  let base := if target.path.root.isEmpty then current else []
  let folder := (Path.resolve base target.path.parts).dropLast
  let settings :=
    match target.config with
    | some path => [path]
    | none => (Settings.candidates folder).map FileTree.absolute
  target.path :: document :: settings

end Target

/-- The places on the way of a path. -/
def Path.waypoints (base : List String) (path : Path) : List (List String) :=
  (List.range path.parts.length).map fun count => Path.resolve base (path.parts.take count)

/-- The snapshot that holds the contents of the given paths. What leads to a file is a directory. -/
def FileTree.ofContents (current : List String) (contents : List (Path × List UInt8)) : FileTree :=
  let base (path : Path) := if path.root.isEmpty then current else []
  { current
    files := contents.map fun (path, bytes) => (Path.resolve (base path) path.parts, bytes)
    folders := current :: contents.flatMap fun (path, _) => path.waypoints (base path) }

end ScriptAdvisor
