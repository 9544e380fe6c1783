import ScriptAdvisor.Path
import ScriptAdvisor.Text.Quoted
import ScriptAdvisor.Text.Utf8

/-! # File trees

A snapshot of the files a command may read: their contents by absolute path, and the directory that
relative paths start from.

* `FileTree.locate` follows a path through the directories, `FileTree.isFile` tests for a file.
* `FileTree.readText` reads a file as text; `FileError` says why that fails. -/

namespace ScriptAdvisor

/-- Files and directories by the names on the way from the root. -/
structure FileTree where
  /-- The directory that relative paths start from. -/
  current : List String
  /-- The contents of the files. -/
  files : List (List String × List UInt8)
  /-- Directories that need not hold any file. -/
  folders : List (List String)
  deriving Inhabited

/-- Why a file cannot be read. -/
inductive FileError where
  /-- There is nothing at the path. -/
  | missing (path : String)
  /-- The path leads to a directory. -/
  | isFolder (path : String)
  /-- The path leads through a file. -/
  | notAFolder (path : String)
  /-- The bytes are not UTF-8. -/
  | undecodable (error : Text.Utf8Error)
  deriving DecidableEq, Repr, Inhabited

/-- The wording of the error. -/
def FileError.message : FileError → String
  | missing path => "[Errno 2] No such file or directory: " ++ Text.quoted path
  | isFolder path => "[Errno 21] Is a directory: " ++ Text.quoted path
  | notAFolder path => "[Errno 20] Not a directory: " ++ Text.quoted path
  | undecodable error => error.message

namespace FileTree

/-- The tree with the given files and directories below `current`. -/
def below (current : List String) (files : List (String × List UInt8)) (folders : List String) :
    FileTree :=
  { current
    files := files.map fun (name, bytes) => (current ++ (Path.ofString name).parts, bytes)
    folders := current :: folders.map fun name => current ++ (Path.ofString name).parts }

/-- The contents of the file at a place. -/
def contents? (tree : FileTree) (place : List String) : Option (List UInt8) :=
  (tree.files.find? fun file => file.1 == place).map (·.2)

/-- Whether there is a directory at a place: one that was made, or one on the way to a file. -/
def hasFolder (tree : FileTree) (place : List String) : Bool :=
  tree.folders.any (place.isPrefixOf ·)
    || tree.files.any fun file => place.isPrefixOf file.1 && file.1 != place

/-- The place that relative names start from. -/
def base (tree : FileTree) (path : Path) : List String :=
  if path.root.isEmpty then tree.current else []

/-- Follow names from a directory. Every step must start in a directory. -/
def follow (tree : FileTree) (path : String) (place : List String) :
    List String → Except FileError (List String)
  | [] => .ok place
  | part :: rest =>
    if tree.hasFolder place then
      follow tree path (if part = ".." then place.dropLast else place ++ [part]) rest
    else if (tree.contents? place).isSome then .error (.notAFolder path)
    else .error (.missing path)

/-- The place a path leads to. -/
def locate (tree : FileTree) (path : Path) : Except FileError (List String) :=
  tree.follow path.text (tree.base path) path.parts

/-- The bytes of the file a path leads to. -/
def readBytes (tree : FileTree) (path : Path) : Except FileError (List UInt8) := do
  let place ← tree.locate path
  match tree.contents? place with
  | some bytes => return bytes
  | none => .error (if tree.hasFolder place then .isFolder path.text else .missing path.text)

/-- The text of the file a path leads to, every newline in it a line feed. -/
def readText (tree : FileTree) (path : Path) : Except FileError String := do
  let bytes ← tree.readBytes path
  match Text.decodeUtf8 bytes with
  | .ok text => return String.ofList (Text.unifyNewlines text)
  | .error error => .error (.undecodable error)

/-- Whether a path leads to a file. -/
def isFile (tree : FileTree) (path : Path) : Bool :=
  match tree.locate path with
  | .ok place => (tree.contents? place).isSome
  | .error _ => false

/-- The absolute place of a path, whether or not there is something there. -/
def resolve (tree : FileTree) (path : Path) : List String :=
  Path.resolve (tree.base path) path.parts

/-- The absolute path to a place. -/
def absolute (place : List String) : Path := { root := "/", parts := place }

end FileTree

end ScriptAdvisor
