import ScriptAdvisor.FileTree
import ScriptAdvisor.Settings.Basic
import ScriptAdvisor.Yaml.Load

/-! # Finding the settings

Settings are read from a file that is given, or from the first settings file on the way from a
directory to the root. Without a file, and for an empty one, the defaults hold. -/

namespace ScriptAdvisor

/-- What a settings file may be called, the preferred name first. -/
def settingsNames : List String :=
  ["refactoriq.yaml", "refactoriq.yml", ".refactoriq.yaml", ".refactoriq.yml"]

/-- The directories from a place to the root. -/
def ancestry (place : List String) : List (List String) :=
  ((List.range (place.length + 1)).map place.take).reverse

namespace Settings

/-- The settings in a text. A value that counts as empty stands for the defaults. -/
def ofText (text : List Char) : Except SettingsError Settings :=
  match Yaml.load text with
  | .error (.malformed error) => .error (.malformed error)
  | .error (.value fault) => .error (.value fault)
  | .ok value => if value.isTruthy then ofValue value else .ok {}

/-- The places where a directory may have its settings file, the preferred one first. -/
def candidates (folder : List String) : List (List String) :=
  (ancestry folder).flatMap fun above => settingsNames.map fun name => above ++ [name]

/-- The place of the settings file for a directory. -/
def locate? (files : FileTree) (folder : List String) : Option (List String) :=
  (candidates folder).find? fun place => (files.contents? place).isSome

/-- The settings in the file at a place. -/
def read (files : FileTree) (place : List String) : Except SettingsError Settings := do
  let text ← (files.readText (FileTree.absolute place)).mapError .file
  ofText text.toList

/-- The settings in a given file, or else those for a directory. -/
def load (files : FileTree) (given : Option Path) (folder : List String) :
    Except SettingsError Settings :=
  match given with
  | some path =>
    let place := files.resolve path
    if (files.contents? place).isSome then read files place else .ok {}
  | none =>
    match locate? files folder with
    | some place => read files place
    | none => .ok {}

end Settings

end ScriptAdvisor
