import ScriptAdvisor.Path

/-! # Languages

The languages of source files, told by the extension of the file name. -/

namespace ScriptAdvisor

/-- The language of a source file, or of the files a rule applies to. -/
inductive Language where
  /-- JavaScript. -/
  | javascript
  /-- TypeScript. -/
  | typescript
  /-- Either of the two. -/
  | both
  deriving DecidableEq, Repr, Inhabited

namespace Language

/-- Every language, in the order in which they are listed. -/
def all : List Language := [javascript, typescript, both]

/-- The name of a language. -/
def name : Language → String
  | javascript => "javascript"
  | typescript => "typescript"
  | both => "both"

/-- The language of the given name. -/
def ofName? (name : String) : Option Language := all.find? (·.name == name)

/-- The extensions of TypeScript files. -/
def typescriptSuffixes : List String := [".ts", ".tsx", ".mts", ".cts"]

/-- The extensions of the files whose syntax trees can be read. -/
def supportedSuffixes : List String := ".js" :: typescriptSuffixes

/-- The extension of a file name in lower case. Only ASCII letters are lowered: no other character
has a letter of a known extension as its lower case. -/
def suffixOf (fileName : String) : String := (Path.ofString fileName).suffix.toLower

/-- The language a file name tells. -/
def ofFileName (fileName : String) : Language :=
  if typescriptSuffixes.contains (suffixOf fileName) then typescript else javascript

/-- Whether the syntax tree of such a file can be read. -/
def isSupported (fileName : String) : Bool := supportedSuffixes.contains (suffixOf fileName)

@[simp] theorem ofName?_name (language : Language) : ofName? language.name = some language := by
  cases language <;> decide

end Language

end ScriptAdvisor
