import ScriptAdvisor.Json.Basic

/-! # Writing JSON

JSON in ASCII: every other character is escaped by its UTF-16 units.

* `Json.compact` writes a value on one line.
* `Json.pretty` writes it over several lines, indented by two blanks a level. -/

namespace ScriptAdvisor.Json

/-- The escape of one unit of UTF-16. -/
def unitEscape (unit : Nat) : String := "\\u" ++ Text.hex 4 unit

/-- One character of a string. -/
def writeChar (c : Char) : String :=
  if c == '"' then "\\\""
  else if c == '\\' then "\\\\"
  else if c == '\n' then "\\n"
  else if c == '\r' then "\\r"
  else if c == '\t' then "\\t"
  else if c == '\x08' then "\\b"
  else if c == '\x0c' then "\\f"
  else if 0x20 ≤ c.toNat && c.toNat ≤ 0x7E then c.toString
  else if c.toNat < 0x10000 then unitEscape c.toNat
  else
    let beyond := c.toNat - 0x10000
    unitEscape (0xD800 + beyond / 0x400) ++ unitEscape (0xDC00 + beyond % 0x400)

/-- A string in double quotes. -/
def writeString (text : String) : String :=
  text.toList.foldl (fun written c => written ++ writeChar c) "\"" ++ "\""

/-- A double. The values that are no numbers are words. -/
def writeDouble : Double → String
  | .nan => "NaN"
  | .infinite negative => if negative then "-Infinity" else "Infinity"
  | value => value.text

/-- A value other than a list or an object. -/
def writeScalar : Json → String
  | bool value => if value then "true" else "false"
  | int value => toString value
  | float value => writeDouble value
  | str value => writeString value
  | _ => "null"

mutual

/-- A value on one line, with a blank behind commas and colons. -/
def compact : Json → String
  | arr items => "[" ++ ", ".intercalate (compactItems items) ++ "]"
  | obj entries => r"{" ++ ", ".intercalate (compactEntries entries) ++ r"}"
  | value => writeScalar value

/-- The items of a list, each on one line. -/
def compactItems : List Json → List String
  | [] => []
  | item :: rest => compact item :: compactItems rest

/-- The entries of an object, each on one line. -/
def compactEntries : List (String × Json) → List String
  | [] => []
  | (key, value) :: rest => (writeString key ++ ": " ++ compact value) :: compactEntries rest

end

/-- A new line indented by `depth` levels. -/
def newLine (depth : Nat) : String := "\n" ++ String.ofList (List.replicate (2 * depth) ' ')

/-- Parts between brackets, each on a line of its own at `depth`. -/
def block (opening closing : String) (depth : Nat) (parts : List String) : String :=
  if parts.isEmpty then opening ++ closing
  else
    opening ++ newLine (depth + 1) ++ ("," ++ newLine (depth + 1)).intercalate parts
      ++ newLine depth ++ closing

mutual

/-- A value over several lines, whose first line stands at `depth`. -/
def prettyAt (depth : Nat) : Json → String
  | arr items => block "[" "]" depth (prettyItems (depth + 1) items)
  | obj entries => block r"{" r"}" depth (prettyEntries (depth + 1) entries)
  | value => writeScalar value

/-- The items of a list at `depth`. -/
def prettyItems (depth : Nat) : List Json → List String
  | [] => []
  | item :: rest => prettyAt depth item :: prettyItems depth rest

/-- The entries of an object at `depth`. -/
def prettyEntries (depth : Nat) : List (String × Json) → List String
  | [] => []
  | (key, value) :: rest =>
    (writeString key ++ ": " ++ prettyAt depth value) :: prettyEntries depth rest

end

/-- A value over several lines. -/
def pretty (value : Json) : String := prettyAt 0 value

end ScriptAdvisor.Json
