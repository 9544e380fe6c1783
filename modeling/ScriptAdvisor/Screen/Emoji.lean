import ScriptAdvisor.Screen.Emoji.Flags
import ScriptAdvisor.Screen.Emoji.NamesAToC
import ScriptAdvisor.Screen.Emoji.NamesDToH
import ScriptAdvisor.Screen.Emoji.NamesIToO
import ScriptAdvisor.Screen.Emoji.NamesPToS
import ScriptAdvisor.Screen.Emoji.NamesTToZ
import ScriptAdvisor.Text.Blank
import ScriptAdvisor.Text.Case

/-! # Named emoji

Text for the screen may name an emoji between colons. The name of a person may end in a skin tone,
and a name may be followed by the form in which the emoji is wanted.

* `Emoji.find?` is the emoji of a name.
* `Emoji.replace` puts emoji in the place of their names. -/

namespace ScriptAdvisor.Emoji

/-- The words of a table. -/
def tableWords (table : List String) : List (List Char) :=
  table.flatMap fun line => Text.words line.toList

/-- The two sides of the equals sign in a word. -/
def sides (word : List Char) : List Char × List Char :=
  (word.takeWhile (· != '='), (word.dropWhile (· != '=')).drop 1)

/-- A named emoji. -/
structure Entry where
  /-- Its name. -/
  name : List Char
  /-- Its characters. -/
  emoji : List Char
  /-- Whether there are forms of it with skin tones. -/
  hasTones : Bool
  deriving DecidableEq, Repr, Inhabited

/-- The entry a word of the tables stands for. -/
def Entry.ofWord (word : List Char) : Entry :=
  match sides word with
  | ('~' :: name, emoji) => { name, emoji, hasTones := true }
  | (name, emoji) => { name, emoji, hasTones := false }

/-- The entries of all tables. -/
def entries : List Entry :=
  [namesAToC, namesDToH, namesIToO, namesPToS, namesTToZ].flatMap fun table =>
    (tableWords table).map Entry.ofWord

/-- The entry under a name. -/
def named? (name : List Char) : Option Entry := entries.find? fun entry => entry.name == name

/-- The skin tones: the end of a name and the character that stands for it. -/
def tones : List (String × Char) :=
  [("_light_skin_tone", '🏻'), ("_medium-light_skin_tone", '🏼'), ("_medium_skin_tone", '🏽'),
    ("_medium-dark_skin_tone", '🏾'), ("_dark_skin_tone", '🏿')]

/-- The character that asks for the coloured form of the character before it. -/
def colouredMark : Char := '\ufe0f'

/-- The character that asks for the text form of the character before it. -/
def textMark : Char := '\ufe0e'

/-- An emoji with a skin tone, which follows its first character. -/
def withTone (tone : Char) : List Char → List Char
  | [] => []
  | first :: rest => first :: tone :: rest.dropWhile (· == colouredMark)

/-- What stands before an ending. -/
def withoutSuffix? (ending : List Char) (text : List Char) : Option (List Char) :=
  if ending.isSuffixOf text then some (text.take (text.length - ending.length)) else none

/-- The emoji of a name that ends in a skin tone. -/
def toned? (name : List Char) : Option (List Char) :=
  tones.findSome? fun (ending, tone) => do
    let stem ← withoutSuffix? ending.toList name
    let entry ← (named? stem).filter Entry.hasTones
    return withTone tone entry.emoji

/-- The flag of a country given by two letters. -/
def flag (letters : List Char) : List Char :=
  letters.map fun letter => Char.ofNat (letter.toNat - 0x41 + 0x1F1E6)

/-- The flag of a country in a table. -/
def flagIn? (table : List String) (name : List Char) : Option (List Char) :=
  (((tableWords table).map sides).find? fun entry => entry.2 == name).map fun entry =>
    flag entry.1

/-- The flag of a name. -/
def flag? (name : List Char) : Option (List Char) :=
  let heading := "flag_for_".toList
  if heading.isPrefixOf name then
    let country := name.drop heading.length
    (flagIn? countries country).or (flagIn? countriesBehindFlag country)
  else (flagIn? countries name).or (flagIn? countriesAlone name)

/-- The emoji of a name. -/
def find? (name : List Char) : Option (List Char) :=
  ((named? name).map Entry.emoji).or ((flag? name).or (toned? name))

/-- The name between two colons, and the mark of the form that is asked for behind it. -/
def nameAndForm (code : List Char) : List Char × List Char :=
  match withoutSuffix? "-emoji".toList code, withoutSuffix? "-text".toList code with
  | some name, _ => (name, [colouredMark])
  | none, some name => (name, [textMark])
  | none, none => (code, [])

/-- What is shown for what stands between two colons. Names without an emoji stay as they are. -/
def shown (code : List Char) : List Char :=
  let (name, form) := nameAndForm code
  match find? (Text.lower name) with
  | some emoji => emoji ++ form
  | none => ':' :: code ++ [':']

/-- A text with emoji in the place of their names. A name has no blanks and ends at the next
colon. -/
def replace : List Char → List Char
  | [] => []
  | c :: rest =>
    let code := rest.takeWhile fun c => c != ':' && !Text.isBlank c
    if c == ':' && rest[code.length]? == some ':' then
      shown code ++ replace (rest.drop (code.length + 1))
    else c :: replace rest
termination_by text => text.length
decreasing_by all_goals (simp only [List.length_drop, List.length_cons]; omega)

end ScriptAdvisor.Emoji
