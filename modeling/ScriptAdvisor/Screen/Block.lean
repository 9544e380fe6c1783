import ScriptAdvisor.Screen.Markup
import ScriptAdvisor.Text.Lines

/-! # Blocks on the screen

Output is a sequence of blocks: messages, panels and tables. A block is shown as lines of words:
frames are left out, runs of blanks are one blank, and empty lines are dropped.

* `Table` and `Panel` are the larger blocks, `Block` is any block.
* `Block.lines` are the lines of a block, `Screen.lines` those of a sequence. -/

namespace ScriptAdvisor

/-- A table. Rows may be shorter or longer than the list of columns. -/
structure Table where
  /-- The title, with markup. -/
  title : String
  /-- The headers of the columns and their styles. -/
  columns : List (String × String)
  /-- The cells row by row, with markup. -/
  rows : List (List String)
  deriving DecidableEq, Repr, Inhabited

namespace Table

/-- The number of columns: enough for every header and every row. -/
def width (table : Table) : Nat :=
  (table.rows.map List.length).foldl max table.columns.length

/-- The headers of all columns, empty where none is given. -/
def headers (table : Table) : List String :=
  (List.range table.width).map fun place => ((table.columns[place]?).map (·.1)).getD ""

/-- The cells of a column from top to bottom, empty where a row is too short. -/
def column (table : Table) (place : Nat) : List String :=
  table.rows.map fun row => (row[place]?).getD ""

/-- The cells column by column. -/
def cells (table : Table) : List (List String) := (List.range table.width).map table.column

end Table

/-- A panel: text in a frame, with a title above and a caption below. -/
structure Panel where
  /-- The title, with markup; none if it is empty. -/
  title : String := ""
  /-- The text. -/
  content : String
  /-- Whether the text has markup. -/
  hasMarkup : Bool := true
  /-- The caption. -/
  subtitle : Option String := none
  /-- The style of the frame. -/
  style : String := "cyan"
  /-- The blanks on either side of the text, if the frame is as narrow as the text allows. -/
  padding : Option Nat := none
  deriving DecidableEq, Repr, Inhabited

/-- A block of output. -/
inductive Block where
  /-- A message, with markup. -/
  | message (text : String)
  /-- A panel. -/
  | panel (framed : Panel)
  /-- A table. -/
  | table (grid : Table)
  deriving DecidableEq, Repr, Inhabited

namespace Screen

/-- The control characters that are not shown: bell, backspace, vertical tab, form feed and carriage
return. -/
def isHidden (c : Char) : Bool := [7, 8, 11, 12, 13].contains c.toNat

/-- A text without hidden characters. -/
def visible (text : String) : String := String.ofList (text.toList.filter fun c => !isHidden c)

/-- The characters that frames are drawn with. -/
def isFrame (c : Char) : Bool := 0x2500 ≤ c.toNat && c.toNat ≤ 0x257F

/-- The words of a line, one blank between them. Frames count as blanks. -/
def tidy (line : List Char) : String :=
  let words := Text.words (line.map fun c => if isFrame c then ' ' else c)
  " ".intercalate (words.map String.ofList)

/-- The lines of a text that hold words. -/
def tidyLines (text : String) : List String :=
  ((Text.lines (visible text).toList).map tidy).filter fun line => !line.isEmpty

/-- The lines of a row: the first lines of its cells side by side, then the second ones and so
on. -/
def rowLines (cells : List String) : List String :=
  let columns := cells.map fun cell => Text.splitNewlines cell.toList
  let height := (columns.map List.length).foldl max 0
  (List.range height).flatMap fun place =>
    tidyLines (String.ofList ([' '].intercalate (columns.map fun lines => (lines[place]?).getD [])))

end Screen

namespace Panel

/-- A panel whose text is shown as it is, apart from hidden characters. -/
def unmarked (title content : String) (subtitle : Option String := none)
    (style : String := "cyan") : Panel :=
  { title, content := Screen.visible content, hasMarkup := false, subtitle, style }

/-- The text of a panel without markup. -/
def text (panel : Panel) : Except MarkupError String :=
  if panel.hasMarkup then Markup.plain panel.content else .ok panel.content

/-- The caption as it fits into a frame: a narrow frame cuts what is longer than its lower edge. -/
def caption (panel : Panel) (text : String) : String :=
  let caption := (panel.subtitle.map fun subtitle => " " ++ subtitle ++ " ").getD ""
  match panel.padding with
  | none => caption
  | some padding => String.ofList (caption.toList.take (text.length + 2 * padding - 2))

/-- The lines of a panel. -/
def lines (panel : Panel) : Except MarkupError (List String) := do
  let title ← Markup.plain panel.title
  let text ← panel.text
  return Screen.tidyLines title ++ Screen.tidyLines text
    ++ Screen.tidyLines (panel.caption text)

end Panel

namespace Table

/-- The lines of a table: the title, the headers and the rows. -/
def lines (table : Table) : Except MarkupError (List String) := do
  let title ← Markup.plain table.title
  let headers ← table.headers.mapM Markup.plain
  let rows ← table.rows.mapM fun row => row.mapM Markup.plain
  return Screen.tidyLines title ++ Screen.rowLines headers ++ rows.flatMap Screen.rowLines

end Table

namespace Block

/-- The lines of a block. -/
def lines : Block → Except MarkupError (List String)
  | message text => (Markup.plain text).map Screen.tidyLines
  | panel framed => framed.lines
  | table grid => grid.lines

/-- The message that something went well. -/
def success (text : String) : Block := message ("[success]✔[/success] " ++ text)

/-- The message that something needs care. -/
def warning (text : String) : Block := message ("[warning]⚠[/warning] " ++ text)

/-- The message that something failed. -/
def error (text : String) : Block := message ("[error]✖[/error] " ++ text)

/-- The message that something is worth knowing. -/
def info (text : String) : Block := message ("[info]ℹ[/info] " ++ text)

end Block

/-- The lines of a sequence of blocks. -/
def Screen.lines (blocks : List Block) : Except MarkupError (List String) :=
  (blocks.mapM Block.lines).map List.flatten

end ScriptAdvisor
