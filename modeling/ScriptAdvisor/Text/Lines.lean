/-! # Lines of a text

Two ways of cutting a text into lines, and their inverse.

* `Text.lines` breaks at every line break of any kind and yields no final empty line;
  `Text.linesWithEnds` does the same and keeps the breaks.
* `Text.splitNewlines` breaks at line feeds only and always yields at least one line;
  `Text.joinNewlines` undoes it (`joinNewlines_splitNewlines`). -/

namespace ScriptAdvisor.Text

/-- The characters that end a line: line feed, carriage return, the vertical separators, the
information separators for files, groups and records, next line and the Unicode line and paragraph
separators. -/
def isLineBreak (c : Char) : Bool :=
  c == '\n' || c == '\r' || c == '\x0b' || c == '\x0c' || c == '\x1c' || c == '\x1d' || c == '\x1e'
    || c == '\u0085' || c == '\u2028' || c == '\u2029'

/-- `c` put in front of the first of `lines`, which is made if there is none. -/
def consFirst (c : Char) : List (List Char) → List (List Char)
  | [] => [[c]]
  | line :: rest => (c :: line) :: rest

/-- The lines of a text without their line breaks. A carriage return and the line feed after it
are one break; a break at the very end opens no further line. -/
def lines : List Char → List (List Char)
  | [] => []
  | '\r' :: '\n' :: rest => [] :: lines rest
  | c :: rest => if isLineBreak c then [] :: lines rest else consFirst c (lines rest)

/-- The lines of a text, each with the line break that ends it. -/
def linesWithEnds : List Char → List (List Char)
  | [] => []
  | '\r' :: '\n' :: rest => ['\r', '\n'] :: linesWithEnds rest
  | c :: rest =>
    if isLineBreak c then [c] :: linesWithEnds rest else consFirst c (linesWithEnds rest)

/-- The pieces of a text between its line feeds. -/
def splitNewlines : List Char → List (List Char)
  | [] => [[]]
  | c :: rest => if c = '\n' then [] :: splitNewlines rest else consFirst c (splitNewlines rest)

/-- The given lines with a line feed between neighbours. -/
def joinNewlines (lines : List (List Char)) : List Char := ['\n'].intercalate lines

@[simp] theorem flatten_consFirst (c : Char) (lines : List (List Char)) :
    (consFirst c lines).flatten = c :: lines.flatten := by
  cases lines <;> simp [consFirst]

/-- Keeping the line breaks loses nothing. -/
theorem flatten_linesWithEnds (text : List Char) : (linesWithEnds text).flatten = text := by
  fun_induction linesWithEnds text <;> simp_all

/-- There is always a piece between line feeds. -/
theorem splitNewlines_ne_nil (text : List Char) : splitNewlines text ≠ [] := by
  fun_induction splitNewlines text with
  | case1 => simp
  | case2 => simp
  | case3 c rest _ ih => cases h : splitNewlines rest <;> simp_all [consFirst]

@[simp] theorem joinNewlines_singleton (line : List Char) : joinNewlines [line] = line := by
  simp [joinNewlines, List.intercalate]

theorem joinNewlines_cons (line : List Char) {lines : List (List Char)} (h : lines ≠ []) :
    joinNewlines (line :: lines) = line ++ '\n' :: joinNewlines lines := by
  cases lines with
  | nil => exact absurd rfl h
  | cons l ls => simp [joinNewlines, List.intercalate, List.intersperse]

/-- Joining the pieces between line feeds gives the text back. -/
@[simp] theorem joinNewlines_splitNewlines (text : List Char) :
    joinNewlines (splitNewlines text) = text := by
  fun_induction splitNewlines text with
  | case1 => simp
  | case2 rest ih => rw [joinNewlines_cons _ (splitNewlines_ne_nil rest), ih]; rfl
  | case3 c rest _ ih =>
    cases h : splitNewlines rest with
    | nil => exact absurd h (splitNewlines_ne_nil rest)
    | cons l ls =>
      rw [h] at ih
      subst ih
      cases ls <;> simp [consFirst, joinNewlines_cons]

end ScriptAdvisor.Text
