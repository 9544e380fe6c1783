/-! # Blank characters

Which characters count as blank when text is trimmed, collapsed or skipped inside a pattern.

* `Text.isBlank` is the class, `Text.isPadding` the smaller class that may surround a written
  number.
* `Text.trim` removes the blanks at the ends of a text, `Text.indentation` is those in front. -/

namespace ScriptAdvisor.Text

/-- The blank characters: the ASCII blanks, the four information separators, next line and the
Unicode spaces and separators. Zero-width characters are not blank. -/
def isBlank (c : Char) : Bool :=
  let n := c.toNat
  (0x09 ≤ n && n ≤ 0x0D) || (0x1C ≤ n && n ≤ 0x20) || n == 0x85 || n == 0xA0 || n == 0x1680
    || (0x2000 ≤ n && n ≤ 0x200A) || n == 0x2028 || n == 0x2029 || n == 0x202F || n == 0x205F
    || n == 0x3000

/-- The blanks that may surround a written number: every blank but the information separators. -/
def isPadding (c : Char) : Bool :=
  isBlank c && !(0x1C ≤ c.toNat && c.toNat ≤ 0x1F)

/-- `text` without the characters of the class `p` at its end. -/
def dropEndWhile (p : Char → Bool) (text : List Char) : List Char :=
  (text.reverse.dropWhile p).reverse

/-- `text` without the characters of the class `p` at either end. -/
def dropAround (p : Char → Bool) (text : List Char) : List Char :=
  dropEndWhile p (text.dropWhile p)

/-- `text` without the blanks at either end. -/
def trim (text : List Char) : List Char := dropAround isBlank text

/-- The blanks `text` starts with. -/
def indentation (text : List Char) : List Char := text.takeWhile isBlank

/-- The runs of non-blank characters of a text, in order. -/
def words (text : List Char) : List (List Char) :=
  match text with
  | [] => []
  | c :: rest =>
    if isBlank c then words rest
    else
      match words rest, rest with
      | w :: ws, d :: _ => if isBlank d then [c] :: w :: ws else (c :: w) :: ws
      | ws, _ => [c] :: ws

end ScriptAdvisor.Text
