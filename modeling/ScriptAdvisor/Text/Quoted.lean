import ScriptAdvisor.Text.Digit
import ScriptAdvisor.Text.Printable

/-! # Quoted text

How messages show a text or bytes inside quotes. Single quotes are used unless the text has a single
quote and no double quote. The quote, the backslash and the characters a reader would not see are
escaped. -/

namespace ScriptAdvisor.Text

/-- The escape of a character that is not printable, by the width of its code point. -/
def escapeHidden (c : Char) : String :=
  if c.toNat ≤ 0xFF then "\\x" ++ hex 2 c.toNat
  else if c.toNat ≤ 0xFFFF then "\\u" ++ hex 4 c.toNat
  else "\\U" ++ hex 8 c.toNat

/-- One character of a text quoted with `quote`; `isShown` tells which characters need no escape. -/
def quoteCharWith (isShown : Char → Bool) (quote : Char) (c : Char) : String :=
  if c == quote || c == '\\' then String.ofList ['\\', c]
  else if c == '\n' then "\\n"
  else if c == '\r' then "\\r"
  else if c == '\t' then "\\t"
  else if isShown c then c.toString
  else escapeHidden c

/-- The quote that surrounds a text. -/
def quoteFor (text : List Char) : Char :=
  if text.contains '\'' && !text.contains '"' then '"' else '\''

/-- Characters in quotes; `isShown` tells which of them need no escape. -/
def quotedWith (isShown : Char → Bool) (text : List Char) : String :=
  let quote := quoteFor text
  quote.toString ++ String.join (text.map (quoteCharWith isShown quote)) ++ quote.toString

/-- A text in quotes. -/
def quoted (text : String) : String := quotedWith isPrintable text.toList

/-- Bytes in quotes behind the letter that marks them. Those that are no printable ASCII characters
are escaped. -/
def quotedBytes (bytes : List UInt8) : String :=
  "b" ++ quotedWith (fun c => 0x20 ≤ c.toNat && c.toNat < 0x7F)
    (bytes.map fun byte => Char.ofNat byte.toNat)

end ScriptAdvisor.Text
