/-! # Base 64

Bytes written as groups of four characters, six bits each. Characters outside the alphabet are
passed over, and padding that fills a group ends the text. -/

namespace ScriptAdvisor.Text

/-- The six bits a character stands for. -/
def sixBits? (c : Char) : Option Nat :=
  let n := c.toNat
  if 'A' ≤ c && c ≤ 'Z' then some (n - 0x41)
  else if 'a' ≤ c && c ≤ 'z' then some (n - 0x61 + 26)
  else if '0' ≤ c && c ≤ '9' then some (n - 0x30 + 52)
  else if c == '+' then some 62
  else if c == '/' then some 63
  else none

/-- The bytes of a text. `place` is the number of characters of the group already read, `carry`
holds their bits that fill no byte, and `pads` counts the padding just before. There are none if the
last group is not complete. -/
def base64From? (place carry pads : Nat) : List Char → Option (List UInt8)
  | [] => if place = 0 then some [] else none
  | c :: rest =>
    if c == '=' then
      if 2 ≤ place then
        if 4 ≤ place + pads + 1 then some [] else base64From? place carry (pads + 1) rest
      else base64From? place carry pads rest
    else
      match sixBits? c with
      | none => base64From? place carry pads rest
      | some bits =>
        if place = 0 then base64From? 1 bits 0 rest
        else
          let joined := carry * 64 + bits
          let width := if place = 1 then 4 else if place = 2 then 2 else 0
          (base64From? ((place + 1) % 4) (joined % 2 ^ width) 0 rest).map
            (UInt8.ofNat (joined / 2 ^ width) :: ·)

/-- The bytes of a text, if it is complete. -/
def base64? (text : List Char) : Option (List UInt8) := base64From? 0 0 0 text

end ScriptAdvisor.Text
