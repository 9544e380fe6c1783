import ScriptAdvisor.Text.Digit

/-! # Decoding UTF-8

Files are sequences of bytes. Their text is their UTF-8 decoding with every kind of newline turned
into a line feed. A decoding error names the first offending stretch of bytes. -/

namespace ScriptAdvisor.Text

/-- Why a stretch of bytes is not UTF-8. -/
inductive Utf8Fault where
  /-- No character starts with this byte. -/
  | invalidStart
  /-- A character is broken off by a byte that cannot continue it. -/
  | invalidContinuation
  /-- The bytes end inside a character. -/
  | unexpectedEnd
  deriving DecidableEq, Repr, Inhabited

/-- The wording of a fault. -/
def Utf8Fault.reason : Utf8Fault → String
  | .invalidStart => "invalid start byte"
  | .invalidContinuation => "invalid continuation byte"
  | .unexpectedEnd => "unexpected end of data"

/-- The first stretch of bytes that is not UTF-8. -/
structure Utf8Error where
  /-- What is wrong. -/
  fault : Utf8Fault
  /-- The place of the first offending byte. -/
  start : Nat
  /-- How many bytes the stretch has. -/
  length : Nat
  /-- The first offending byte. -/
  byte : Nat
  deriving DecidableEq, Repr, Inhabited

/-- The wording of a decoding error. -/
def Utf8Error.message (error : Utf8Error) : String :=
  if error.length ≤ 1 then
    s!"'utf-8' codec can't decode byte 0x{hex 2 error.byte} in position {error.start}: " ++
      error.fault.reason
  else
    let last := error.start + error.length - 1
    s!"'utf-8' codec can't decode bytes in position {error.start}-{last}: " ++ error.fault.reason

/-- The continuation bytes a character that starts with `lead` needs, with the least and greatest
value of the first of them. -/
def utf8Tail (lead : Nat) : Option (Nat × Nat × Nat) :=
  if 0xC2 ≤ lead ∧ lead ≤ 0xDF then some (1, 0x80, 0xBF)
  else if lead = 0xE0 then some (2, 0xA0, 0xBF)
  else if lead = 0xED then some (2, 0x80, 0x9F)
  else if 0xE1 ≤ lead ∧ lead ≤ 0xEF then some (2, 0x80, 0xBF)
  else if lead = 0xF0 then some (3, 0x90, 0xBF)
  else if lead = 0xF4 then some (3, 0x80, 0x8F)
  else if 0xF1 ≤ lead ∧ lead ≤ 0xF3 then some (3, 0x80, 0xBF)
  else none

/-- The payload of a lead byte before `tails` continuation bytes. -/
def utf8Payload (lead tails : Nat) : Nat := lead % (1 <<< (6 - tails))

/-- The continuation bytes of one character: `owed` of them, the first between `low` and `high`.
Gives the code point or the fault and how many bytes were good. -/
def utf8Continue (code : Nat) (good : Nat) (low high : Nat) :
    (owed : Nat) → List UInt8 → Except (Utf8Fault × Nat) Nat
  | 0, _ => .ok code
  | _ + 1, [] => .error (.unexpectedEnd, good)
  | owed + 1, b :: rest =>
    if low ≤ b.toNat ∧ b.toNat ≤ high then
      utf8Continue (code * 64 + b.toNat % 64) (good + 1) 0x80 0xBF owed rest
    else .error (.invalidContinuation, good)

/-- The characters of a sequence of bytes. `skip` bytes belong to the character before, and `place`
counts the bytes passed. -/
def decodeUtf8From (place : Nat) : (skip : Nat) → List UInt8 → Except Utf8Error (List Char)
  | _, [] => .ok []
  | skip + 1, _ :: rest => decodeUtf8From (place + 1) skip rest
  | 0, b :: rest =>
    if b.toNat < 0x80 then
      (decodeUtf8From (place + 1) 0 rest).map (Char.ofNat b.toNat :: ·)
    else
      match utf8Tail b.toNat with
      | none => .error ⟨.invalidStart, place, 1, b.toNat⟩
      | some (tails, low, high) =>
        match utf8Continue (utf8Payload b.toNat tails) 1 low high tails rest with
        | .error (fault, good) => .error ⟨fault, place, good, b.toNat⟩
        | .ok code => (decodeUtf8From (place + 1) tails rest).map (Char.ofNat code :: ·)

/-- The characters a sequence of bytes denotes in UTF-8. -/
def decodeUtf8 (bytes : List UInt8) : Except Utf8Error (List Char) := decodeUtf8From 0 0 bytes

/-- Every carriage return, with the line feed after it if there is one, made a line feed. -/
def unifyNewlines : List Char → List Char
  | [] => []
  | '\r' :: '\n' :: rest => '\n' :: unifyNewlines rest
  | c :: rest => (if c = '\r' then '\n' else c) :: unifyNewlines rest

end ScriptAdvisor.Text
