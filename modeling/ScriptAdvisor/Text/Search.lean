/-! # Searching a text

Patterns are functions that look at the start of a text. Searches try them at every place from left
to right.

* `Text.find?` and `Text.findFrom?` look for a fixed text.
* `Text.search?` finds the first place where a pattern applies.
* `Text.spans` lists the leftmost places where a pattern applies that do not overlap. -/

namespace ScriptAdvisor.Text

/-- The first place at which `needle` stands. -/
def find? (needle : List Char) : List Char → Option Nat
  | [] => if needle.isEmpty then some 0 else none
  | c :: rest =>
    if needle.isPrefixOf (c :: rest) then some 0 else (find? needle rest).map (· + 1)

/-- The first place not before `start` at which `needle` stands. -/
def findFrom? (needle text : List Char) (start : Nat) : Option Nat :=
  (find? needle (text.drop start)).map (· + start)

/-- Whether `needle` stands somewhere in the text. -/
def contains (needle text : List Char) : Bool := (find? needle text).isSome

/-- The text behind `lead`, if the text starts with `lead`. -/
def after? : List Char → List Char → Option (List Char)
  | [], text => some text
  | _ :: _, [] => none
  | l :: lead, c :: text => if l = c then after? lead text else none

/-- The first place, counted from `place`, at which `pattern` applies, and what it found there. -/
def search? {α : Type _} (pattern : List Char → Option α) (place : Nat) :
    List Char → Option (Nat × α)
  | [] => none
  | c :: rest =>
    match pattern (c :: rest) with
    | some found => some (place, found)
    | none => search? pattern (place + 1) rest

/-- A stretch of a line: the places of its first character and of the one behind its last. -/
structure Span where
  /-- The place of the first character. -/
  start : Nat
  /-- The place behind the last character. -/
  stop : Nat
  deriving DecidableEq, Repr, Inhabited

/-- The leftmost stretches to which `pattern` applies, none of which overlap. `pattern` tells how
many characters it takes; a pattern that takes none is passed over. Places are counted from
`place`. -/
def spans (pattern : List Char → Option Nat) (place : Nat) : List Char → List Span
  | [] => []
  | c :: rest =>
    match pattern (c :: rest) with
    | some (taken + 1) =>
      ⟨place, place + (taken + 1)⟩ :: spans pattern (place + (taken + 1)) (rest.drop taken)
    | _ => spans pattern (place + 1) rest
termination_by text => text.length
decreasing_by all_goals (simp only [List.length_drop, List.length_cons]; omega)

@[simp] theorem after?_append (lead text : List Char) : after? lead (lead ++ text) = some text := by
  induction lead with
  | nil => rfl
  | cons l lead ih => simp [after?, ih]

theorem eq_append_of_after? {lead text rest : List Char} (h : after? lead text = some rest) :
    text = lead ++ rest := by
  fun_induction after? lead text with
  | case1 => simpa using h
  | case2 => simp at h
  | case3 l lead text ih => simp [ih h]
  | case4 => simp at h

end ScriptAdvisor.Text
