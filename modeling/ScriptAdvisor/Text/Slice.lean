/-! # Signed positions in a sequence

A cut position may be any integer: negative positions count from the end, and positions outside the
sequence are moved to its nearest end.

* `Slice.position` is the place a signed index denotes.
* `Slice.upTo`, `Slice.startingAt` and `Slice.between` cut a list there. -/

namespace ScriptAdvisor.Slice

variable {α : Type _}

/-- The place in a sequence of length `length` that the signed index `index` denotes. -/
def position (length : Nat) (index : Int) : Nat :=
  if index < 0 then (length + index).toNat else min index.toNat length

/-- The items before the place `index` denotes. -/
def upTo (items : List α) (index : Int) : List α := items.take (position items.length index)

/-- The items from the place `index` denotes on. -/
def startingAt (items : List α) (index : Int) : List α := items.drop (position items.length index)

/-- The items between the places two signed indices denote. -/
def between (items : List α) (first last : Int) : List α :=
  (items.take (position items.length last)).drop (position items.length first)

theorem position_le (length : Nat) (index : Int) : position length index ≤ length := by
  unfold position; split <;> omega

@[simp] theorem position_natCast (length index : Nat) :
    position length (index : Int) = min index length := by
  unfold position; split <;> omega

/-- An index that is not negative keeps that many items from the start. -/
theorem upTo_natCast (items : List α) (count : Nat) : upTo items count = items.take count := by
  rw [upTo, position_natCast, ← List.take_take, List.take_length]

/-- An index that is not negative drops that many items from the start. -/
theorem startingAt_natCast (items : List α) (count : Nat) :
    startingAt items count = items.drop count := by
  rw [startingAt, position_natCast]
  rcases Nat.le_total count items.length with h | h
  · rw [Nat.min_eq_left h]
  · rw [Nat.min_eq_right h, List.drop_length, List.drop_of_length_le h]

/-- Cutting twice at one place loses nothing. -/
theorem upTo_append_startingAt (items : List α) (index : Int) :
    upTo items index ++ startingAt items index = items := by
  simp [upTo, startingAt]

end ScriptAdvisor.Slice
