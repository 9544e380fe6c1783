import ScriptAdvisor.Json.Display
import ScriptAdvisor.Proofs.Except

/-! # Which values can be written into a message

A text is written as it is. Any other value is written unless it holds an integer with too many
digits or has more levels than there are calls.

* `Json.Contains` says which values stand inside a value, and how many levels down.
* `Json.isUnwritable_iff` says which values cannot be written. -/

namespace ScriptAdvisor.Json

/-- `value.Contains depth part` says that `part` stands inside `value`, in so many lists and
objects. -/
inductive Contains : Json → Nat → Json → Prop
  /-- The value itself. -/
  | self {value : Json} : Contains value 0 value
  /-- An item of a list contains the part. -/
  | item {items : List Json} {item part : Json} {depth : Nat} (hmem : item ∈ items)
      (hitem : Contains item depth part) : Contains (.arr items) (depth + 1) part
  /-- The value of an entry of an object contains the part. -/
  | entry {entries : List (String × Json)} {entry : String × Json} {part : Json} {depth : Nat}
      (hmem : entry ∈ entries) (hentry : Contains entry.2 depth part) :
      Contains (.obj entries) (depth + 1) part

/-- An integer with more digits than are written. -/
def IsTooLong (value : Json) : Prop :=
  ∃ number, value = .int number ∧ Text.digitLimit < (Nat.toDigits 10 number.natAbs).length

/-- A value contains something that stands too deep for the calls that are left, or an integer with
too many digits. -/
def HoldsUnwritable (calls : Nat) (value : Json) : Prop :=
  ∃ depth part, value.Contains depth part ∧ (calls < depth ∨ part.IsTooLong)

/-- A value is no text, and it contains something that cannot be written. -/
def IsUnwritable (calls : Nat) (value : Json) : Prop :=
  (∀ text, value ≠ .str text) ∧ HoldsUnwritable calls value

theorem holdsUnwritable_scalar_iff {calls : Nat} {value : Json}
    (hlist : ∀ items, value ≠ .arr items) (hobject : ∀ entries, value ≠ .obj entries) :
    HoldsUnwritable calls value ↔ value.IsTooLong := by
  constructor
  · rintro ⟨depth, part, hcontains, hpart⟩
    cases hcontains with
    | self => exact hpart.resolve_left (Nat.not_lt_zero _)
    | item => exact absurd rfl (hlist _)
    | entry => exact absurd rfl (hobject _)
  · exact fun h => ⟨0, value, .self, .inr h⟩

/-- What is one level down can be written with one call less. -/
theorem exists_contains_iff {calls : Nat} {inner : Json} :
    (∃ depth part, inner.Contains depth part ∧ (calls < depth + 1 ∨ part.IsTooLong))
      ↔ calls = 0 ∨ HoldsUnwritable (calls - 1) inner := by
  constructor
  · rintro ⟨depth, part, hcontains, hcalls | hlong⟩
    · by_cases hzero : calls = 0
      · exact .inl hzero
      · exact .inr ⟨depth, part, hcontains, .inl (by omega)⟩
    · exact .inr ⟨depth, part, hcontains, .inr hlong⟩
  · rintro (hzero | ⟨depth, part, hcontains, hcalls | hlong⟩)
    · exact ⟨0, inner, .self, .inl (by omega)⟩
    · exact ⟨depth, part, hcontains, .inl (by omega)⟩
    · exact ⟨depth, part, hcontains, .inr hlong⟩

theorem holdsUnwritable_arr_iff {calls : Nat} {items : List Json} :
    HoldsUnwritable calls (.arr items)
      ↔ ∃ item ∈ items, calls = 0 ∨ HoldsUnwritable (calls - 1) item := by
  simp only [← exists_contains_iff]
  constructor
  · rintro ⟨depth, part, hcontains, hpart⟩
    cases hcontains with
    | self =>
        obtain ⟨number, heq, -⟩ := hpart.resolve_left (Nat.not_lt_zero _)
        exact absurd heq (by simp)
    | item hmem hitem => exact ⟨_, hmem, _, part, hitem, hpart⟩
  · rintro ⟨item, hmem, depth, part, hitem, hpart⟩
    exact ⟨depth + 1, part, .item hmem hitem, hpart⟩

theorem holdsUnwritable_obj_iff {calls : Nat} {entries : List (String × Json)} :
    HoldsUnwritable calls (.obj entries)
      ↔ ∃ entry ∈ entries, calls = 0 ∨ HoldsUnwritable (calls - 1) entry.2 := by
  simp only [← exists_contains_iff]
  constructor
  · rintro ⟨depth, part, hcontains, hpart⟩
    cases hcontains with
    | self =>
        obtain ⟨number, heq, -⟩ := hpart.resolve_left (Nat.not_lt_zero _)
        exact absurd heq (by simp)
    | entry hmem hentry => exact ⟨_, hmem, _, part, hentry, hpart⟩
  · rintro ⟨entry, hmem, depth, part, hentry, hpart⟩
    exact ⟨depth + 1, part, .entry hmem hentry, hpart⟩

/-- A step that needs a call and is followed by another one fails for want of calls, or if one of
the two fails. -/
theorem isSome_error?_guarded {α β γ : Type} {calls : Nat} {fault : Fault}
    (first : Except Fault α) (second : Except Fault β) (combine : α → β → γ) :
    (if calls = 0 then .error fault
      else do let a ← first; let b ← second; return combine a b : Except Fault γ).error?.isSome
      ↔ (calls = 0 ∨ first.error?.isSome) ∨ second.error?.isSome := by
  by_cases hcalls : calls = 0
  · rw [if_pos hcalls]
    exact iff_of_true rfl (.inl (.inl hcalls))
  · rw [if_neg hcalls, Except.error?_combine, Option.isSome_or, Bool.or_eq_true,
      or_iff_right hcalls]

mutual

/-- Writing a value fails exactly if it contains something that cannot be written. -/
theorem isSome_error?_written (calls : Nat) : (value : Json) →
    ((written calls value).error?.isSome ↔ HoldsUnwritable calls value)
  | .null | .bool _ | .float _ | .str _ => by
      rw [written, holdsUnwritable_scalar_iff (by simp) (by simp)]
      simp [Except.error?, IsTooLong]
  | .int number => by
      rw [written, holdsUnwritable_scalar_iff (by simp) (by simp), intText]
      simp only [IsTooLong, Json.int.injEq, exists_eq_left']
      split
      · rename_i hlong
        exact iff_of_true rfl hlong
      · rename_i hshort
        exact iff_of_false (by simp [Except.error?]) hshort
  | .arr items => by
      rw [written, holdsUnwritable_arr_iff, ← isSome_error?_writtenItems calls items]
      rw [Except.error?_bind fun _ _ => Except.error?_pure _, Option.or_none]
  | .obj entries => by
      rw [written, holdsUnwritable_obj_iff, ← isSome_error?_writtenEntries calls entries]
      rw [Except.error?_bind fun _ _ => Except.error?_pure _, Option.or_none]

/-- Writing the items of a list fails if it does for one of them. -/
theorem isSome_error?_writtenItems (calls : Nat) : (items : List Json) →
    ((writtenItems calls items).error?.isSome
      ↔ ∃ item ∈ items, calls = 0 ∨ HoldsUnwritable (calls - 1) item)
  | [] => by simp [writtenItems, Except.error?]
  | item :: rest => by
      rw [writtenItems, isSome_error?_guarded, isSome_error?_written (calls - 1) item,
        isSome_error?_writtenItems calls rest]
      simp only [List.mem_cons, exists_eq_or_imp]

/-- Writing the entries of an object fails if it does for one of their values. -/
theorem isSome_error?_writtenEntries (calls : Nat) : (entries : List (String × Json)) →
    ((writtenEntries calls entries).error?.isSome
      ↔ ∃ entry ∈ entries, calls = 0 ∨ HoldsUnwritable (calls - 1) entry.2)
  | [] => by simp [writtenEntries, Except.error?]
  | (key, value) :: rest => by
      rw [writtenEntries, isSome_error?_guarded, isSome_error?_written (calls - 1) value,
        isSome_error?_writtenEntries calls rest]
      simp only [List.mem_cons, exists_eq_or_imp]

end

/-- A value is written unless it is unwritable. -/
theorem isUnwritable_iff {calls : Nat} {value : Json} :
    value.IsUnwritable calls ↔ (value.display calls).error?.isSome := by
  cases value with
  | str text =>
      -- a text that stands alone is written as it is
      refine iff_of_false (fun h => h.1 text rfl) ?_
      simp [display, Except.error?]
  | null | bool _ | int _ | float _ | arr _ | obj _ =>
      rw [display, isSome_error?_written]
      · exact and_iff_right (by simp)
      · simp

end ScriptAdvisor.Json
