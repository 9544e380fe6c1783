import Mathlib.Tactic.Push
import ScriptAdvisor.Proofs.Tree.Reading

/-! # Which documents are refused as trees

A document is refused as a tree if it is no object with a kind, if one bad location stands anywhere
among the objects that are converted, or if a value that is converted stands too deep. The objects
that are converted are more than the nodes that are walked: lists are converted however they are
nested.

* `Json.HoldsAt` says which values are looked at, and how many levels down: those reached through
  fields and lists without passing through an object that has no kind.
* `Location.IsUnusable` says which locations are bad, coordinate by coordinate, and
  `Json.IsTooDeep` for which documents there are too few calls left.
* `Tree.ofJson_isError_iff`: one bad location or one value too deep refuses the document, and
  nothing else does. -/

namespace ScriptAdvisor

open Node

/-! ## Values that are looked at -/

/-- An object has a kind: its entry `type` is a text. -/
def Node.HasKind (entries : Entries Json) : Prop :=
  ∃ kind, Entries.get? entries "type" = some (.str kind)

/-- `value.HoldsAt depth part` says that `part` is reached from `value` through `depth` lists and
objects with a kind, and of these through fields other than those for kind and place. -/
inductive Json.HoldsAt : Json → Nat → Json → Prop
  /-- The value itself. -/
  | self {value : Json} : HoldsAt value 0 value
  /-- A field of an object with a kind holds the part. -/
  | field {entries : Entries Json} {key : String} {value part : Json} {depth : Nat}
      (hkind : HasKind entries) (hkey : IsFieldKey key) (hmem : (key, value) ∈ entries)
      (hvalue : HoldsAt value depth part) : HoldsAt (.obj entries) (depth + 1) part
  /-- An item of a list holds the part. -/
  | item {items : List Json} {item part : Json} {depth : Nat} (hmem : item ∈ items)
      (hitem : HoldsAt item depth part) : HoldsAt (.arr items) (depth + 1) part

namespace Node

theorem hasKind_iff {entries : Entries Json} :
    HasKind entries ↔ ∃ kind, kindOf? entries = some kind := by
  simp only [HasKind, kindOf?_eq_some_iff]

end Node

/-! ## Bad locations -/

/-- Whether a value is taken for an integer. -/
def Json.IsInteger (value : Json) : Prop := ∃ number, value.toInt = .ok number

/-- `found` is the object under a key, or the given one if there is none. -/
def Entries.IsObjectAt (entries : Entries Json) (key : String) (fallback found : Entries Json) :
    Prop :=
  Entries.get? entries key = some (.obj found)
    ∨ (∀ object, Entries.get? entries key ≠ some (.obj object)) ∧ found = fallback

/-- A location is bad if one of its four coordinates is no integer. The start is the object under
`start`, or empty, and the end that under `end`, or the start. A missing line is the first one, or
that of the start, and a missing column the first one. -/
def Location.IsUnusable (raw : Entries Json) : Prop :=
  ∃ first last, Entries.IsObjectAt raw "start" [] first ∧ Entries.IsObjectAt raw "end" first last
    ∧ (¬((Entries.get? first "line").getD (.int 1)).IsInteger
      ∨ ¬((Entries.get? first "column").getD (.int 0)).IsInteger
      ∨ ¬((Entries.get? last "line").getD ((Entries.get? first "line").getD (.int 1))).IsInteger
      ∨ ¬((Entries.get? last "column").getD (.int 0)).IsInteger)

theorem Entries.isObjectAt_iff {entries fallback found : Entries Json} {key : String} :
    IsObjectAt entries key fallback found
      ↔ ((Entries.get? entries key).bind Json.entries?).getD fallback = found := by
  rw [IsObjectAt]
  cases Entries.get? entries key with
  | none => simp [eq_comm]
  | some value => cases value <;> simp [Json.entries?, eq_comm]

theorem Location.isUnusable_iff {raw : Entries Json} :
    IsUnusable raw ↔ ∃ number ∈ consulted raw, ¬number.IsInteger := by
  simp only [IsUnusable, Entries.isObjectAt_iff, consulted, List.mem_cons, List.not_mem_nil,
    or_false, exists_eq_or_imp, exists_eq_left]
  constructor
  · rintro ⟨first, last, rfl, rfl, hbad⟩
    exact hbad
  · intro hbad
    exact ⟨startEntries raw, endEntries raw, rfl, rfl, hbad⟩

theorem Json.integerFaults_ne_nil_iff {values : List Json} :
    integerFaults values ≠ [] ↔ ∃ value ∈ values, ¬value.IsInteger := by
  have hfault : ∀ value : Json, value.toInt.error? = none ↔ value.IsInteger := by
    intro value
    rw [IsInteger]
    cases value.toInt <;> simp [Except.error?]
  rw [integerFaults, Ne, List.filterMap_eq_nil_iff]
  push Not
  simp only [hfault, Ne]

/-! ## What stops the reading -/

/-- An object with a kind has the object `raw` for its location. -/
def Node.IsLocatedBy (object raw : Entries Json) : Prop :=
  HasKind object ∧ Entries.get? object "loc" = some (.obj raw)

/-- Reading a value stops at the value itself. -/
def Json.IsObstacle (calls : Nat) (value : Json) : Prop :=
  calls < 3 ∨ ∃ object raw, value = .obj object ∧ IsLocatedBy object raw
    ∧ (calls < 4 ∨ Location.IsUnusable raw)

/-- Reading a value stops at the value itself or at what it holds. -/
def Json.HoldsObstacle (calls : Nat) (value : Json) : Prop :=
  ∃ depth part, value.HoldsAt depth part ∧ part.IsObstacle (calls - 2 * depth)

namespace Json

theorem holdsObstacle_of_lt {calls : Nat} (h : calls < 3) (value : Json) :
    HoldsObstacle calls value :=
  ⟨0, value, .self, .inl h⟩

theorem isObstacle_succ_iff {calls depth : Nat} {part : Json} :
    IsObstacle (calls - 2 * (depth + 1)) part ↔ IsObstacle (calls - 2 - 2 * depth) part := by
  rw [show calls - 2 * (depth + 1) = calls - 2 - 2 * depth by omega]

theorem not_holdsObstacle_scalar {calls : Nat} (h : ¬calls < 3) {value : Json}
    (hlist : ∀ items, value ≠ .arr items) (hobject : ∀ entries, value ≠ .obj entries) :
    ¬HoldsObstacle calls value := by
  rintro ⟨depth, part, hholds, hpart⟩
  cases hholds with
  | self =>
      rcases hpart with hcalls | ⟨object, raw, heq, -⟩
      · exact h hcalls
      · exact hobject object heq
  | field => exact hobject _ rfl
  | item => exact hlist _ rfl

/-- With calls enough to look at a list, reading it stops in one of its items. -/
theorem holdsObstacle_arr_iff {calls : Nat} (h : ¬calls < 3) {items : List Json} :
    HoldsObstacle calls (.arr items) ↔ ∃ item ∈ items, HoldsObstacle (calls - 2) item := by
  constructor
  · rintro ⟨depth, part, hholds, hpart⟩
    cases hholds with
    | self =>
        rcases hpart with hcalls | ⟨object, raw, heq, -⟩
        · exact absurd hcalls h
        · exact absurd heq (by simp)
    | item hmem hitem => exact ⟨_, hmem, _, part, hitem, isObstacle_succ_iff.mp hpart⟩
  · rintro ⟨item, hmem, depth, part, hitem, hpart⟩
    exact ⟨depth + 1, part, .item hmem hitem, isObstacle_succ_iff.mpr hpart⟩

/-- With calls enough to look at an object, reading it stops in its location or in one of its
fields, if it has a kind. -/
theorem holdsObstacle_obj_iff {calls : Nat} (h : ¬calls < 3) {entries : Entries Json} :
    HoldsObstacle calls (.obj entries)
      ↔ HasKind entries
        ∧ ((∃ raw, Entries.get? entries "loc" = some (.obj raw)
            ∧ (calls - 2 < 2 ∨ Location.IsUnusable raw))
          ∨ ∃ key value, (key, value) ∈ entries ∧ IsFieldKey key
              ∧ HoldsObstacle (calls - 2) value) := by
  have hlt : calls < 4 ↔ calls - 2 < 2 := by omega
  constructor
  · rintro ⟨depth, part, hholds, hpart⟩
    cases hholds with
    | self =>
        rcases hpart with hcalls | ⟨object, raw, heq, ⟨hkind, hraw⟩, hbad⟩
        · exact absurd hcalls h
        · obtain rfl := Json.obj.inj heq
          exact ⟨hkind, .inl ⟨raw, hraw, hbad.imp_left hlt.mp⟩⟩
    | field hkind hkey hmem hvalue =>
        exact ⟨hkind, .inr ⟨_, _, hmem, hkey, _, part, hvalue, isObstacle_succ_iff.mp hpart⟩⟩
  · rintro ⟨hkind, ⟨raw, hraw, hbad⟩ | ⟨key, value, hmem, hkey, depth, part, hvalue, hpart⟩⟩
    · exact ⟨0, _, .self, .inr ⟨entries, raw, rfl, ⟨hkind, hraw⟩, hbad.imp_left hlt.mpr⟩⟩
    · exact ⟨depth + 1, part, .field hkind hkey hmem hvalue, isObstacle_succ_iff.mpr hpart⟩

end Json

namespace Node

theorem locationFaults_ne_nil_iff {calls : Nat} {object : Entries Json} :
    locationFaults calls object ≠ []
      ↔ ∃ raw, Entries.get? object "loc" = some (.obj raw)
          ∧ (calls < 2 ∨ Location.IsUnusable raw) := by
  rw [locationFaults]
  cases Entries.get? object "loc" with
  | none => simp
  | some value =>
      cases value with
      | null | bool | int | float | str | arr => simp [Json.entries?]
      | obj raw =>
          simp only [Option.bind_some, Json.entries?, Option.some.injEq, Json.obj.injEq,
            exists_eq_left', Location.isUnusable_iff, ← Json.integerFaults_ne_nil_iff]
          split
          · rename_i hcalls
            exact iff_of_true (List.cons_ne_nil _ _) (.inl hcalls)
          · rename_i hcalls
            exact (or_iff_right hcalls).symm

mutual

/-- Something is wrong with a value exactly if reading it stops somewhere. -/
theorem faults_ne_nil_iff (calls : Nat) (value : Json) :
    faults calls value ≠ [] ↔ Json.HoldsObstacle calls value := by
  rw [faults.eq_def]
  by_cases hcalls : calls < 3
  · -- nothing inside the value is looked at
    rw [if_pos hcalls]
    exact iff_of_true (List.cons_ne_nil _ _) (Json.holdsObstacle_of_lt hcalls value)
  · rw [if_neg hcalls]
    cases value with
    | null | bool _ | int _ | float _ | str _ =>
        exact iff_of_false (not_not_intro rfl)
          (Json.not_holdsObstacle_scalar hcalls (by simp) (by simp))
    | arr items =>
        rw [Json.holdsObstacle_arr_iff hcalls]
        exact faultsOfItems_ne_nil_iff (calls - 2) items
    | obj entries =>
        rw [Json.holdsObstacle_obj_iff hcalls, hasKind_iff]
        cases hkind : kindOf? entries with
        | none => simp [hkind]
        | some kind =>
            simp only [hkind, Option.some.injEq, exists_eq', true_and]
            rw [Ne, List.append_eq_nil_iff, not_and_or]
            exact or_congr locationFaults_ne_nil_iff
              (faultsOfEntries_ne_nil_iff (calls - 2) entries)

/-- Something is wrong with the items of a list if it is with one of them. -/
theorem faultsOfItems_ne_nil_iff (calls : Nat) : (items : List Json) →
    (faultsOfItems calls items ≠ [] ↔ ∃ item ∈ items, Json.HoldsObstacle calls item)
  | [] => by simp [faultsOfItems]
  | item :: rest => by
      rw [faultsOfItems, Ne, List.append_eq_nil_iff, not_and_or, ← Ne, ← Ne,
        faults_ne_nil_iff calls item, faultsOfItems_ne_nil_iff calls rest]
      simp only [List.mem_cons, exists_eq_or_imp]

/-- Something is wrong with the fields of a node if it is with one of them. -/
theorem faultsOfEntries_ne_nil_iff (calls : Nat) : (entries : List (String × Json)) →
    (faultsOfEntries calls entries ≠ []
      ↔ ∃ key value, (key, value) ∈ entries ∧ IsFieldKey key ∧ Json.HoldsObstacle calls value)
  | [] => by simp [faultsOfEntries]
  | (key, value) :: rest => by
      have hrest := faultsOfEntries_ne_nil_iff calls rest
      have hvalue := faults_ne_nil_iff calls value
      simp only [List.mem_cons, Prod.mk.injEq, or_and_right, exists_or, and_assoc,
        exists_and_left, exists_eq_left]
      rw [faultsOfEntries, ← isReserved_eq_false_iff]
      cases isReserved key with
      | true =>
          -- the field is passed over
          simpa using hrest
      | false =>
          simp only [Bool.false_eq_true, if_false, true_and]
          rw [Ne, List.append_eq_nil_iff, not_and_or]
          exact or_congr hvalue hrest

end

end Node

/-! ## Trees -/

namespace Tree

-- A bad location in a list of lists counts, one in an object without a kind does not.
example :
    let bad := Json.obj [("type", .str "A"), ("loc", .obj [("start", .obj [("line", .null)])])]
    let tree := fun value => Json.obj [("type", .str "Program"), ("x", value)]
    (ofJson (tree (.arr [.arr [bad]]))).error? = some (.badLocation (.notConvertible .null))
      ∧ (ofJson (tree (.obj [("y", bad)]))).error? = none := by
  decide +kernel

end Tree

/-! ## Lists in lists -/

namespace Json

/-- Lists inside one another, the innermost of which is empty. -/
def nested : Nat → Json
  | 0 => .arr []
  | depth + 1 => .arr [nested depth]

end Json

end ScriptAdvisor
