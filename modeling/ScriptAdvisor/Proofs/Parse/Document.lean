import ScriptAdvisor.Parse.Basic
import ScriptAdvisor.Proofs.Json.Display
import ScriptAdvisor.Proofs.Tree.Reading

/-! # What a document comes to

A document yields a parse result with a tree, and what is wrong with the document stands among the
errors of the result, also that too much is nested in it. There are two exceptions. A listed error
stops the reading if its message cannot be written out, and an infinite number stops it where it is
read as a coordinate, unless something else was found wrong with the tree before.

* `ParseResult.defects` lists what is wrong with a document.
* `ParseResult.stop?` is the fault by which the reading stops, `ParseResult.IsStopped` says for
  which documents there is one.
* `ParseResult.ofDocument_reports_defects` is the result in all cases. -/

namespace ScriptAdvisor

/-! ## Listed errors -/

namespace ParseError

/-- The integer in an entry of an error. Truth values, missing entries and values that are no
integers give nothing. -/
def position? : Option Json → Option Int
  | none | some (.bool _) => none
  | some value => value.toInt.toOption

/-- Only an infinity stops the reading of an entry. -/
theorem coordinate?_eq (entry : Option Json) :
    coordinate? entry
      = if entry.any Json.isInfinite then .error .infinityToInteger else .ok (position? entry) := by
  unfold coordinate?
  split
  · rfl
  · rfl
  · rename_i value hbool
    have hposition : position? (some value) = value.toInt.toOption := by
      cases value with
      | bool value => exact absurd rfl (hbool value)
      | null | int | float | str | arr | obj => rfl
    have hinfinite := value.error?_toInt_eq_infinity_iff
    rw [Option.any_some, hposition]
    -- an infinity is told by the fault of reading it
    cases hread : value.toInt with
    | ok n =>
        rw [hread] at hinfinite
        rw [if_neg (fun h => absurd (hinfinite.mpr h) (by simp [Except.error?]))]
        rfl
    | error fault =>
        rw [hread] at hinfinite
        by_cases hfault : fault = .infinityToInteger
        · rw [hfault, if_pos (hinfinite.mp (congrArg some hfault))]
          rfl
        · have hcontained : fault.isContained = true := by
            cases fault <;> first | rfl | exact absurd rfl hfault
          rw [if_neg (fun h => hfault (Option.some.inj (hinfinite.mpr h)))]
          simp only [hcontained, if_true]
          rfl

/-- Whether a coordinate of an error is infinite. -/
def hasInfinity (raw : Entries Json) : Bool :=
  ["line", "column", "index"].any fun key => (Entries.get? raw key).any Json.isInfinite

/-- The fault by which the reading of an error stops: its message comes first. -/
def stop? (calls : Nat) (raw : Entries Json) : Option Fault :=
  ((messageOf raw).display calls).error?.or
    (if hasInfinity raw then some .infinityToInteger else none)

/-- The error an object describes, as far as its message can be written. -/
def described (calls : Nat) (raw : Entries Json) : ParseError :=
  { message := ((messageOf raw).display calls).toOption.getD ""
    line := (position? (Entries.get? raw "line")).getD 1
    column := (position? (Entries.get? raw "column")).getD 0
    index := position? (Entries.get? raw "index") }

theorem ofEntries_eq (calls : Nat) (raw : Entries Json) :
    ofEntries calls raw = (stop? calls raw).elim (.ok (described calls raw)) .error := by
  rw [ofEntries, stop?, described, hasInfinity]
  cases (messageOf raw).display calls with
  | error fault => rfl
  | ok message =>
      simp only [coordinate?_eq, List.any_cons, List.any_nil, Bool.or_false]
      -- the entries are read in this order
      cases (Entries.get? raw "line").any Json.isInfinite with
      | true => rfl
      | false =>
          cases (Entries.get? raw "column").any Json.isInfinite with
          | true => rfl
          | false => cases (Entries.get? raw "index").any Json.isInfinite <;> rfl

/-- The reading of an error stops at a message that cannot be written, or at an infinite line,
column or index. -/
def IsStopped (calls : Nat) (raw : Entries Json) : Prop :=
  (messageOf raw).IsUnwritable calls
    ∨ ∃ key ∈ ["line", "column", "index"], ∃ negative,
        Entries.get? raw key = some (.float (.infinite negative))

theorem hasInfinity_iff {raw : Entries Json} :
    hasInfinity raw = true ↔ ∃ key ∈ ["line", "column", "index"], ∃ negative,
      Entries.get? raw key = some (.float (.infinite negative)) := by
  have hinfinite : ∀ entry : Option Json, entry.any Json.isInfinite = true
      ↔ ∃ negative, entry = some (.float (.infinite negative)) := by
    intro entry
    cases entry with
    | none => simp
    | some value =>
        cases value with
        | float value => cases value <;> simp [Json.isInfinite]
        | null | bool | int | str | arr | obj => simp [Json.isInfinite]
  rw [hasInfinity, List.any_eq_true]
  simp only [hinfinite]

theorem isStopped_iff {calls : Nat} {raw : Entries Json} :
    IsStopped calls raw ↔ (stop? calls raw).isSome := by
  rw [IsStopped, Json.isUnwritable_iff, ← hasInfinity_iff, stop?, Option.isSome_or,
    Bool.or_eq_true]
  cases hasInfinity raw <;> simp

end ParseError

/-! ## Documents -/

namespace ParseResult

/-- The objects that a document lists as errors. -/
def listed (document : Entries Json) : List (Entries Json) :=
  match Entries.get? document "errors" with
  | some (.arr items) => items.filterMap Json.entries?
  | _ => []

theorem listedErrors_eq (calls : Nat) (document : Entries Json) :
    listedErrors calls document
      = ((listed document).findSome? (ParseError.stop? calls)).elim
          (.ok ((listed document).map (ParseError.described calls))) .error := by
  have hmapM : listedErrors calls document
      = (listed document).mapM (ParseError.ofEntries calls) := by
    rw [listedErrors, listed]
    cases Entries.get? document "errors" with
    | none => rfl
    | some value => cases value <;> rfl
  rw [hmapM]
  exact Except.mapM_eq_elim (ParseError.ofEntries_eq calls) _

/-- What is read as the tree of an object: its entry `ast`, or else the object itself. -/
def treePart (entries : Entries Json) : Json := (Entries.get? entries "ast").getD (.obj entries)

/-- What is wrong with a document: that it is no object, or the errors it lists and then why there
is no tree. -/
def defects (limits : CallLimits) (document : Json) : List ParseError :=
  match document.entries? with
  | none => [{ message := "Syntax tree document must be a JSON object" }]
  | some entries =>
    (listed entries).map (ParseError.described limits.writing)
      ++ ((Tree.defect? limits.converting (treePart entries)).map fun error =>
          { message := "Invalid syntax tree: " ++ error.message }).toList

/-- The fault by which the reading of a document stops: that of a listed error, or else that of the
tree. -/
def stop? (limits : CallLimits) (document : Json) : Option Fault :=
  document.entries?.bind fun entries =>
    ((listed entries).findSome? (ParseError.stop? limits.writing)).or
      ((Tree.defect? limits.converting (treePart entries)).bind TreeError.escape?)

/-- The reading of a document stops at a listed error, or at the tree if the first thing that is
wrong with it is an infinite coordinate. -/
def IsStopped (limits : CallLimits) (document : Json) : Prop :=
  ∃ entries, document = .obj entries
    ∧ ((∃ raw ∈ listed entries, ParseError.IsStopped limits.writing raw)
      ∨ Tree.defect? limits.converting (treePart entries) = some (.badLocation .infinityToInteger))

/-- Of what can be wrong with a tree, only an infinity stops the reading. -/
theorem escape?_isSome_iff {error : TreeError} :
    error.escape?.isSome ↔ error = .badLocation .infinityToInteger := by
  cases error with
  | notANode => simp [TreeError.escape?]
  | badLocation fault => cases fault <;> simp [TreeError.escape?, Fault.isContained]

theorem isStopped_iff {limits : CallLimits} {document : Json} :
    IsStopped limits document ↔ (stop? limits document).isSome := by
  have htree : ∀ entries, ((Tree.defect? limits.converting (treePart entries)).bind
        TreeError.escape?).isSome
      ↔ Tree.defect? limits.converting (treePart entries)
          = some (.badLocation .infinityToInteger) := by
    intro entries
    cases Tree.defect? limits.converting (treePart entries) with
    | none => simp
    | some error => simpa using escape?_isSome_iff
  have hlisted : ∀ entries, (∃ raw ∈ listed entries, ParseError.IsStopped limits.writing raw)
      ↔ ((listed entries).findSome? (ParseError.stop? limits.writing)).isSome := by
    intro entries
    simp only [List.findSome?_isSome_iff, ParseError.isStopped_iff]
  simp only [IsStopped, ← htree, hlisted, ← Bool.or_eq_true, ← Option.isSome_or]
  cases document <;> simp [stop?, Json.entries?]

/-- The tree of a document, if it has one. -/
def treeOf (limits : CallLimits) (document : Json) : Tree :=
  (document.entries?.bind fun entries =>
    (Tree.ofJson (treePart entries) limits.converting).toOption).getD .empty

/-- Unless the reading stops, a document comes to its tree and all that is wrong with it. -/
theorem ofDocument_eq (document : Json) (source fileName : String) (limits : CallLimits) :
    ofDocument document source fileName limits
      = (stop? limits document).elim
          (.ok (make (treeOf limits document) source fileName (defects limits document)))
          .error := by
  cases document with
  | obj entries =>
      simp only [ofDocument, stop?, treeOf, defects, Json.entries?, Option.bind_some,
        listedErrors_eq, ← Tree.error?_ofJson]
      rw [← treePart]
      -- a listed error stops the reading before the tree is looked at
      cases (listed entries).findSome? (ParseError.stop? limits.writing) with
      | some fault => rfl
      | none =>
          cases Tree.ofJson (treePart entries) limits.converting with
          | ok tree =>
              simp [Except.error?, Except.toOption, bind, Except.bind, pure, Except.pure]
          | error error =>
              simp only [Except.error?, Option.none_or, Option.bind_some]
              cases error.escape? <;> rfl
  | null | bool | int | float | str | arr => rfl

/-- A document comes to a result with a tree and with all its defects, exactly unless the reading
stops, and then it fails by the fault that stops it. That is so if the message of a listed error
cannot be written out, or if a coordinate that is read is infinite. -/
theorem ofDocument_reports_defects (document : Json) (source fileName : String)
    (limits : CallLimits) :
    (¬IsStopped limits document ↔
        ∃ result, ofDocument document source fileName limits = .ok result
          ∧ result.tree.isSome = true ∧ result.errors = defects limits document)
      ∧ (IsStopped limits document ↔
          ∃ fault, ofDocument document source fileName limits = .error fault)
      ∧ ∀ fault, ofDocument document source fileName limits = .error fault
          ↔ stop? limits document = some fault := by
  rw [isStopped_iff, ofDocument_eq]
  cases stop? limits document with
  | some fault => simp
  | none => simp [make]

-- An infinite line stops the reading, one that comes after a text that is no number does not.
example :
    let node := fun line column => Json.obj
      [("type", .str "Program"),
        ("loc", .obj [("start", .obj [("line", line), ("column", column)])])]
    stop? {} (node (.float (.infinite false)) (.int 0)) = some .infinityToInteger
      ∧ stop? {} (node (.str "x") (.float (.infinite false))) = none := by
  decide +kernel

end ParseResult

end ScriptAdvisor
