import ScriptAdvisor.Proofs.Except
import ScriptAdvisor.Tree.Walk

/-! # How a document is read as a tree

Reading a tree looks at the values of a document one after the other and takes the coordinates of
its locations for integers. It fails by the first coordinate that is none or by the first value for
which there are too few calls left, whichever comes first, and by nothing else.

* `Node.faults` lists what is wrong in the order of reading, as if reading went on after a fault.
* `Node.error?_convert` says that reading a value fails by the first of these faults, and
  `Tree.error?_ofJson` says it of a whole tree. -/

namespace ScriptAdvisor

/-! ## Integers -/

namespace Json

/-- Whether a value is an infinite number. -/
def isInfinite : Json → Bool
  | .float (.infinite _) => true
  | _ => false

/-- The faults of the values that are no integers. -/
def integerFaults (values : List Json) : List Fault :=
  values.filterMap fun value => value.toInt.error?

theorem head?_integerFaults_cons (value : Json) (values : List Json) :
    (integerFaults (value :: values)).head?
      = value.toInt.error?.or (integerFaults values).head? := by
  rw [integerFaults, List.filterMap_cons]
  cases value.toInt.error? <;> rfl

/-- The one fault that is not contained is that of an infinity. -/
theorem error?_toInt_eq_infinity_iff (value : Json) :
    value.toInt.error? = some .infinityToInteger ↔ value.isInfinite = true := by
  cases value with
  | null => simp [toInt, Except.error?, isInfinite]
  | bool value => simp [toInt, Except.error?, isInfinite]
  | int value => simp [toInt, Except.error?, isInfinite]
  | arr items => simp [toInt, Except.error?, isInfinite]
  | obj entries => simp [toInt, Except.error?, isInfinite]
  | float value =>
      cases value <;> simp [toInt, Double.toInt, Double.truncate?, Except.error?, isInfinite]
  | str text =>
      -- a text is malformed or too long
      rw [toInt, Text.toInt]
      cases Text.readInt text with
      | ok n => simp [Except.error?, isInfinite]
      | error cause =>
          cases cause <;> simp [Except.error?, isInfinite, Fault.ofIntegerError]

end Json

/-! ## Locations -/

namespace Location

/-- The values that are read as the coordinates of a location, in order. -/
def consulted (raw : Entries Json) : List Json :=
  let line := (Entries.get? (startEntries raw) "line").getD (.int 1)
  [line, (Entries.get? (startEntries raw) "column").getD (.int 0),
    (Entries.get? (endEntries raw) "line").getD line,
    (Entries.get? (endEntries raw) "column").getD (.int 0)]

/-- A location fails by the first of its coordinates that is no integer. -/
theorem error?_ofEntries (raw : Entries Json) :
    (ofEntries raw).error? = (Json.integerFaults (consulted raw)).head? := by
  simp only [consulted, Json.head?_integerFaults_cons]
  refine Except.error?_bind fun startLine _ => ?_
  refine Except.error?_bind fun startColumn _ => ?_
  refine Except.error?_bind fun endLine _ => ?_
  exact Except.error?_bind fun endColumn _ => rfl

end Location

/-! ## Nodes -/

namespace Node

/-- Whether a key of an object with a kind names a field: it is not one of those for the kind and
the place. -/
def IsFieldKey (key : String) : Prop := key ∉ ["type", "loc", "range", "start", "end"]

theorem isReserved_eq_false_iff {key : String} : isReserved key = false ↔ IsFieldKey key := by
  rw [isReserved, IsFieldKey, ← Bool.not_eq_true, List.contains_iff_mem]

/-- The kind of an object is the text under `type`. -/
theorem kindOf?_eq_some_iff {entries : Entries Json} {kind : String} :
    kindOf? entries = some kind ↔ Entries.get? entries "type" = some (.str kind) := by
  rw [kindOf?]
  cases Entries.get? entries "type" with
  | none => simp
  | some value => cases value <;> simp [Json.text?]

/-- What is wrong with the location of a node. -/
def locationFaults (calls : Nat) (entries : Entries Json) : List Fault :=
  match (Entries.get? entries "loc").bind Json.entries? with
  | some raw =>
    if calls < 2 then [tooDeepToConvert] else Json.integerFaults (Location.consulted raw)
  | none => []

theorem error?_locationOf (calls : Nat) (entries : Entries Json) :
    (locationOf calls entries).error? = (locationFaults calls entries).head? := by
  rw [locationOf, locationFaults]
  cases (Entries.get? entries "loc").bind Json.entries? with
  | none => rfl
  | some raw =>
      simp only
      split
      · rfl
      · rw [Except.error?_map, Location.error?_ofEntries]

mutual

/-- What is wrong with a value of a document, in the order of reading. Nothing inside an object
without a kind is read, nor anything inside a value for which there are too few calls. -/
def faults (calls : Nat) (value : Json) : List Fault :=
  if calls < 3 then [tooDeepToConvert]
  else
    match value with
    | .obj entries =>
      match kindOf? entries with
      | some _ => locationFaults (calls - 2) entries ++ faultsOfEntries (calls - 2) entries
      | none => []
    | .arr items => faultsOfItems (calls - 2) items
    | _ => []

/-- What is wrong with the items of a list. -/
def faultsOfItems (calls : Nat) : List Json → List Fault
  | [] => []
  | item :: rest => faults calls item ++ faultsOfItems calls rest

/-- What is wrong with the fields of a node. -/
def faultsOfEntries (calls : Nat) : List (String × Json) → List Fault
  | [] => []
  | (key, value) :: rest =>
    if isReserved key then faultsOfEntries calls rest
    else faults calls value ++ faultsOfEntries calls rest

end

mutual

/-- A value of a document fails by the first thing that is wrong with it. -/
theorem error?_convert (calls : Nat) (value : Json) :
    (convert calls value).error? = (faults calls value).head? := by
  rw [convert.eq_def, faults.eq_def]
  split
  · rfl
  · cases value with
    | null | bool _ | int _ | float _ | str _ => rfl
    | arr items => simp only [Except.error?_map, error?_convertItems _ items]
    | obj entries =>
        simp only
        cases kindOf? entries with
        | none => rfl
        | some kind =>
            simp only
            rw [List.head?_append, ← error?_locationOf, ← error?_convertEntries _ entries]
            exact Except.error?_combine _ _ fun loc fields => Field.node (mk kind loc fields)

/-- The items of a list fail one after the other. -/
theorem error?_convertItems (calls : Nat) : (items : List Json) →
    (convertItems calls items).error? = (faultsOfItems calls items).head?
  | [] => by rw [convertItems, faultsOfItems]; rfl
  | item :: rest => by
      rw [convertItems, faultsOfItems, List.head?_append, ← error?_convert _ item,
        ← error?_convertItems _ rest]
      exact Except.error?_combine _ _ List.cons

/-- The fields of a node fail one after the other. -/
theorem error?_convertEntries (calls : Nat) : (entries : List (String × Json)) →
    (convertEntries calls entries).error? = (faultsOfEntries calls entries).head?
  | [] => by rw [convertEntries, faultsOfEntries]; rfl
  | (key, value) :: rest => by
      rw [convertEntries, faultsOfEntries]
      cases isReserved key with
      | true => exact error?_convertEntries _ rest
      | false =>
          simp only [Bool.false_eq_true, if_false]
          rw [List.head?_append, ← error?_convert _ value, ← error?_convertEntries _ rest]
          exact Except.error?_combine _ _ fun field fields => (key, field) :: fields

end

theorem error?_ofEntries (calls : Nat) (kind : String) (entries : Entries Json) :
    (ofEntries calls kind entries).error?
      = (locationFaults calls entries ++ faultsOfEntries calls entries).head? := by
  rw [List.head?_append, ← error?_locationOf, ← error?_convertEntries]
  exact Except.error?_combine _ _ (mk kind)

end Node

/-! ## Trees -/

namespace Tree

/-- Why a document is not a syntax tree, if it is none: there are too few calls to look at it, it is
no node, or something is wrong below it. -/
def defect? (calls : Nat) (document : Json) : Option TreeError :=
  if calls < 3 then some (.badLocation Node.tooDeepToConvert)
  else
    match document.entries?.bind Node.kindOf? with
    | none => some .notANode
    | some _ => (Node.faults calls document).head?.map .badLocation

/-- A document is refused as a tree for its defect, and for nothing else. -/
theorem error?_ofJson (calls : Nat) (document : Json) :
    (ofJson document calls).error? = defect? calls document := by
  rw [ofJson, defect?]
  split
  · rfl
  · rename_i hcalls
    cases document with
    | obj entries =>
        simp only [Json.entries?, Option.bind_some]
        cases hkind : Node.kindOf? entries with
        | none => rfl
        | some kind =>
            have hfault := Node.error?_ofEntries (calls - 2) kind entries
            simp only [Node.faults, if_neg hcalls, hkind]
            rw [← hfault]
            cases Node.ofEntries (calls - 2) kind entries <;> rfl
    | null | bool _ | int _ | float _ | str _ | arr _ => rfl

end Tree

end ScriptAdvisor
