import Mathlib.Data.List.Forall2
import Mathlib.Data.Prod.Lex
import Mathlib.Tactic.Conv
import Mathlib.Tactic.Set
import ScriptAdvisor.Proofs.Tree.Reading

/-! # The walk of the tree that a document describes

A document is converted to a tree as a whole, and the tree is walked with a stack. What comes out is
the pre-order of the objects with a kind in the document itself, each with the object around it.

* `Json.nodeObjects` lists these objects by recursion on the document, with the places at which they
  stand. `Json.mem_nodeObjects_iff` says which objects are listed and `Json.ascends_nodeObjects` in
  which order.
* `Visit.Shows` says that a step of a walk is at such an object and names the object around it.
* `Tree.visits_ofJson`: the walk of the tree, and that from any of its nodes, shows the objects of
  the list one after the other. -/

namespace ScriptAdvisor

open Node

/-! ## The objects with a kind -/

/-- The place of an object in a document, as the way down to it. A step is the number of an entry
and the number of an item if the entry is a list. A place comes before those below it, and places
below the same object come in the order of its entries and their items. -/
abbrev ObjectPlace := List (Nat ×ₗ Nat)

/-- An object with a kind that stands in a document. -/
structure NodeObject where
  /-- The place it stands at. -/
  place : ObjectPlace
  /-- Its kind. -/
  kind : String
  /-- Its entries. -/
  entries : Entries Json

namespace Json

mutual

/-- The objects with a kind in a value that stands at a place, in pre-order. A list that is the item
of a list holds none. -/
def nodeObjects (place : ObjectPlace) : Json → List NodeObject
  | .obj entries =>
    match kindOf? entries with
    | some kind => ⟨place, kind, entries⟩ :: nodeObjectsOfEntries place 0 entries
    | none => []
  | _ => []
termination_by structural value => value

/-- The objects with a kind in the fields of an object, from the entry with the given number on. -/
def nodeObjectsOfEntries (place : ObjectPlace) (number : Nat) :
    List (String × Json) → List NodeObject
  | [] => []
  | (key, .arr items) :: rest =>
    (if isReserved key then [] else nodeObjectsOfItems place number 0 items)
      ++ nodeObjectsOfEntries place (number + 1) rest
  | (key, value) :: rest =>
    (if isReserved key then [] else nodeObjects (place ++ [toLex (number, 0)]) value)
      ++ nodeObjectsOfEntries place (number + 1) rest
termination_by structural entries => entries

/-- The objects with a kind in the items of a list, from the item with the given number on. -/
def nodeObjectsOfItems (place : ObjectPlace) (entry number : Nat) : List Json → List NodeObject
  | [] => []
  | item :: rest =>
    nodeObjects (place ++ [toLex (entry, number)]) item
      ++ nodeObjectsOfItems place entry (number + 1) rest
termination_by structural items => items

end

/-- The objects with a kind in the value of the entry with the given number. -/
def nodeObjectsOfField (place : ObjectPlace) (number : Nat) : Json → List NodeObject
  | .arr items => nodeObjectsOfItems place number 0 items
  | value => nodeObjects (place ++ [toLex (number, 0)]) value

theorem nodeObjects_of_kind {entries : Entries Json} {kind : String}
    (hkind : kindOf? entries = some kind) (place : ObjectPlace) :
    nodeObjects place (.obj entries)
      = ⟨place, kind, entries⟩ :: nodeObjectsOfEntries place 0 entries := by
  rw [nodeObjects, hkind]

theorem nodeObjects_of_none {entries : Entries Json} (hkind : kindOf? entries = none)
    (place : ObjectPlace) : nodeObjects place (.obj entries) = [] := by
  rw [nodeObjects, hkind]

theorem nodeObjectsOfEntries_cons (place : ObjectPlace) (number : Nat) (key : String)
    (value : Json) (rest : List (String × Json)) :
    nodeObjectsOfEntries place number ((key, value) :: rest)
      = (if isReserved key then [] else nodeObjectsOfField place number value)
        ++ nodeObjectsOfEntries place (number + 1) rest := by
  cases value <;> rw [nodeObjectsOfEntries, nodeObjectsOfField] <;> simp

theorem nodeObjectsOfItems_cons (place : ObjectPlace) (entry number : Nat) (item : Json)
    (rest : List Json) :
    nodeObjectsOfItems place entry number (item :: rest)
      = nodeObjects (place ++ [toLex (entry, number)]) item
        ++ nodeObjectsOfItems place entry (number + 1) rest := by
  rw [nodeObjectsOfItems]

/-! ## Their order -/

/-- The places of a list of objects ascend, and all of them satisfy a condition. -/
structure Ascends (isPlace : ObjectPlace → Prop) (objects : List NodeObject) : Prop where
  /-- The places satisfy the condition. -/
  isPlace : ∀ object ∈ objects, isPlace object.place
  /-- The places ascend. -/
  sorted : objects.Pairwise fun object other => object.place < other.place

theorem ascends_nil (isPlace : ObjectPlace → Prop) : Ascends isPlace [] :=
  ⟨fun _ h => absurd h List.not_mem_nil, .nil⟩

theorem Ascends.mono {isFirst isPlace : ObjectPlace → Prop} {objects : List NodeObject}
    (h : Ascends isFirst objects) (hmono : ∀ place, isFirst place → isPlace place) :
    Ascends isPlace objects :=
  ⟨fun object hmem => hmono _ (h.isPlace object hmem), h.sorted⟩

/-- Two lists of ascending places, one behind the other. -/
theorem Ascends.append {isFirst isSecond isPlace : ObjectPlace → Prop}
    {front back : List NodeObject} (hfront : Ascends isFirst front) (hback : Ascends isSecond back)
    (hlt : ∀ place other, isFirst place → isSecond other → place < other)
    (hfirst : ∀ place, isFirst place → isPlace place)
    (hsecond : ∀ place, isSecond place → isPlace place) : Ascends isPlace (front ++ back) := by
  constructor
  · intro object hmem
    rcases List.mem_append.mp hmem with hmem | hmem
    · exact hfirst _ (hfront.isPlace object hmem)
    · exact hsecond _ (hback.isPlace object hmem)
  · rw [List.pairwise_append]
    refine ⟨hfront.sorted, hback.sorted, fun object hobject other hother => ?_⟩
    exact hlt _ _ (hfront.isPlace object hobject) (hback.isPlace other hother)

/-- A place is before those below it. -/
theorem lt_append_cons (place : ObjectPlace) (step : Nat ×ₗ Nat) (below : ObjectPlace) :
    place < place ++ step :: below := by
  conv_lhs => rw [← List.append_nil place]
  exact List.append_left_lt (List.nil_lt_cons step below)

/-- Places below the same one come in the order of the first step to them. -/
theorem append_cons_lt {step other : Nat ×ₗ Nat} (h : step < other)
    (place below below' : ObjectPlace) : place ++ step :: below < place ++ other :: below' :=
  List.append_left_lt (List.cons_lt_cons_iff.mpr (.inl h))

mutual

theorem ascends_nodeObjects (place : ObjectPlace) : (value : Json) →
    Ascends (fun other => ∃ below, other = place ++ below) (nodeObjects place value)
  | .null | .bool _ | .int _ | .float _ | .str _ | .arr _ => by
      rw [nodeObjects] <;> simp [ascends_nil]
  | .obj entries => by
      cases hkind : kindOf? entries with
      | none =>
          rw [nodeObjects_of_none hkind]
          exact ascends_nil _
      | some kind =>
          have hbelow := ascends_nodeObjectsOfEntries place 0 entries
          rw [nodeObjects_of_kind hkind]
          constructor
          · intro object hmem
            rcases List.mem_cons.mp hmem with rfl | hmem
            · exact ⟨[], (List.append_nil _).symm⟩
            · obtain ⟨entry, -, index, below, hplace⟩ := hbelow.isPlace object hmem
              exact ⟨_, hplace⟩
          · refine List.pairwise_cons.mpr ⟨fun object hmem => ?_, hbelow.sorted⟩
            obtain ⟨entry, -, index, below, hplace⟩ := hbelow.isPlace object hmem
            rw [hplace]
            exact lt_append_cons place _ below

theorem ascends_nodeObjectsOfItems (place : ObjectPlace) (entry number : Nat) :
    (items : List Json) →
    Ascends (fun other => ∃ index, number ≤ index ∧ ∃ below,
        other = place ++ toLex (entry, index) :: below)
      (nodeObjectsOfItems place entry number items)
  | [] => by rw [nodeObjectsOfItems]; exact ascends_nil _
  | item :: rest => by
      rw [nodeObjectsOfItems_cons]
      refine (ascends_nodeObjects _ item).append
        (ascends_nodeObjectsOfItems place entry (number + 1) rest) ?_ ?_ ?_
      · rintro _ _ ⟨below, rfl⟩ ⟨index, hindex, below', rfl⟩
        have hlt : toLex (entry, number) < toLex (entry, index) :=
          Prod.Lex.toLex_lt_toLex.mpr (.inr ⟨rfl, hindex⟩)
        rw [List.append_assoc]
        exact append_cons_lt hlt place below below'
      · rintro _ ⟨below, rfl⟩
        exact ⟨number, le_rfl, below, by rw [List.append_assoc]; rfl⟩
      · rintro _ ⟨index, hindex, below, rfl⟩
        exact ⟨index, by omega, below, rfl⟩

theorem ascends_nodeObjectsOfEntries (place : ObjectPlace) (number : Nat) :
    (entries : List (String × Json)) →
    Ascends (fun other => ∃ entry, number ≤ entry ∧ ∃ index below,
        other = place ++ toLex (entry, index) :: below)
      (nodeObjectsOfEntries place number entries)
  | [] => by rw [nodeObjectsOfEntries]; exact ascends_nil _
  | (key, value) :: rest => by
      have hfield : Ascends (fun other => ∃ index below,
          other = place ++ toLex (number, index) :: below)
          (nodeObjectsOfField place number value) := by
        cases value with
        | arr items =>
            refine (ascends_nodeObjectsOfItems place number 0 items).mono ?_
            rintro _ ⟨index, -, below, rfl⟩
            exact ⟨index, below, rfl⟩
        | null | bool _ | int _ | float _ | str _ | obj _ =>
            refine (ascends_nodeObjects (place ++ [toLex (number, 0)]) _).mono ?_
            rintro _ ⟨below, rfl⟩
            exact ⟨0, below, by rw [List.append_assoc]; rfl⟩
      rw [nodeObjectsOfEntries_cons]
      have hfirst : Ascends (fun other => ∃ index below,
          other = place ++ toLex (number, index) :: below)
          (if isReserved key then [] else nodeObjectsOfField place number value) := by
        split
        · exact ascends_nil _
        · exact hfield
      refine hfirst.append (ascends_nodeObjectsOfEntries place (number + 1) rest) ?_ ?_ ?_
      · rintro _ _ ⟨index, below, rfl⟩ ⟨entry, hentry, index', below', rfl⟩
        have hlt : toLex (number, index) < toLex (entry, index') :=
          Prod.Lex.toLex_lt_toLex.mpr (.inl hentry)
        exact append_cons_lt hlt place below below'
      · rintro _ ⟨index, below, rfl⟩
        exact ⟨number, le_rfl, index, below, rfl⟩
      · rintro _ ⟨entry, hentry, index, below, rfl⟩
        exact ⟨entry, by omega, index, below, rfl⟩

end

/-! ## The objects below one of them -/

/-- The objects below an object of a list follow it there. -/
def IsNested (objects : List NodeObject) : Prop :=
  ∀ (index : Nat) (object : NodeObject), objects[index]? = some object →
    nodeObjects object.place (.obj object.entries) <+: objects.drop index

theorem isNested_nil : IsNested [] := fun _ _ h => absurd h (by simp)

theorem IsNested.append {front back : List NodeObject} (hfront : IsNested front)
    (hback : IsNested back) : IsNested (front ++ back) := by
  intro index object hobject
  rcases Nat.lt_or_ge index front.length with hlt | hge
  · rw [List.getElem?_append_left hlt] at hobject
    rw [List.drop_append_of_le_length hlt.le]
    exact (hfront index object hobject).trans (List.prefix_append _ _)
  · rw [List.getElem?_append_right hge] at hobject
    obtain ⟨more, rfl⟩ := Nat.exists_eq_add_of_le hge
    rw [Nat.add_sub_cancel_left] at hobject
    rw [List.drop_length_add_append]
    exact hback more object hobject

mutual

theorem isNested_nodeObjects (place : ObjectPlace) : (value : Json) →
    IsNested (nodeObjects place value)
  | .null | .bool _ | .int _ | .float _ | .str _ | .arr _ => by
      rw [nodeObjects] <;> simp [isNested_nil]
  | .obj entries => by
      cases hkind : kindOf? entries with
      | none =>
          rw [nodeObjects_of_none hkind]
          exact isNested_nil
      | some kind =>
          have hbelow := isNested_nodeObjectsOfEntries place 0 entries
          have hall := nodeObjects_of_kind hkind place
          intro index object hobject
          cases index with
          | zero =>
              -- the object itself
              rw [hall, List.getElem?_cons_zero, Option.some.injEq] at hobject
              rw [← hobject]
              exact List.prefix_rfl
          | succ index =>
              rw [hall, List.getElem?_cons_succ] at hobject
              rw [hall, List.drop_succ_cons]
              exact hbelow index object hobject

theorem isNested_nodeObjectsOfItems (place : ObjectPlace) (entry number : Nat) :
    (items : List Json) → IsNested (nodeObjectsOfItems place entry number items)
  | [] => by
      rw [nodeObjectsOfItems]
      exact isNested_nil
  | item :: rest => by
      rw [nodeObjectsOfItems_cons]
      exact (isNested_nodeObjects _ item).append
        (isNested_nodeObjectsOfItems place entry (number + 1) rest)

theorem isNested_nodeObjectsOfEntries (place : ObjectPlace) (number : Nat) :
    (entries : List (String × Json)) → IsNested (nodeObjectsOfEntries place number entries)
  | [] => by
      rw [nodeObjectsOfEntries]
      exact isNested_nil
  | (key, value) :: rest => by
      have hfield : IsNested (nodeObjectsOfField place number value) := by
        cases value with
        | arr items => exact isNested_nodeObjectsOfItems place number 0 items
        | null | bool _ | int _ | float _ | str _ | obj _ => exact isNested_nodeObjects _ _
      rw [nodeObjectsOfEntries_cons]
      refine IsNested.append ?_ (isNested_nodeObjectsOfEntries place (number + 1) rest)
      split
      · exact isNested_nil
      · exact hfield

end

/-! ## The objects that are reached -/

/-- The objects that are reached from the root of a document through fields whose values are
objects with a kind, or lists with such items. -/
inductive Reaches (document : Json) : NodeObject → Prop
  /-- The document itself. -/
  | root {kind : String} {entries : Entries Json} (hdocument : document = .obj entries)
      (hkind : Entries.get? entries "type" = some (.str kind)) :
      Reaches document ⟨[], kind, entries⟩
  /-- The value of a field. -/
  | field {object : NodeObject} {number : Nat} {key kind : String} {entries : Entries Json}
      (hobject : Reaches document object) (hkey : IsFieldKey key)
      (hfield : object.entries[number]? = some (key, .obj entries))
      (hkind : Entries.get? entries "type" = some (.str kind)) :
      Reaches document ⟨object.place ++ [toLex (number, 0)], kind, entries⟩
  /-- An item of the list in a field. -/
  | item {object : NodeObject} {number index : Nat} {key kind : String} {items : List Json}
      {entries : Entries Json} (hobject : Reaches document object) (hkey : IsFieldKey key)
      (hfield : object.entries[number]? = some (key, .arr items))
      (hitem : items[index]? = some (.obj entries))
      (hkind : Entries.get? entries "type" = some (.str kind)) :
      Reaches document ⟨object.place ++ [toLex (number, index)], kind, entries⟩

mutual

theorem reaches_of_mem_nodeObjects {document : Json} {place : ObjectPlace} : (value : Json) →
    (∀ kind entries, value = .obj entries → kindOf? entries = some kind →
      Reaches document ⟨place, kind, entries⟩) →
    ∀ object ∈ nodeObjects place value, Reaches document object
  | .null, _ | .bool _, _ | .int _, _ | .float _, _ | .str _, _ | .arr _, _ => by
      rw [nodeObjects] <;> simp
  | .obj entries, hvalue => by
      cases hkind : kindOf? entries with
      | none =>
          rw [nodeObjects_of_none hkind]
          simp
      | some kind =>
          have hroot := hvalue kind entries rfl hkind
          rw [nodeObjects_of_kind hkind, List.forall_mem_cons]
          exact ⟨hroot, reaches_of_mem_nodeObjectsOfEntries hroot entries (List.drop_zero)⟩

theorem reaches_of_mem_nodeObjectsOfItems {document : Json} {parent : NodeObject}
    (hparent : Reaches document parent) {entry number : Nat} {key : String} {all : List Json}
    (hkey : IsFieldKey key) (hfield : parent.entries[entry]? = some (key, .arr all)) :
    (items : List Json) → all.drop number = items →
    ∀ object ∈ nodeObjectsOfItems parent.place entry number items, Reaches document object
  | [], _ => by rw [nodeObjectsOfItems]; simp
  | item :: rest, hdrop => by
      have hitem : all[number]? = some item := by
        rw [← List.head?_drop, hdrop, List.head?_cons]
      have hrest : all.drop (number + 1) = rest := by
        rw [← List.tail_drop, hdrop, List.tail_cons]
      rw [nodeObjectsOfItems_cons, List.forall_mem_append]
      constructor
      · refine reaches_of_mem_nodeObjects item fun kind entries hvalue hkind => ?_
        rw [hvalue] at hitem
        exact .item hparent hkey hfield hitem (kindOf?_eq_some_iff.mp hkind)
      · exact reaches_of_mem_nodeObjectsOfItems hparent hkey hfield rest hrest

theorem reaches_of_mem_nodeObjectsOfEntries {document : Json} {parent : NodeObject}
    (hparent : Reaches document parent) {number : Nat} : (entries : List (String × Json)) →
    parent.entries.drop number = entries →
    ∀ object ∈ nodeObjectsOfEntries parent.place number entries, Reaches document object
  | [], _ => by rw [nodeObjectsOfEntries]; simp
  | (key, value) :: rest, hdrop => by
      have hentry : parent.entries[number]? = some (key, value) := by
        rw [← List.head?_drop, hdrop, List.head?_cons]
      have hrest : parent.entries.drop (number + 1) = rest := by
        rw [← List.tail_drop, hdrop, List.tail_cons]
      rw [nodeObjectsOfEntries_cons, List.forall_mem_append]
      refine ⟨?_, reaches_of_mem_nodeObjectsOfEntries hparent rest hrest⟩
      cases hkey : isReserved key with
      | true => simp
      | false =>
          have hkey := isReserved_eq_false_iff.mp hkey
          simp only [Bool.false_eq_true, if_false]
          cases value with
          | arr items =>
              exact reaches_of_mem_nodeObjectsOfItems hparent hkey hentry items List.drop_zero
          | null | bool _ | int _ | float _ | str _ | obj _ =>
              refine reaches_of_mem_nodeObjects _ fun kind entries hvalue hkind => ?_
              rw [hvalue] at hentry
              exact .field hparent hkey hentry (kindOf?_eq_some_iff.mp hkind)

end

theorem mem_nodeObjectsOfItems {place : ObjectPlace} {entry number index : Nat} {items : List Json}
    {item : Json} (hitem : items[index]? = some item) {object : NodeObject}
    (hmem : object ∈ nodeObjects (place ++ [toLex (entry, number + index)]) item) :
    object ∈ nodeObjectsOfItems place entry number items := by
  induction items generalizing number index with
  | nil => exact absurd hitem (by simp)
  | cons first rest ih =>
      rw [nodeObjectsOfItems_cons, List.mem_append]
      cases index with
      | zero =>
          rw [List.getElem?_cons_zero, Option.some.injEq] at hitem
          rw [hitem]
          exact .inl hmem
      | succ index =>
          rw [List.getElem?_cons_succ] at hitem
          exact .inr (ih hitem (by rwa [Nat.succ_add_eq_add_succ]))

theorem mem_nodeObjectsOfEntries {place : ObjectPlace} {number index : Nat} {key : String}
    {value : Json} {entries : List (String × Json)} (hkey : IsFieldKey key)
    (hentry : entries[index]? = some (key, value)) {object : NodeObject}
    (hmem : object ∈ nodeObjectsOfField place (number + index) value) :
    object ∈ nodeObjectsOfEntries place number entries := by
  induction entries generalizing number index with
  | nil => exact absurd hentry (by simp)
  | cons entry rest ih =>
      rw [nodeObjectsOfEntries_cons, List.mem_append]
      cases index with
      | zero =>
          rw [List.getElem?_cons_zero, Option.some.injEq] at hentry
          rw [hentry, isReserved_eq_false_iff.mpr hkey]
          exact .inl hmem
      | succ index =>
          rw [List.getElem?_cons_succ] at hentry
          exact .inr (ih hentry (by rwa [Nat.succ_add_eq_add_succ]))

theorem Reaches.kindOf?_eq {document : Json} {object : NodeObject} (h : Reaches document object) :
    kindOf? object.entries = some object.kind := by
  cases h with
  | root _ hkind => exact kindOf?_eq_some_iff.mpr hkind
  | field _ _ _ hkind => exact kindOf?_eq_some_iff.mpr hkind
  | item _ _ _ _ hkind => exact kindOf?_eq_some_iff.mpr hkind

/-- What is in the fields of a listed object is listed. -/
theorem mem_of_mem_nodeObjectsOfEntries {document : Json} {parent object : NodeObject}
    (hkind : kindOf? parent.entries = some parent.kind) (hparent : parent ∈ nodeObjects [] document)
    (hobject : object ∈ nodeObjectsOfEntries parent.place 0 parent.entries) :
    object ∈ nodeObjects [] document := by
  obtain ⟨index, hindex⟩ := List.mem_iff_getElem?.mp hparent
  have hnested := isNested_nodeObjects [] document index parent hindex
  have hbelow : object ∈ nodeObjects parent.place (.obj parent.entries) := by
    rw [nodeObjects_of_kind hkind]
    exact List.mem_cons_of_mem _ hobject
  exact List.mem_of_mem_drop (hnested.subset hbelow)

/-- The objects with a kind in a document are those that are reached. -/
theorem mem_nodeObjects_iff {document : Json} {object : NodeObject} :
    object ∈ nodeObjects [] document ↔ Reaches document object := by
  constructor
  · intro hmem
    refine reaches_of_mem_nodeObjects document (fun kind entries hdocument hkind => ?_) object hmem
    exact .root hdocument (kindOf?_eq_some_iff.mp hkind)
  · intro hreaches
    induction hreaches with
    | root hdocument hkind =>
        rw [hdocument, nodeObjects_of_kind (kindOf?_eq_some_iff.mpr hkind)]
        exact List.mem_cons_self
    | field hobject hkey hfield hkind ih =>
        refine mem_of_mem_nodeObjectsOfEntries hobject.kindOf?_eq ih
          (mem_nodeObjectsOfEntries hkey hfield ?_)
        rw [nodeObjectsOfField, nodeObjects_of_kind (kindOf?_eq_some_iff.mpr hkind), Nat.zero_add]
        · exact List.mem_cons_self
        · simp
    | item hobject hkey hfield hitem hkind ih =>
        refine mem_of_mem_nodeObjectsOfEntries hobject.kindOf?_eq ih
          (mem_nodeObjectsOfEntries hkey hfield (mem_nodeObjectsOfItems hitem ?_))
        rw [nodeObjects_of_kind (kindOf?_eq_some_iff.mpr hkind), Nat.zero_add, Nat.zero_add]
        exact List.mem_cons_self

end Json

/-! ## Steps of a walk -/

theorem walkStack_append (index : Nat) (front back : List (Node × Option Nat)) :
    walkStack index (front ++ back)
      = walkStack index front ++ walkStack (index + (walkStack index front).length) back := by
  fun_induction walkStack index front with
  | case1 index => rw [List.nil_append]; rfl
  | case2 index node parent stack ih =>
      rw [List.cons_append, walkStack, ← List.append_assoc, ih, List.length_cons, List.cons_append]
      congr 3
      omega

/-- Of the objects with a kind in a document, a step of a walk is at the one whose number it has.
Its node is what this object describes, and its parent the object around it, except where the walk
started. -/
structure Visit.Shows (objects : List NodeObject) (origin : ObjectPlace) (visit : Visit)
    (object : NodeObject) : Prop where
  /-- It has the number of the object. -/
  index : objects[visit.index]? = some object
  /-- The node has the kind of the object. -/
  kind : visit.node.kind = object.kind
  /-- The node is what the object describes to whoever has calls enough to read it. -/
  node : ∃ calls, Node.ofEntries calls object.kind object.entries = .ok visit.node
  /-- The walk started where there is no parent. -/
  parent_eq_none_iff : visit.parent = none ↔ object.place = origin
  /-- The parent is one step up. -/
  parent : ∀ number, visit.parent = some number →
    ∃ enclosing step, objects[number]? = some enclosing ∧ object.place = enclosing.place ++ [step]

section Walk

variable {objects : List NodeObject} {origin : ObjectPlace}

/-- The walk of the children of a node shows the objects `shown`, wherever these stand among all
objects. -/
def ShowsBelow (objects : List NodeObject) (origin : ObjectPlace) (parent : Nat)
    (children : List Node) (shown : List NodeObject) : Prop :=
  ∀ index, shown <+: objects.drop index → List.Forall₂ (Visit.Shows objects origin)
    (walkStack index (children.map fun child => (child, some parent))) shown

theorem showsBelow_nil {parent : Nat} : ShowsBelow objects origin parent [] [] := by
  intro index _
  rw [List.map_nil, walkStack]
  exact .nil

theorem ShowsBelow.append {parent : Nat} {front back : List Node} {first second : List NodeObject}
    (hfront : ShowsBelow objects origin parent front first)
    (hback : ShowsBelow objects origin parent back second) :
    ShowsBelow objects origin parent (front ++ back) (first ++ second) := by
  intro index hbegins
  have hfirst := hfront index ((List.prefix_append _ _).trans hbegins)
  -- the second part stands where the first one ends
  obtain ⟨rest, hrest⟩ := hbegins
  have hsecond : second <+: objects.drop (index + first.length) := by
    refine ⟨rest, ?_⟩
    rw [← List.drop_drop, ← hrest, List.append_assoc, List.drop_left]
  rw [List.map_append, walkStack_append, hfirst.length_eq]
  exact List.rel_append hfirst (hback _ hsecond)

/-- The walk from a node at an object, given what that of its children shows. -/
theorem forall₂_walkStack_of_showsBelow {object : NodeObject} {node : Node}
    (hkind : node.kind = object.kind)
    (hnode : ∃ calls, Node.ofEntries calls object.kind object.entries = .ok node) {index : Nat}
    {parent : Option Nat} (hnone : parent = none ↔ object.place = origin)
    (hparent : ∀ number, parent = some number → ∃ enclosing step,
      objects[number]? = some enclosing ∧ object.place = enclosing.place ++ [step])
    {below : List NodeObject} (hbegins : object :: below <+: objects.drop index)
    (hbelow : objects[index]? = some object →
      ShowsBelow objects origin index node.children below) :
    List.Forall₂ (Visit.Shows objects origin) (walkStack index [(node, parent)])
      (object :: below) := by
  obtain ⟨rest, hrest⟩ := hbegins
  have hindex : objects[index]? = some object := by
    rw [← List.head?_drop, ← hrest]
    rfl
  have hnext : below <+: objects.drop (index + 1) := by
    refine ⟨rest, ?_⟩
    rw [← List.tail_drop, ← hrest]
    rfl
  rw [walkStack, List.append_nil]
  exact .cons ⟨hindex, hkind, hnode, hnone, hparent⟩ (hbelow hindex _ hnext)

/-- A value that is neither a list nor an object with a kind becomes a leaf. -/
theorem eq_leaf_of_convert {calls : Nat} {value : Json} {field : Field}
    (hfield : convert calls value = .ok field) (hlist : ∀ items, value ≠ .arr items)
    (hkind : value.entries?.bind kindOf? = none) : field = .leaf value := by
  rw [convert.eq_def] at hfield
  split at hfield
  · exact absurd hfield (by simp)
  · cases value with
    | null | bool _ | int _ | float _ | str _ => exact (Except.ok.inj hfield).symm
    | arr items => exact absurd rfl (hlist items)
    | obj entries =>
        simp only [Json.entries?, Option.bind_some] at hkind
        simp only [hkind] at hfield
        exact (Except.ok.inj hfield).symm

/-- A list becomes a list. -/
theorem exists_list_of_convert {calls : Nat} {items : List Json} {field : Field}
    (hfield : convert calls (.arr items) = .ok field) :
    ∃ fields, convertItems (calls - 2) items = .ok fields ∧ field = .list fields := by
  rw [convert.eq_def] at hfield
  split at hfield
  · exact absurd hfield (by simp)
  · obtain ⟨fields, hfields, rfl⟩ := Except.map_eq_ok_iff.mp hfield
    exact ⟨fields, hfields, rfl⟩

/-- An object with a kind becomes the node it describes. -/
theorem exists_node_of_convert {calls : Nat} {entries : Entries Json} {kind : String}
    {field : Field} (hkind : kindOf? entries = some kind)
    (hfield : convert calls (.obj entries) = .ok field) :
    ∃ node, ofEntries (calls - 2) kind entries = .ok node ∧ field = .node node := by
  rw [convert.eq_def] at hfield
  split at hfield
  · exact absurd hfield (by simp)
  · simp only [hkind] at hfield
    obtain ⟨loc, hloc, hfield⟩ := Except.bind_eq_ok_iff.mp hfield
    obtain ⟨fields, hfields, hfield⟩ := Except.bind_eq_ok_iff.mp hfield
    refine ⟨mk kind loc fields, ?_, (Except.ok.inj hfield).symm⟩
    exact Except.bind_eq_ok_iff.mpr
      ⟨loc, hloc, Except.bind_eq_ok_iff.mpr ⟨fields, hfields, rfl⟩⟩

/-- The fields of the node that an object describes. -/
theorem exists_fields_of_ofEntries {calls : Nat} {kind : String} {entries : Entries Json}
    {node : Node} (hnode : ofEntries calls kind entries = .ok node) :
    ∃ loc fields, convertEntries calls entries = .ok fields ∧ node = mk kind loc fields := by
  obtain ⟨loc, -, hrest⟩ := Except.bind_eq_ok_iff.mp hnode
  obtain ⟨fields, hfields, hmk⟩ := Except.bind_eq_ok_iff.mp hrest
  exact ⟨loc, fields, hfields, (Except.ok.inj hmk).symm⟩

/-- A value that is no list holds one node at most. -/
theorem nodes_of_convert {calls : Nat} {value : Json} {field : Field}
    (hfield : convert calls value = .ok field) (hlist : ∀ items, value ≠ .arr items) :
    field.nodes = field.node?.toList := by
  cases hkind : value.entries?.bind kindOf? with
  | none =>
      rw [eq_leaf_of_convert hfield hlist hkind]
      rfl
  | some kind =>
      obtain ⟨entries, hentries, hkind⟩ := Option.bind_eq_some_iff.mp hkind
      cases value with
      | obj entries =>
          obtain rfl := Option.some.inj hentries
          obtain ⟨node, -, rfl⟩ := exists_node_of_convert hkind hfield
          rfl
      | null | bool | int | float | str | arr => exact absurd hentries (by simp [Json.entries?])

mutual

/-- A value that is an object with a kind becomes a node, which is shown. -/
theorem showsBelow_nodeObjects {calls : Nat} {base : ObjectPlace} {step : Nat ×ₗ Nat}
    {parent : Nat} : (value : Json) → {field : Field} → convert calls value = .ok field →
    objects[parent]?.map (·.place) = some base → origin.length ≤ base.length →
    ShowsBelow objects origin parent field.node?.toList (Json.nodeObjects (base ++ [step]) value)
  | .null, field, hfield, _, _ | .bool _, field, hfield, _, _ | .int _, field, hfield, _, _
  | .float _, field, hfield, _, _ | .str _, field, hfield, _, _ => by
      rw [eq_leaf_of_convert hfield (by simp) rfl, Json.nodeObjects]
      · exact showsBelow_nil
      · simp
  | .arr items, field, hfield, _, _ => by
      obtain ⟨fields, -, rfl⟩ := exists_list_of_convert hfield
      rw [Json.nodeObjects]
      · exact showsBelow_nil
      · simp
  | .obj entries, field, hfield, hparent, hle => by
      cases hkind : kindOf? entries with
      | none =>
          rw [eq_leaf_of_convert hfield (by simp) hkind, Json.nodeObjects_of_none hkind]
          exact showsBelow_nil
      | some kind =>
          obtain ⟨node, hnode, rfl⟩ := exists_node_of_convert hkind hfield
          obtain ⟨loc, fields, hfields, rfl⟩ := exists_fields_of_ofEntries hnode
          obtain ⟨enclosing, henclosing, rfl⟩ := Option.map_eq_some_iff.mp hparent
          rw [Json.nodeObjects_of_kind hkind]
          intro index hbegins
          refine forall₂_walkStack_of_showsBelow rfl ⟨_, hnode⟩ ?_ ?_ hbegins fun hindex => ?_
          · refine iff_of_false (by simp) fun heq => ?_
            have hlength := congrArg List.length heq
            rw [List.length_append, List.length_singleton] at hlength
            omega
          · rintro _ ⟨⟩
            exact ⟨enclosing, step, henclosing, rfl⟩
          · refine showsBelow_nodeObjectsOfEntries entries hfields ?_ ?_
            · rw [hindex]
              rfl
            · rw [List.length_append]
              omega

theorem showsBelow_nodeObjectsOfItems {calls : Nat} {base : ObjectPlace}
    {parent entry number : Nat} :
    (items : List Json) → {fields : List Field} → convertItems calls items = .ok fields →
    objects[parent]?.map (·.place) = some base → origin.length ≤ base.length →
    ShowsBelow objects origin parent (fields.filterMap Field.node?)
      (Json.nodeObjectsOfItems base entry number items)
  | [], fields, hfields, _, _ => by
      rw [convertItems] at hfields
      obtain rfl := Except.ok.inj hfields
      rw [Json.nodeObjectsOfItems]
      exact showsBelow_nil
  | item :: rest, fields, hfields, hparent, hle => by
      rw [convertItems] at hfields
      obtain ⟨first, hfirst, hfields⟩ := Except.bind_eq_ok_iff.mp hfields
      obtain ⟨others, hothers, hfields⟩ := Except.bind_eq_ok_iff.mp hfields
      obtain rfl := Except.ok.inj hfields
      rw [Json.nodeObjectsOfItems_cons, List.filterMap_eq_flatMap_toList, List.flatMap_cons,
        ← List.filterMap_eq_flatMap_toList]
      exact (showsBelow_nodeObjects item hfirst hparent hle).append
        (showsBelow_nodeObjectsOfItems rest hothers hparent hle)

theorem showsBelow_nodeObjectsOfEntries {calls : Nat} {base : ObjectPlace}
    {parent number : Nat} :
    (entries : List (String × Json)) → {fields : List (String × Field)} →
    convertEntries calls entries = .ok fields →
    objects[parent]?.map (·.place) = some base → origin.length ≤ base.length →
    ShowsBelow objects origin parent (fields.flatMap fun field => field.2.nodes)
      (Json.nodeObjectsOfEntries base number entries)
  | [], fields, hfields, _, _ => by
      rw [convertEntries] at hfields
      obtain rfl := Except.ok.inj hfields
      rw [Json.nodeObjectsOfEntries]
      exact showsBelow_nil
  | (key, value) :: rest, fields, hfields, hparent, hle => by
      rw [convertEntries] at hfields
      rw [Json.nodeObjectsOfEntries_cons]
      cases hkey : isReserved key with
      | true =>
          rw [hkey, if_pos rfl] at hfields
          exact showsBelow_nodeObjectsOfEntries rest hfields hparent hle
      | false =>
          rw [hkey, if_neg Bool.false_ne_true] at hfields
          obtain ⟨first, hfirst, hfields⟩ := Except.bind_eq_ok_iff.mp hfields
          obtain ⟨others, hothers, hfields⟩ := Except.bind_eq_ok_iff.mp hfields
          obtain rfl := Except.ok.inj hfields
          rw [if_neg Bool.false_ne_true, List.flatMap_cons]
          refine ShowsBelow.append ?_ (showsBelow_nodeObjectsOfEntries rest hothers hparent hle)
          cases value with
          | arr items =>
              obtain ⟨values, hvalues, rfl⟩ := exists_list_of_convert hfirst
              exact showsBelow_nodeObjectsOfItems items hvalues hparent hle
          | null | bool _ | int _ | float _ | str _ | obj _ =>
              rw [nodes_of_convert hfirst (by simp)]
              exact showsBelow_nodeObjects _ hfirst hparent hle

end

/-- The walk from a node at an object of a document shows the objects below it. -/
theorem forall₂_shows_walk (object : NodeObject) {node : Node} {index : Nat}
    (hkind : kindOf? object.entries = some object.kind)
    (hnode : ∃ calls, Node.ofEntries calls object.kind object.entries = .ok node)
    (hbegins : Json.nodeObjects object.place (.obj object.entries) <+: objects.drop index) :
    List.Forall₂ (Visit.Shows objects object.place) (node.walk index)
      (Json.nodeObjects object.place (.obj object.entries)) := by
  obtain ⟨calls, hread⟩ := hnode
  obtain ⟨loc, fields, hfields, rfl⟩ := exists_fields_of_ofEntries hread
  rw [Json.nodeObjects_of_kind hkind] at hbegins ⊢
  refine forall₂_walkStack_of_showsBelow rfl ⟨calls, hread⟩ (by simp) (by simp) hbegins
    fun hindex => ?_
  refine showsBelow_nodeObjectsOfEntries object.entries hfields ?_ le_rfl
  rw [hindex]
  rfl

end Walk

/-! ## The walk of a tree -/

theorem Tree.exists_root_of_ofJson {calls : Nat} {document : Json} {tree : Tree}
    (h : ofJson document calls = .ok tree) :
    ∃ entries kind, document = .obj entries ∧ kindOf? entries = some kind
      ∧ Node.ofEntries (calls - 2) kind entries = .ok tree.root := by
  rw [ofJson] at h
  split at h
  · exact absurd h (by simp)
  · cases document with
    | obj entries =>
        simp only [Json.entries?] at h
        cases hkind : kindOf? entries with
        | none => simp [hkind] at h
        | some kind =>
            simp only [hkind] at h
            cases hroot : Node.ofEntries (calls - 2) kind entries with
            | error fault => simp [hroot] at h
            | ok root =>
                simp only [hroot] at h
                obtain rfl := Except.ok.inj h
                exact ⟨entries, kind, rfl, hkind, hroot⟩
    | null | bool _ | int _ | float _ | str _ | arr _ => simp [Json.entries?] at h

/-- The walk of the tree that a document describes shows the objects with a kind of the document,
each of them once: these are the ones that are reached through fields and the lists in them, they
come in the order of their places, and each is shown with the object around it. The walk from any of
the nodes shows those at and below its object in the same way. -/
theorem Tree.visits_ofJson {document : Json} {calls : Nat} {tree : Tree}
    (h : ofJson document calls = .ok tree) :
    (∀ object, object ∈ Json.nodeObjects [] document ↔ document.Reaches object)
      ∧ (Json.nodeObjects [] document).Pairwise (fun object other => object.place < other.place)
      ∧ List.Forall₂ (Visit.Shows (Json.nodeObjects [] document) []) tree.visits
          (Json.nodeObjects [] document)
      ∧ ∀ visit ∈ tree.visits, ∃ object, visit.Shows (Json.nodeObjects [] document) [] object
          ∧ List.Forall₂ (Visit.Shows (Json.nodeObjects [] document) object.place) visit.walk
              (Json.nodeObjects object.place (.obj object.entries)) := by
  obtain ⟨entries, kind, rfl, hkind, hroot⟩ := exists_root_of_ofJson h
  set objects := Json.nodeObjects [] (.obj entries) with hobjects
  have hvisits : List.Forall₂ (Visit.Shows objects []) tree.visits objects := by
    have hbegins : Json.nodeObjects [] (.obj entries) <+: objects.drop 0 := List.prefix_rfl
    exact forall₂_shows_walk ⟨[], kind, entries⟩ hkind ⟨_, hroot⟩ hbegins
  refine ⟨fun object => Json.mem_nodeObjects_iff, (Json.ascends_nodeObjects [] _).sorted, hvisits,
    fun visit hmem => ?_⟩
  obtain ⟨place, hplace, rfl⟩ := List.mem_iff_getElem.mp hmem
  have hshows := hvisits.get hplace (hvisits.length_eq ▸ hplace)
  have hreaches := Json.mem_nodeObjects_iff.mp (List.mem_of_getElem? hshows.index)
  have hnested := Json.isNested_nodeObjects [] (.obj entries) _ _ hshows.index
  exact ⟨_, hshows, forall₂_shows_walk _ hreaches.kindOf?_eq hshows.node hnested⟩

/-- A list inside a list, an object without a kind and a reserved key hide what is in them. -/
theorem Tree.visits_ofJson_hidden :
    let node := fun kind rest => Json.obj (("type", .str kind) :: rest)
    let document := node "Program"
      [("body", .arr [node "A" [("x", node "B" [])], .arr [node "C" []]]),
        ("y", .obj [("z", node "D" [])]), ("end", node "E" []), ("last", node "F" [])]
    ∃ tree, ofJson document = .ok tree
      ∧ tree.visits.map (·.node.kind) = ["Program", "A", "B", "F"] := by
  intro node document
  have herror : (ofJson document).error? = none := by decide +kernel
  have hkinds : (Json.nodeObjects [] document).map (·.kind) = ["Program", "A", "B", "F"] := by
    decide +kernel
  cases htree : ofJson document with
  | error error =>
      rw [htree] at herror
      exact absurd herror (by simp [Except.error?])
  | ok tree =>
      obtain ⟨-, -, hvisits, -⟩ := Tree.visits_ofJson htree
      refine ⟨tree, rfl, ?_⟩
      rw [← hkinds, ← List.forall₂_eq_eq_eq, List.forall₂_map_left_iff, List.forall₂_map_right_iff]
      exact hvisits.imp fun visit object hshows => hshows.kind

end ScriptAdvisor
