import ScriptAdvisor.Yaml.Node
import ScriptAdvisor.Yaml.Plain

/-! # Reading YAML

The value of a node follows from its tag, or else from its form and, for a plain scalar, from its
text. A mapping may take over the entries of other mappings.

A text may be wrong in several places. Collections are filled level by level, the outer ones first,
so that the error of the outermost level counts, and of several on one level the first.

* `Yaml.LoadError` says why a text has no value.
* `Yaml.Node.toValue` is the value of a node.
* `Yaml.load` reads a text. -/

namespace ScriptAdvisor.Yaml

/-- Why a text has no value. -/
inductive LoadError where
  /-- It is no YAML. -/
  | malformed (error : Error)
  /-- A scalar does not denote what its kind promises. -/
  | value (fault : Fault)
  deriving DecidableEq, Repr, Inhabited

/-- A value, or the error that stands in its way and the level it is found on. -/
abbrev Leveled (α : Type) := Except (Nat × LoadError) α

namespace Leveled

variable {α β : Type}

/-- Two values, or the error of the outer level; on one level the first error counts. -/
def both (first : Leveled α) (second : Leveled β) : Leveled (α × β) :=
  match first, second with
  | .ok a, .ok b => .ok (a, b)
  | .ok _, .error error => .error error
  | .error error, .ok _ => .error error
  | .error error, .error other => .error (if other.1 < error.1 then other else error)

/-- All values of a list. -/
def all : List (Leveled α) → Leveled (List α)
  | [] => .ok []
  | first :: rest => (both first (all rest)).map fun (value, values) => value :: values

/-- An error of the given level. -/
def fail (level : Nat) (error : Error) : Leveled α := .error (level, .malformed error)

/-- A scalar read on the given level. -/
def scalar (level : Nat) (value : Except Fault α) : Leveled α :=
  value.mapError fun fault => (level, .value fault)

end Leveled

namespace Node

/-- The tag of a node: the one that is written, or that of its kind. -/
def tagName : Node → String
  | scalar tag text isPlain => tag.getD (if isPlain then Kind.ofPlain text else .str).tag
  | sequence tag _ => (tag.filter (· != "!")).getD Kind.seq.tag
  | mapping tag _ => (tag.filter (· != "!")).getD Kind.map.tag
  | again _ => Kind.null.tag

/-- The standard kind of a node, if it has one. -/
def kind? (node : Node) : Option Kind := Kind.ofTag? node.tagName

/-- The scalar of a node. A mapping has one under the key made for that. -/
def scalarText? (fuel : Nat) : Node → Option String
  | scalar _ text _ => some text
  | mapping _ pairs =>
    match fuel with
    | 0 => none
    | fuel + 1 =>
      (pairs.find? fun pair => pair.1.kind? == some .value).bind fun pair => pair.2.scalarText? fuel
  | again _ => some ""
  | sequence _ _ => none

/-- The pairs of a mapping with those it takes over from others in front of them. Of several
mappings to take over the first one counts most. -/
def merged (fuel : Nat) (pairs : List (Node × Node)) : Except Error (List (Node × Node)) :=
  match fuel with
  | 0 => .ok pairs
  | fuel + 1 => do
    let isMerge (pair : Node × Node) : Bool := pair.1.kind? == some .merge
    let taken ← (pairs.filter isMerge).mapM fun (_, value) =>
      match value with
      | mapping _ inner => merged fuel inner
      | sequence _ items => do
        let parts ← items.mapM fun
          | mapping _ inner => merged fuel inner
          | again _ => .ok []
          | _ => .error .badMerge
        return parts.reverse.flatten
      | again _ => .ok []
      | scalar .. => .error .badMerge
    return taken.flatten ++ pairs.filter fun pair => !isMerge pair

/-- The key of a mapping. The key for a scalar is an ordinary text here. -/
def asKey (key : Node) : Node :=
  match key with
  | scalar _ text _ => if key.kind? == some .value then scalar none text false else key
  | key => key

mutual

/-- The value of a node on a level. -/
def valueAt (level : Nat) (fuel : Nat) (node : Node) : Leveled Value :=
  match fuel with
  | 0 => .ok .null
  | fuel + 1 =>
    match node.kind? with
    | some .seq => (itemsAt (level + 1) fuel node).map .list
    | some .map => (entriesAt (level + 1) fuel node).map .map
    | some .set => (entriesAt (level + 1) fuel node).map fun entries => .set (entries.map (·.1))
    | some .omap | some .pairs => (pairsAt (level + 1) fuel node).map .list
    | some kind => scalarAt level kind (node.scalarText? (fuel + 1))
    | none => .fail level .unknownTag
where
  /-- The value of a scalar of a kind. -/
  scalarAt (level : Nat) (kind : Kind) (text? : Option String) : Leveled Value :=
    match kind, text? with
    | .null, some _ => .ok .null
    | .bool, some text => (Leveled.scalar level (readBool text)).map .bool
    | .int, some text => (Leveled.scalar level (readInteger text)).map .int
    | .float, some text => (Leveled.scalar level (readDouble text)).map .float
    | .str, some text => .ok (.str text)
    | .timestamp, some text => .scalar level (readDate text)
    | .binary, some text =>
      match readBytes? text with
      | some content => .ok (.bytes content)
      | none => .fail level .badScalar
    | .merge, _ | .value, _ => .fail level .unknownTag
    | _, _ => .fail level .badScalar

/-- The items of a list on a level. -/
def itemsAt (level : Nat) (fuel : Nat) (node : Node) : Leveled (List Value) :=
  match fuel with
  | 0 => .ok []
  | fuel + 1 =>
    match node with
    | sequence _ items => .all (items.map (valueAt level fuel))
    | _ => .fail level .badScalar

/-- The entries of a mapping on a level. -/
def entriesAt (level : Nat) (fuel : Nat) (node : Node) : Leveled (List (Value × Value)) :=
  match fuel with
  | 0 => .ok []
  | fuel + 1 =>
    match node with
    | mapping _ pairs =>
      match merged (node.height + 1) pairs with
      | .error error => .fail level error
      | .ok pairs =>
        (Leveled.all (pairs.map fun (key, value) => entryAt level fuel key value)).map
          Value.ofPairs
    | _ => .fail level .badScalar

/-- An entry of a mapping on a level. -/
def entryAt (level : Nat) (fuel : Nat) (key value : Node) : Leveled (Value × Value) :=
  match fuel with
  | 0 => .ok (.null, .null)
  | fuel + 1 =>
    let keyValue : Leveled Value :=
      if (key.kind?.map Kind.isCollection).getD false then .fail level .badKey
      else valueAt level fuel key.asKey
    keyValue.both (valueAt level fuel value)

/-- The pairs of a list of mappings with one entry each, on a level. -/
def pairsAt (level : Nat) (fuel : Nat) (node : Node) : Leveled (List Value) :=
  match fuel with
  | 0 => .ok []
  | fuel + 1 =>
    match node with
    | sequence _ items =>
      .all (items.map fun
        | mapping _ [(key, value)] =>
          ((valueAt level fuel key).both (valueAt level fuel value)).map fun (first, second) =>
            .pair first second
        | _ => .fail level .badScalar)
    | _ => .fail level .badScalar

end

/-- The value of a node. -/
def toValue (node : Node) : Except LoadError Value :=
  (valueAt 0 (3 * node.height + 3) node).mapError (·.2)

end Node

/-- The value of a text; that of an empty one is null. -/
def load (text : List Char) : Except LoadError Value :=
  match document? text with
  | .error error => .error (.malformed error)
  | .ok none => .ok .null
  | .ok (some node) => node.toValue

end ScriptAdvisor.Yaml
