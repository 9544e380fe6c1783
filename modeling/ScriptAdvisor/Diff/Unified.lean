import ScriptAdvisor.Diff.Matching

/-! # Unified diffs

The changes between two sequences of lines with three lines of context around them. Changes with few
lines between them share a hunk.

* `Diff.hunks` groups the changes.
* `Diff.unified` writes the diff: two lines that name the files, then the hunks. -/

namespace ScriptAdvisor.Diff

/-- How many unchanged lines are shown around a change. -/
def contextLines : Nat := 3

/-- The end of an unchanged stretch: its last lines only. -/
def keepEnd (change : Change) : Change :=
  { change with
    leftStart := max change.leftStart (change.leftStop - contextLines)
    rightStart := max change.rightStart (change.rightStop - contextLines) }

/-- The start of an unchanged stretch: its first lines only. -/
def keepStart (change : Change) : Change :=
  { change with
    leftStop := min change.leftStop (change.leftStart + contextLines)
    rightStop := min change.rightStop (change.rightStart + contextLines) }

/-- `f` applied to a change if it is an unchanged stretch. -/
def onEqual (f : Change → Change) (change : Change) : Change :=
  if change.kind = .equal then f change else change

/-- A list with `f` applied to its first item. -/
def mapFirst {α : Type _} (f : α → α) : List α → List α
  | [] => []
  | item :: rest => f item :: rest

/-- A list with `f` applied to its last item. -/
def mapLast {α : Type _} (f : α → α) : List α → List α
  | [] => []
  | [item] => [f item]
  | item :: rest => item :: mapLast f rest

/-- Changes with the unchanged stretches at both ends cut down to the context. -/
def trimEnds (changes : List Change) : List Change :=
  mapLast (onEqual keepStart) (mapFirst (onEqual keepEnd) changes)

/-- Whether a group of changes changes anything. -/
def isWorthShowing : List Change → Bool
  | [] => false
  | [change] => change.kind != .equal
  | _ => true

/-- Changes grouped into hunks: a long unchanged stretch ends one hunk and starts the next. `group`
is the hunk being built. -/
def groupFrom (group : List Change) : List Change → List (List Change)
  | [] => if isWorthShowing group then [group] else []
  | change :: rest =>
    if change.kind = .equal ∧ 2 * contextLines < change.leftStop - change.leftStart then
      (group ++ [keepStart change]) :: groupFrom [keepEnd change] rest
    else groupFrom (group ++ [change]) rest

/-- The hunks of the changes between two sequences. -/
def hunks (first second : List String) : List (List Change) :=
  groupFrom [] (trimEnds (changes first second))

/-- A range of lines: its first line and its length, which is left out if it is one. An empty range
is named by the line before it. -/
def rangeText (start stop : Nat) : String :=
  let length := stop - start
  if length = 1 then toString (start + 1)
  else if length = 0 then s!"{start},0"
  else s!"{start + 1},{length}"

/-- The lines of a sequence between two places. -/
def slice (lines : List String) (start stop : Nat) : List String := (lines.take stop).drop start

/-- The lines that show a change. -/
def changeLines (first second : List String) (change : Change) : List String :=
  let before := slice first change.leftStart change.leftStop
  let after := slice second change.rightStart change.rightStop
  match change.kind with
  | .equal => before.map (" " ++ ·)
  | .replace => before.map ("-" ++ ·) ++ after.map ("+" ++ ·)
  | .delete => before.map ("-" ++ ·)
  | .insert => after.map ("+" ++ ·)

/-- The line that heads a hunk. -/
def hunkHeader (hunk : List Change) : String :=
  match hunk.head?, hunk.getLast? with
  | some first, some last =>
    let left := rangeText first.leftStart last.leftStop
    let right := rangeText first.rightStart last.rightStop
    s!"@@ -{left} +{right} @@\n"
  | _, _ => ""

/-- The lines of a hunk. -/
def hunkLines (first second : List String) (hunk : List Change) : List String :=
  hunkHeader hunk :: hunk.flatMap (changeLines first second)

/-- The lines of the diff between two sequences; none if nothing changes. -/
def unifiedLines (firstName secondName : String) (first second : List String) : List String :=
  match hunks first second with
  | [] => []
  | hunks =>
    ("--- " ++ firstName ++ "\n") :: ("+++ " ++ secondName ++ "\n") ::
      hunks.flatMap (hunkLines first second)

/-- The diff between two sequences of lines, each of which brings its own line break. -/
def unified (firstName secondName : String) (first second : List String) : String :=
  String.join (unifiedLines firstName secondName first second)

end ScriptAdvisor.Diff
