/-! # Matching two sequences of lines

The longest stretch that two sequences share is taken first, then the parts before and behind it are
matched in the same way. In a long second sequence lines that occur often do not start a stretch,
but they may extend one.

* `Diff.Block` is a stretch that both sequences share.
* `Diff.longest` finds the longest one, `Diff.blocks` all of them in order.
* `Diff.Change` is a step from the first sequence to the second; `Diff.changes` lists them. -/

namespace ScriptAdvisor.Diff

/-- A stretch of lines that two sequences share. -/
structure Block where
  /-- Where it starts in the first sequence. -/
  left : Nat
  /-- Where it starts in the second sequence. -/
  right : Nat
  /-- How many lines it has. -/
  size : Nat
  deriving DecidableEq, Repr, Inhabited

/-- A line of the second sequence. -/
structure Target where
  /-- The text of the line. -/
  text : String
  /-- Whether it occurs so often that it does not start a stretch. -/
  isPopular : Bool
  deriving DecidableEq, Repr, Inhabited

/-- From this length on a sequence may have popular lines. -/
def popularFrom : Nat := 200

/-- The second sequence with its popular lines marked: in a sequence of at least 200 lines those
that make up more than about one hundredth. -/
def targets (lines : List String) : List Target :=
  let limit := lines.length / 100 + 1
  lines.map fun text =>
    ⟨text, popularFrom ≤ lines.length && limit < lines.countP (· == text)⟩

/-- For every line of the second sequence, the length of the shared stretch that ends there and at
`line`, given these lengths for the line above. -/
def nextRow (line : String) (window : List Target) (above : List Nat) : List Nat :=
  List.zipWith
    (fun target length => if target.text == line && !target.isPopular then length + 1 else 0)
    window (0 :: above)

/-- The better of `best` and the stretches that end at the line `i` of the first sequence: the
longer one, and of equals the first. -/
def betterInRow (i : Nat) : (j : Nat) → List Nat → Block → Block
  | _, [], best => best
  | j, length :: rest, best =>
    betterInRow i (j + 1) rest
      (if best.size < length then ⟨i + 1 - length, j + 1 - length, length⟩ else best)

/-- The best stretch among those that end at the lines of the first sequence from `i` on. -/
def bestFrom (window : List Target) :
    (i : Nat) → List String → (above : List Nat) → Block → Block
  | _, [], _, best => best
  | i, line :: rest, above, best =>
    let row := nextRow line window above
    bestFrom window (i + 1) rest row (betterInRow i 0 row best)

/-- How many lines two sequences share from their start. -/
def sharedStart : List String → List String → Nat
  | a :: as, b :: bs => if a == b then sharedStart as bs + 1 else 0
  | _, _ => 0

/-- A stretch made longer at both ends as far as the lines agree. -/
def extend (first second : List String) (block : Block) : Block :=
  let back :=
    sharedStart (first.take block.left).reverse (second.take block.right).reverse
  let forth :=
    sharedStart (first.drop (block.left + block.size)) (second.drop (block.right + block.size))
  ⟨block.left - back, block.right - back, block.size + back + forth⟩

/-- The longest stretch two sequences share. -/
def longest (first : List String) (second : List Target) : Block :=
  extend first (second.map (·.text))
    (bestFrom second 0 first (List.replicate second.length 0) ⟨0, 0, 0⟩)

/-- The stretches two sequences share, in order. `left` and `right` are the places of their first
lines in the whole. -/
def blocksFrom (left right : Nat) (first : List String) (second : List Target) : List Block :=
  match longest first second with
  | ⟨l, r, size⟩ =>
    if 0 < size ∧ l + size ≤ first.length ∧ r + size ≤ second.length then
      blocksFrom left right (first.take l) (second.take r)
        ++ ⟨left + l, right + r, size⟩ ::
          blocksFrom (left + l + size) (right + r + size)
            (first.drop (l + size)) (second.drop (r + size))
    else []
termination_by first.length + second.length
decreasing_by
  all_goals
    simp only [List.length_take, List.length_drop]
    omega

/-- Stretches that follow each other without a gap made into one. `block` is the one being built. -/
def joinAdjacent (block : Block) : List Block → List Block
  | [] => if block.size = 0 then [] else [block]
  | next :: rest =>
    if block.left + block.size = next.left ∧ block.right + block.size = next.right then
      joinAdjacent ⟨block.left, block.right, block.size + next.size⟩ rest
    else if block.size = 0 then joinAdjacent next rest
    else block :: joinAdjacent next rest

/-- The stretches two sequences share, none of which follows another without a gap. -/
def blocks (first second : List String) : List Block :=
  joinAdjacent ⟨0, 0, 0⟩ (blocksFrom 0 0 first (targets second))

/-! ### Changes -/

/-- What becomes of a stretch of the first sequence. -/
inductive ChangeKind where
  /-- It stays. -/
  | equal
  /-- Other lines take its place. -/
  | replace
  /-- It goes. -/
  | delete
  /-- Lines are put there. -/
  | insert
  deriving DecidableEq, Repr, Inhabited

/-- A stretch of the first sequence and the stretch of the second that takes its place. -/
structure Change where
  /-- What happens. -/
  kind : ChangeKind
  /-- The start in the first sequence. -/
  leftStart : Nat
  /-- The end in the first sequence. -/
  leftStop : Nat
  /-- The start in the second sequence. -/
  rightStart : Nat
  /-- The end in the second sequence. -/
  rightStop : Nat
  deriving DecidableEq, Repr, Inhabited

/-- The change between two shared stretches, if there is one. -/
def gap (i j left right : Nat) : List Change :=
  if i < left ∧ j < right then [⟨.replace, i, left, j, right⟩]
  else if i < left then [⟨.delete, i, left, j, right⟩]
  else if j < right then [⟨.insert, i, left, j, right⟩]
  else []

/-- The changes from the places `i` and `j` on, given the shared stretches and the lengths of the
two sequences. -/
def changesFrom (lefts rights : Nat) (i j : Nat) : List Block → List Change
  | [] => gap i j lefts rights
  | block :: rest =>
    let leftStop := block.left + block.size
    let rightStop := block.right + block.size
    gap i j block.left block.right
      ++ ⟨.equal, block.left, leftStop, block.right, rightStop⟩ ::
        changesFrom lefts rights leftStop rightStop rest

/-- The changes that turn the first sequence into the second. -/
def changes (first second : List String) : List Change :=
  changesFrom first.length second.length 0 0 (blocks first second)

end ScriptAdvisor.Diff
