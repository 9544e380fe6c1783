import Mathlib.Data.Nat.Basic
import Mathlib.Order.Basic
import Mathlib.Tactic.Conv
import ScriptAdvisor.Diff.Unified

/-! # What matching finds

The search for shared stretches keeps, for every line of the first sequence, how long a stretch ends
there and at each line of the second. What it finds is shared, and the stretches come in order, so
the changes between them lead from the start of both sequences to their ends.

* `Block.IsShared` says that a block is a stretch of both sequences; `isShared_longest` that the
  longest one is.
* `Matches` says that blocks come in order between two pairs of places; `matches_blocks`.
* `Leads` says that changes lead from one pair of places to another; `leads_changes`. -/

namespace ScriptAdvisor.Diff

/-! ## Stretches of a sequence -/

section Slice

variable {lines : List String} {i j k : Nat}

@[simp] theorem slice_self (lines : List String) (i : Nat) : slice lines i i = [] :=
  List.drop_eq_nil_of_le (List.length_take_le _ _)

@[simp] theorem slice_length (lines : List String) : slice lines 0 lines.length = lines := by
  rw [slice, List.take_length, List.drop_zero]

theorem length_slice (h : j ≤ lines.length) : (slice lines i j).length = j - i := by
  rw [slice, List.length_drop, List.length_take, Nat.min_eq_left h]

theorem slice_add (lines : List String) (i n : Nat) :
    slice lines i (i + n) = (lines.drop i).take n := by
  rw [slice, List.drop_take, Nat.add_sub_cancel_left]

theorem slice_append_slice (h : i ≤ j) (h' : j ≤ k) :
    slice lines i j ++ slice lines j k = slice lines i k := by
  obtain ⟨m, rfl⟩ := Nat.exists_eq_add_of_le h
  obtain ⟨n, rfl⟩ := Nat.exists_eq_add_of_le h'
  rw [slice_add, slice_add, Nat.add_assoc, slice_add, ← List.drop_drop]
  exact List.take_add.symm

theorem drop_slice (lines : List String) (i j n : Nat) :
    (slice lines i j).drop n = slice lines (i + n) j := by
  rw [slice, slice, List.drop_drop]

theorem take_slice {n : Nat} (h : i + n ≤ j) :
    (slice lines i j).take n = slice lines i (i + n) := by
  rw [slice_add, slice, List.drop_take, List.take_take, Nat.min_eq_left (by omega)]

/-- A stretch of a stretch. -/
theorem slice_slice {m n : Nat} (h : i + n ≤ j) :
    slice (slice lines i j) m n = slice lines (i + m) (i + n) := by
  rw [slice, take_slice h, drop_slice]

end Slice

/-! ## What two sequences share from their start -/

section SharedStart

variable {first second : List String}

theorem sharedStart_cons (a b : String) (first second : List String) :
    sharedStart (a :: first) (b :: second) = if a == b then sharedStart first second + 1 else 0 :=
  rfl

@[simp] theorem sharedStart_nil_left (second : List String) : sharedStart [] second = 0 := by
  cases second <;> rfl

@[simp] theorem sharedStart_nil_right (first : List String) : sharedStart first [] = 0 := by
  cases first <;> rfl

theorem sharedStart_le_left (first second : List String) :
    sharedStart first second ≤ first.length := by
  fun_induction sharedStart first second with
  | case1 a first b second heq ih =>
      rw [List.length_cons]
      exact Nat.succ_le_succ ih
  | case2 => exact Nat.zero_le _
  | case3 => exact Nat.zero_le _

theorem sharedStart_comm (first second : List String) :
    sharedStart first second = sharedStart second first := by
  induction first generalizing second with
  | nil => simp
  | cons a first ih =>
      cases second with
      | nil => rfl
      | cons b second => rw [sharedStart_cons, sharedStart_cons, ih, BEq.comm]

theorem sharedStart_le_right (first second : List String) :
    sharedStart first second ≤ second.length := by
  rw [sharedStart_comm]
  exact sharedStart_le_left _ _

@[simp] theorem sharedStart_self (lines : List String) :
    sharedStart lines lines = lines.length := by
  induction lines with
  | nil => rfl
  | cons a lines ih => rw [sharedStart_cons, if_pos (beq_self_eq_true a), ih, List.length_cons]

/-- What is shared is the same in both. -/
theorem take_eq_take_of_le {n : Nat} (h : n ≤ sharedStart first second) :
    first.take n = second.take n := by
  induction first generalizing second n with
  | nil =>
      rw [sharedStart_nil_left, Nat.le_zero] at h
      rw [h, List.take_zero, List.take_zero]
  | cons a first ih =>
      cases n with
      | zero => rw [List.take_zero, List.take_zero]
      | succ n =>
          cases second with
          | nil => exact absurd h (by simp)
          | cons b second =>
              rw [sharedStart_cons] at h
              split at h
              · next heq =>
                rw [List.take_succ_cons, List.take_succ_cons, eq_of_beq heq,
                  ih (Nat.le_of_succ_le_succ h)]
              · exact absurd h (Nat.not_succ_le_zero n)

end SharedStart

/-! ## Shared stretches -/

/-- A block is a stretch of both sequences. -/
structure Block.IsShared (first second : List String) (block : Block) : Prop where
  /-- It is a stretch of the first sequence. -/
  left_le : block.left + block.size ≤ first.length
  /-- It is a stretch of the second sequence. -/
  right_le : block.right + block.size ≤ second.length
  /-- The two are the same. -/
  slice_eq : slice first block.left (block.left + block.size)
    = slice second block.right (block.right + block.size)

section Shared

variable {first second : List String}

theorem isShared_empty (first second : List String) : (⟨0, 0, 0⟩ : Block).IsShared first second :=
  ⟨Nat.zero_le _, Nat.zero_le _, by simp⟩

/-- What two parts share at their ends is shared by the wholes. -/
theorem isShared_of_le_sharedStart_reverse {front front' : List String} {n : Nat}
    (h : n ≤ sharedStart front front') (back back' : List String) :
    (⟨front.length - n, front'.length - n, n⟩ : Block).IsShared
      (front.reverse ++ back) (front'.reverse ++ back') := by
  have hslice (front back : List String) (hle : n ≤ front.length) :
      slice (front.reverse ++ back) (front.length - n) (front.length - n + n)
        = (front.take n).reverse := by
    rw [Nat.sub_add_cancel hle, slice, List.take_left' List.length_reverse, List.drop_reverse,
      Nat.sub_sub_self hle]
  have hle := h.trans (sharedStart_le_left _ _)
  have hle' := h.trans (sharedStart_le_right _ _)
  constructor
  · simp only [List.length_append, List.length_reverse]
    omega
  · simp only [List.length_append, List.length_reverse]
    omega
  · show slice _ (front.length - n) (front.length - n + n)
      = slice _ (front'.length - n) (front'.length - n + n)
    rw [hslice front back hle, hslice front' back' hle', take_eq_take_of_le h]

/-- Two shared stretches that follow each other without a gap are one. -/
theorem isShared_append {left right size more : Nat}
    (h : (⟨left, right, size⟩ : Block).IsShared first second)
    (hmore : (⟨left + size, right + size, more⟩ : Block).IsShared first second) :
    (⟨left, right, size + more⟩ : Block).IsShared first second := by
  constructor
  · show left + (size + more) ≤ first.length
    rw [← Nat.add_assoc]
    exact hmore.left_le
  · show right + (size + more) ≤ second.length
    rw [← Nat.add_assoc]
    exact hmore.right_le
  · show slice first left (left + (size + more)) = slice second right (right + (size + more))
    rw [← Nat.add_assoc, ← Nat.add_assoc,
      ← slice_append_slice (Nat.le_add_right left size) (Nat.le_add_right _ more),
      ← slice_append_slice (Nat.le_add_right right size) (Nat.le_add_right _ more)]
    exact congrArg₂ (· ++ ·) h.slice_eq hmore.slice_eq

theorem isShared_of_le_sharedStart_drop {left right n : Nat} (hleft : left ≤ first.length)
    (hright : right ≤ second.length) (h : n ≤ sharedStart (first.drop left) (second.drop right)) :
    (⟨left, right, n⟩ : Block).IsShared first second := by
  have hle := h.trans (sharedStart_le_left _ _)
  have hle' := h.trans (sharedStart_le_right _ _)
  rw [List.length_drop] at hle hle'
  refine ⟨?_, ?_, ?_⟩
  · show left + n ≤ first.length
    omega
  · show right + n ≤ second.length
    omega
  · show slice first left (left + n) = slice second right (right + n)
    rw [slice_add, slice_add, take_eq_take_of_le h]

/-- A shared stretch made longer is shared. -/
theorem isShared_extend {block : Block} (h : block.IsShared first second) :
    (extend first second block).IsShared first second := by
  obtain ⟨left, right, size⟩ := block
  have hleft : left ≤ first.length := (Nat.le_add_right _ _).trans h.left_le
  have hright : right ≤ second.length := (Nat.le_add_right _ _).trans h.right_le
  let back := sharedStart (first.take left).reverse (second.take right).reverse
  have hback : back ≤ left ∧ back ≤ right := by
    have hle := sharedStart_le_left (first.take left).reverse (second.take right).reverse
    have hle' := sharedStart_le_right (first.take left).reverse (second.take right).reverse
    rw [List.length_reverse, List.length_take] at hle hle'
    exact ⟨by omega, by omega⟩
  have hbefore : (⟨left - back, right - back, back⟩ : Block).IsShared first second := by
    have h := isShared_of_le_sharedStart_reverse (le_refl back) (first.drop left)
      (second.drop right)
    simp only [List.reverse_reverse, List.take_append_drop, List.length_reverse,
      List.length_take, Nat.min_eq_left hleft, Nat.min_eq_left hright] at h
    exact h
  have hmiddle : (⟨left - back, right - back, back + size⟩ : Block).IsShared first second := by
    refine isShared_append hbefore ?_
    rwa [Nat.sub_add_cancel hback.1, Nat.sub_add_cancel hback.2]
  let forth := sharedStart (first.drop (left + size)) (second.drop (right + size))
  have hbehind : (⟨left + size, right + size, forth⟩ : Block).IsShared first second :=
    isShared_of_le_sharedStart_drop h.left_le h.right_le (le_refl _)
  have hall : (⟨left - back, right - back, back + size + forth⟩ : Block).IsShared first second := by
    refine isShared_append hmiddle ?_
    rw [← Nat.add_assoc, ← Nat.add_assoc, Nat.sub_add_cancel hback.1, Nat.sub_add_cancel hback.2]
    exact hbehind
  rw [Nat.add_comm back size] at hall
  exact hall

end Shared

/-! ## The rows of the search -/

/-- A line of the second sequence, marked if it is popular. -/
def mark (isPopular : String → Bool) (text : String) : Target := ⟨text, isPopular text⟩

/-- How many lines two sequences share from their start before any of them is popular. -/
def sharedRun (isPopular : String → Bool) (first second : List String) : Nat :=
  sharedStart (first.takeWhile (!isPopular ·)) (second.takeWhile (!isPopular ·))

/-- For every line of `window`, the length of the shared stretch without popular lines that ends
there and at the end of the other sequence. `back` is this other sequence from its end, and `seen`
what comes before the window, from its end. -/
def rowOf (isPopular : String → Bool) (back : List String) :
    (seen window : List String) → List Nat
  | _, [] => []
  | seen, text :: window =>
    sharedRun isPopular back (text :: seen) :: rowOf isPopular back (text :: seen) window

section Rows

variable {isPopular : String → Bool} {first second : List String}

theorem sharedRun_cons (line text : String) (back seen : List String) :
    sharedRun isPopular (line :: back) (text :: seen)
      = if text == line && !isPopular text then sharedRun isPopular back seen + 1 else 0 := by
  rw [sharedRun, sharedRun]
  cases htext : isPopular text with
  | true =>
      rw [List.takeWhile_cons_of_neg (a := text) (by simp [htext]), sharedStart_nil_right]
      simp
  | false =>
      rw [List.takeWhile_cons_of_pos (a := text) (by simp [htext])]
      by_cases heq : text = line
      · subst heq
        rw [List.takeWhile_cons_of_pos (by simp [htext]), sharedStart_cons, if_pos (by simp),
          if_pos (by simp)]
      · rw [if_neg (by simp [heq])]
        cases hline : isPopular line with
        | true => rw [List.takeWhile_cons_of_neg (by simp [hline]), sharedStart_nil_left]
        | false =>
            rw [List.takeWhile_cons_of_pos (by simp [hline]), sharedStart_cons,
              if_neg (by simpa using Ne.symm heq)]

theorem sharedRun_le_sharedStart (first second : List String) :
    sharedRun isPopular first second ≤ sharedStart first second := by
  induction first generalizing second with
  | nil => simp [sharedRun]
  | cons line first ih =>
      cases second with
      | nil => simp [sharedRun]
      | cons text second =>
          rw [sharedRun_cons, sharedStart_cons, BEq.comm]
          cases line == text with
          | false => simp
          | true =>
              cases isPopular text with
              | true => simp
              | false => simpa using ih second

/-- The next row is that of the sequence with one line more. -/
theorem nextRow_rowOf (line : String) (back seen window : List String) :
    List.zipWith (fun target length =>
        if target.text == line && !target.isPopular then length + 1 else 0)
      (window.map (mark isPopular))
      (sharedRun isPopular back seen :: rowOf isPopular back seen window)
    = rowOf isPopular (line :: back) seen window := by
  induction window generalizing seen with
  | nil => rfl
  | cons text window ih =>
      rw [List.map_cons, rowOf, rowOf, List.zipWith_cons_cons, ih, sharedRun_cons]
      rfl

/-- Before the first line nothing is shared. -/
theorem rowOf_nil (seen window : List String) :
    rowOf isPopular [] seen window = List.replicate window.length 0 := by
  induction window generalizing seen with
  | nil => rfl
  | cons text window ih =>
      rw [rowOf, ih, sharedRun, List.takeWhile_nil, sharedStart_nil_left]
      rfl

theorem isShared_betterInRow {back rest : List String} (seen window : List String) {best : Block}
    (hbest : best.IsShared (back.reverse ++ rest) (seen.reverse ++ window)) {i : Nat}
    (hi : i + 1 = back.length) :
    (betterInRow i seen.length (rowOf isPopular back seen window) best).IsShared
      (back.reverse ++ rest) (seen.reverse ++ window) := by
  induction window generalizing seen best with
  | nil => exact hbest
  | cons text window ih =>
      have hsecond : seen.reverse ++ text :: window = (text :: seen).reverse ++ window := by simp
      rw [hsecond] at hbest ⊢
      rw [rowOf, betterInRow]
      refine ih _ ?_
      split
      · rw [hi]
        exact isShared_of_le_sharedStart_reverse (sharedRun_le_sharedStart _ _) _ _
      · exact hbest

/-- A step of the search: one more line of the first sequence. -/
theorem bestFrom_cons (window : List String) (line : String) (back rest : List String)
    (best : Block) :
    bestFrom (window.map (mark isPopular)) back.length (line :: rest)
        (rowOf isPopular back [] window) best
      = bestFrom (window.map (mark isPopular)) (line :: back).length rest
          (rowOf isPopular (line :: back) [] window)
          (betterInRow back.length 0 (rowOf isPopular (line :: back) [] window) best) := by
  have hrow : nextRow line (window.map (mark isPopular)) (rowOf isPopular back [] window)
      = rowOf isPopular (line :: back) [] window := by
    rw [← nextRow_rowOf line back [] window, nextRow, sharedRun, List.takeWhile_nil,
      sharedStart_nil_right]
  rw [bestFrom, hrow, List.length_cons]

theorem isShared_bestFrom (back : List String) {rest : List String} {best : Block}
    (hbest : best.IsShared (back.reverse ++ rest) second) :
    (bestFrom (second.map (mark isPopular)) back.length rest
      (rowOf isPopular back [] second) best).IsShared (back.reverse ++ rest) second := by
  induction rest generalizing back best with
  | nil => exact hbest
  | cons line rest ih =>
      have hfirst : back.reverse ++ line :: rest = (line :: back).reverse ++ rest := by simp
      rw [hfirst] at hbest ⊢
      rw [bestFrom_cons]
      exact ih _ (isShared_betterInRow [] second hbest rfl)

/-- The longest stretch that is found is shared. -/
theorem isShared_longest (isPopular : String → Bool) (first second : List String) :
    (longest first (second.map (mark isPopular))).IsShared first second := by
  have htexts : (second.map (mark isPopular)).map (·.text) = second := by
    rw [List.map_map]
    exact List.map_id second
  -- the row to start from is that of no line
  rw [longest, htexts, List.length_map, ← rowOf_nil [] second]
  exact isShared_extend (isShared_bestFrom [] (isShared_empty first second))

end Rows

/-! ## Stretches in order -/

/-- Shared stretches that come in order, from the places `i` and `j` on, before the places `k` and
`l`. -/
inductive Matches (first second : List String) :
    (i j : Nat) → List Block → (k l : Nat) → Prop where
  /-- There is none. -/
  | nil {i j k l : Nat} (hleft : i ≤ k) (hright : j ≤ l) : Matches first second i j [] k l
  /-- One, and others behind it. -/
  | cons {i j k l : Nat} {block : Block} {rest : List Block} (hleft : i ≤ block.left)
      (hright : j ≤ block.right) (hshared : block.IsShared first second)
      (hrest : Matches first second (block.left + block.size) (block.right + block.size) rest k l) :
      Matches first second i j (block :: rest) k l

section Blocks

variable {first second : List String} {i j k l m n : Nat} {front back : List Block}

theorem Matches.mono (h : Matches first second k l back m n) (hleft : i ≤ k) (hright : j ≤ l) :
    Matches first second i j back m n := by
  cases h with
  | nil hleft' hright' => exact .nil (hleft.trans hleft') (hright.trans hright')
  | cons hleft' hright' hshared hrest =>
      exact .cons (hleft.trans hleft') (hright.trans hright') hshared hrest

theorem Matches.append (hfront : Matches first second i j front k l)
    (hback : Matches first second k l back m n) : Matches first second i j (front ++ back) m n := by
  induction hfront with
  | nil hleft hright => exact hback.mono hleft hright
  | cons hleft hright hshared _ ih => exact .cons hleft hright hshared (ih hback)

/-- What parts of two sequences share is shared by the wholes. -/
theorem Block.IsShared.of_slice {left right leftStop rightStop : Nat} {block : Block}
    (hleft : left ≤ leftStop) (hright : right ≤ rightStop) (hleftStop : leftStop ≤ first.length)
    (hrightStop : rightStop ≤ second.length)
    (h : block.IsShared (slice first left leftStop) (slice second right rightStop)) :
    (⟨left + block.left, right + block.right, block.size⟩ : Block).IsShared first second := by
  obtain ⟨hleftLe, hrightLe, heq⟩ := h
  rw [length_slice hleftStop] at hleftLe
  rw [length_slice hrightStop] at hrightLe
  rw [slice_slice (by omega), slice_slice (by omega)] at heq
  refine ⟨?_, ?_, ?_⟩
  · show left + block.left + block.size ≤ first.length
    omega
  · show right + block.right + block.size ≤ second.length
    omega
  · show slice first (left + block.left) (left + block.left + block.size)
      = slice second (right + block.right) (right + block.right + block.size)
    rw [Nat.add_assoc, Nat.add_assoc]
    exact heq

/-- The longest stretch is taken first, then what stands before it and behind it. -/
theorem blocksFrom_eq (left right : Nat) (first : List String) (second : List Target) :
    blocksFrom left right first second
      = if 0 < (longest first second).size
            ∧ (longest first second).left + (longest first second).size ≤ first.length
            ∧ (longest first second).right + (longest first second).size ≤ second.length then
          blocksFrom left right (first.take (longest first second).left)
              (second.take (longest first second).right)
            ++ ⟨left + (longest first second).left, right + (longest first second).right,
                (longest first second).size⟩ ::
              blocksFrom (left + (longest first second).left + (longest first second).size)
                (right + (longest first second).right + (longest first second).size)
                (first.drop ((longest first second).left + (longest first second).size))
                (second.drop ((longest first second).right + (longest first second).size))
        else [] := by
  conv_lhs => rw [blocksFrom]

/-- The stretches that are found in parts of two sequences come in order within these parts. -/
theorem matches_blocksFrom {isPopular : String → Bool} {left right leftStop rightStop : Nat}
    {part : List String} {targets : List Target} (hleft : left ≤ leftStop)
    (hright : right ≤ rightStop) (hleftStop : leftStop ≤ first.length)
    (hrightStop : rightStop ≤ second.length) (hpart : part = slice first left leftStop)
    (htargets : targets = (slice second right rightStop).map (mark isPopular)) :
    Matches first second left right (blocksFrom left right part targets) leftStop rightStop := by
  -- what stands before the longest stretch and behind it is shorter by its lines
  induction hlength : part.length + targets.length using Nat.strong_induction_on
    generalizing left right leftStop rightStop part targets with
  | _ length ih =>
      subst hlength
      have hshared := isShared_longest isPopular part (slice second right rightStop)
      rw [blocksFrom_eq]
      rw [← htargets] at hshared
      generalize longest part targets = block at hshared ⊢
      split
      · next hsize =>
        obtain ⟨hpos, hl, hr⟩ := hsize
        have hl' := hl
        have hr' := hr
        rw [hpart, length_slice hleftStop] at hl'
        rw [htargets, List.length_map, length_slice hrightStop] at hr'
        rw [hpart] at hshared
        have hbefore : Matches first second left right
            (blocksFrom left right (part.take block.left) (targets.take block.right))
            (left + block.left) (right + block.right) :=
          ih _ (by simp only [List.length_take]; omega) (by omega) (by omega) (by omega) (by omega)
            (by rw [hpart, take_slice (by omega)])
            (by rw [htargets, ← List.map_take, take_slice (by omega)]) rfl
        have hbehind : Matches first second (left + block.left + block.size)
            (right + block.right + block.size)
            (blocksFrom (left + block.left + block.size) (right + block.right + block.size)
              (part.drop (block.left + block.size)) (targets.drop (block.right + block.size)))
            leftStop rightStop :=
          ih _ (by simp only [List.length_drop]; omega) (by omega) (by omega) hleftStop hrightStop
            (by rw [hpart, drop_slice, Nat.add_assoc])
            (by rw [htargets, ← List.map_drop, drop_slice, Nat.add_assoc]) rfl
        exact hbefore.append (.cons le_rfl le_rfl
          (hshared.of_slice hleft hright hleftStop hrightStop) hbehind)
      · exact .nil hleft hright

/-- Making stretches without a gap into one keeps them in order. -/
theorem Matches.joinAdjacent {block : Block} {rest : List Block}
    (h : Matches first second i j (block :: rest) k l) :
    Matches first second i j (joinAdjacent block rest) k l := by
  fun_induction Diff.joinAdjacent block rest generalizing i j with
  | case1 block hsize =>
      cases h with
      | cons hleft hright _ hrest => exact hrest.mono (by omega) (by omega)
  | case2 block hsize => exact h
  | case3 block next rest hadjacent ih =>
      -- the two become one, which is shared since both are and nothing is between them
      cases h with
      | cons hleft hright hshared hrest =>
          cases hrest with
          | cons hleft' hright' hshared' hrest' =>
              refine ih (.cons hleft hright ?_ ?_)
              · refine isShared_append hshared ?_
                rw [hadjacent.1, hadjacent.2]
                exact hshared'
              · show Matches first second (block.left + (block.size + next.size))
                  (block.right + (block.size + next.size)) rest k l
                rw [← Nat.add_assoc, ← Nat.add_assoc, hadjacent.1, hadjacent.2]
                exact hrest'
  | case4 block next rest hgap hsize ih =>
      cases h with
      | cons hleft hright _ hrest => exact ih (hrest.mono (by omega) (by omega))
  | case5 block next rest hgap hsize ih =>
      cases h with
      | cons hleft hright hshared hrest => exact .cons hleft hright hshared (ih hrest)

/-- Whether a line is popular in a sequence. -/
def isPopularIn (lines : List String) (text : String) : Bool :=
  popularFrom ≤ lines.length && lines.length / 100 + 1 < lines.countP (· == text)

theorem targets_eq_map (lines : List String) :
    targets lines = lines.map (mark (isPopularIn lines)) := rfl

/-- The stretches that two sequences share come in order. -/
theorem matches_blocks (first second : List String) :
    Matches first second 0 0 (blocks first second) first.length second.length := by
  refine Matches.joinAdjacent (.cons le_rfl le_rfl (isShared_empty first second) ?_)
  have htargets : targets second
      = (slice second 0 second.length).map (mark (isPopularIn second)) := by
    rw [slice_length, targets_eq_map]
  exact matches_blocksFrom (Nat.zero_le _) (Nat.zero_le _) le_rfl le_rfl (slice_length first).symm
    htargets

end Blocks

end ScriptAdvisor.Diff
