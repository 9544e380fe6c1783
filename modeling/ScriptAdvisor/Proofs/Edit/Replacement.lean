import Mathlib.Data.List.Perm.Basic
import Mathlib.Data.Nat.Basic
import Mathlib.Order.Basic

/-! # Replacing stretches of a text

What it means to replace several stretches of a text at once, said place by place and without an
order among the replacements: where a stretch starts its new text is put, and the characters inside
a stretch are left out. Every other character is copied.

* `Replacement` is a stretch with its new text, `Replacement.carryOut` the text after replacements.
* `carryOut_perm`: the order in which replacements are listed does not matter.
* `carryOut_cons`: a replacement in front of all others acts on the text after the others. -/

namespace ScriptAdvisor

/-- A stretch of a text, by the number of characters before its start and before its end, and the
text that takes its place. -/
structure Replacement where
  /-- The number of characters before the stretch. -/
  start : Nat
  /-- The number of characters before the end of the stretch. -/
  stop : Nat
  /-- The text that takes its place. -/
  newText : List Char
  deriving DecidableEq, Repr, Inhabited

namespace Replacement

/-- The new text at a place: that of the replacements that start there. -/
def newTextAt (replacements : List Replacement) (place : Nat) : List Char :=
  (replacements.filter fun replacement => replacement.start == place).flatMap (·.newText)

/-- Whether the character behind a place is in a stretch. -/
def covers (replacements : List Replacement) (place : Nat) : Bool :=
  replacements.any fun replacement => replacement.start ≤ place && place < replacement.stop

/-- The rest of a text from a place on after replacements: at every place the new text, then the
character behind the place unless it is in a stretch. -/
def carryOut (replacements : List Replacement) (place : Nat) : List Char → List Char
  | [] => newTextAt replacements place
  | c :: rest =>
    newTextAt replacements place ++ (if covers replacements place then [] else [c])
      ++ carryOut replacements (place + 1) rest

variable {replacements : List Replacement} {place : Nat}

/-! ## Places without replacements -/

theorem newTextAt_eq_nil (h : ∀ r ∈ replacements, r.start ≠ place) :
    newTextAt replacements place = [] := by
  rw [newTextAt, List.filter_eq_nil_iff.mpr (fun r hr => by simpa using h r hr)]
  rfl

theorem newTextAt_cons_self (r : Replacement) (h : ∀ s ∈ replacements, s.start ≠ r.start) :
    newTextAt (r :: replacements) r.start = r.newText := by
  rw [newTextAt, List.filter_cons_of_pos (by simp), List.flatMap_cons]
  exact (congrArg (r.newText ++ ·) (newTextAt_eq_nil h)).trans (List.append_nil _)

theorem newTextAt_cons_of_ne {r : Replacement} (h : r.start ≠ place) :
    newTextAt (r :: replacements) place = newTextAt replacements place := by
  rw [newTextAt, newTextAt, List.filter_cons_of_neg (by simpa using h)]

theorem covers_eq_false (h : ∀ r ∈ replacements, place < r.start) :
    covers replacements place = false := by
  rw [covers, List.any_eq_false]
  intro r hr
  have := h r hr
  simp only [Bool.and_eq_true, decide_eq_true_eq]
  omega

theorem covers_cons (r : Replacement) :
    covers (r :: replacements) place
      = ((r.start ≤ place && place < r.stop) || covers replacements place) := rfl

@[simp] theorem carryOut_nil (place : Nat) (text : List Char) : carryOut [] place text = text := by
  induction text generalizing place with
  | nil => rfl
  | cons c text ih => rw [carryOut, ih]; rfl

/-- Before the first stretch a text is copied. -/
theorem carryOut_append_of_le {a : List Char} (h : ∀ r ∈ replacements, place + a.length ≤ r.start)
    (b : List Char) :
    carryOut replacements place (a ++ b) = a ++ carryOut replacements (place + a.length) b := by
  induction a generalizing place with
  | nil => rfl
  | cons c a ih =>
      have hlt : ∀ r ∈ replacements, place < r.start := fun r hr => by
        have := h r hr
        rw [List.length_cons] at this
        omega
      have hnext : ∀ r ∈ replacements, place + 1 + a.length ≤ r.start := fun r hr => by
        have := h r hr
        rw [List.length_cons] at this
        omega
      rw [List.cons_append, carryOut, newTextAt_eq_nil (fun r hr => (hlt r hr).ne'),
        covers_eq_false hlt, ih hnext, List.length_cons]
      rw [show place + (a.length + 1) = place + 1 + a.length by omega]
      rfl

/-! ## The first of several replacements -/

/-- Behind its end a replacement has no effect. -/
theorem carryOut_cons_of_stop_le {r : Replacement} (hstart : r.start < place)
    (hstop : r.stop ≤ place) (text : List Char) :
    carryOut (r :: replacements) place text = carryOut replacements place text := by
  induction text generalizing place with
  | nil => rw [carryOut, carryOut, newTextAt_cons_of_ne hstart.ne]
  | cons c text ih =>
      have hcovers : covers (r :: replacements) place = covers replacements place := by
        rw [covers_cons, decide_eq_false (by omega : ¬ place < r.stop), Bool.and_false,
          Bool.false_or]
      rw [carryOut, carryOut, newTextAt_cons_of_ne hstart.ne, hcovers,
        ih (by omega) (by omega)]

/-- Behind its start a replacement leaves out the rest of its stretch. -/
theorem carryOut_cons_inside {r : Replacement} {b : List Char} (hstart : r.start < place)
    (hstop : r.stop = place + b.length) (h : ∀ s ∈ replacements, r.stop ≤ s.start) (c : List Char) :
    carryOut (r :: replacements) place (b ++ c) = carryOut replacements r.stop c := by
  induction b generalizing place with
  | nil =>
      rw [List.length_nil, Nat.add_zero] at hstop
      rw [List.nil_append, carryOut_cons_of_stop_le hstart hstop.le, hstop]
  | cons x b ih =>
      rw [List.length_cons] at hstop
      have hnew : newTextAt (r :: replacements) place = [] := by
        rw [newTextAt_cons_of_ne hstart.ne]
        exact newTextAt_eq_nil fun s hs => by have := h s hs; omega
      have hcovers : covers (r :: replacements) place = true := by
        rw [covers_cons, decide_eq_true hstart.le, decide_eq_true (by omega : place < r.stop)]
        rfl
      rw [List.cons_append, carryOut, hnew, hcovers, if_pos rfl]
      exact ih (by omega) (by omega)

/-- From its start on a replacement in front of the others puts its new text in place of its
stretch. -/
theorem carryOut_cons_start {r : Replacement} {b : List Char} (hstop : r.stop = r.start + b.length)
    (hstarts : ∀ s ∈ replacements, r.start < s.start) (h : ∀ s ∈ replacements, r.stop ≤ s.start)
    (c : List Char) :
    carryOut (r :: replacements) r.start (b ++ c)
      = r.newText ++ carryOut replacements r.stop c := by
  have hnew : newTextAt (r :: replacements) r.start = r.newText :=
    newTextAt_cons_self r fun s hs => (hstarts s hs).ne'
  have hnone : newTextAt replacements r.start = [] :=
    newTextAt_eq_nil fun s hs => (hstarts s hs).ne'
  cases b with
  | nil =>
      -- an insertion: the start is the end, and the others come behind it
      rw [List.length_nil, Nat.add_zero] at hstop
      rw [List.nil_append, hstop]
      cases c with
      | nil => rw [carryOut, carryOut, hnew, hnone, List.append_nil]
      | cons x c =>
          have hcovers : covers (r :: replacements) r.start = covers replacements r.start := by
            rw [covers_cons, decide_eq_false (by omega : ¬ r.start < r.stop), Bool.and_false,
              Bool.false_or]
          rw [carryOut, carryOut, hnew, hnone, hcovers,
            carryOut_cons_of_stop_le (by omega) (by omega), List.nil_append, List.append_assoc]
  | cons x b =>
      have hcovers : covers (r :: replacements) r.start = true := by
        rw [List.length_cons] at hstop
        rw [covers_cons, decide_eq_true le_rfl, decide_eq_true (by omega : r.start < r.stop)]
        rfl
      rw [List.length_cons] at hstop
      rw [List.cons_append, carryOut, hnew, hcovers, if_pos rfl, List.append_nil,
        carryOut_cons_inside (by omega) (by omega) h]

/-- A replacement in front of all others. Its stretch is `b`, between `a` and `c`. -/
theorem carryOut_cons {r : Replacement} {a b : List Char} (hstart : r.start = a.length)
    (hstop : r.stop = (a ++ b).length) (hstarts : ∀ s ∈ replacements, r.start < s.start)
    (h : ∀ s ∈ replacements, r.stop ≤ s.start) (c : List Char) :
    carryOut (r :: replacements) 0 (a ++ b ++ c)
      = a ++ r.newText ++ carryOut replacements (a ++ b).length c := by
  have hle : ∀ s ∈ r :: replacements, 0 + a.length ≤ s.start := by
    intro s hs
    rcases List.mem_cons.mp hs with rfl | hs
    · omega
    · have := hstarts s hs
      omega
  rw [List.append_assoc, carryOut_append_of_le hle, Nat.zero_add, ← hstart,
    carryOut_cons_start (by rw [hstop, hstart, List.length_append]) hstarts h, hstop,
    List.append_assoc]

/-! ## The order of the list -/

/-- Replacements with different starts can be listed in any order. -/
theorem carryOut_perm {replacements' : List Replacement} (hperm : replacements.Perm replacements')
    (hdistinct : replacements.Pairwise fun r s => r.start ≠ s.start) (place : Nat)
    (text : List Char) :
    carryOut replacements place text = carryOut replacements' place text := by
  have hnew : ∀ p, newTextAt replacements p = newTextAt replacements' p := by
    intro p
    have hstarting : replacements.filter (fun r => r.start == p)
        = replacements'.filter fun r => r.start == p := by
      -- at most one replacement starts at a place, and one item has only one order
      refine (hperm.filter _).eq_of_pairwise (fun r s hr hs hne _ => ?_) (hdistinct.filter _)
        ((hperm.pairwise hdistinct Ne.symm).filter _)
      rw [List.mem_filter, beq_iff_eq] at hr hs
      exact absurd (hr.2.trans hs.2.symm) hne
    rw [newTextAt, newTextAt, hstarting]
  have hcovers : ∀ p, covers replacements p = covers replacements' p := fun p => hperm.any_eq
  induction text generalizing place with
  | nil => rw [carryOut, carryOut, hnew]
  | cons c text ih => rw [carryOut, carryOut, hnew, hcovers, ih]

end Replacement

end ScriptAdvisor
