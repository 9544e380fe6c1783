import ScriptAdvisor.Proofs.Diff.Changes

/-! # Hunks

Cutting the unchanged stretches down to the context and ending a hunk at the long ones leaves the
changes themselves alone: each is in one hunk, and inside a hunk they still follow each other
without a gap. So there is a hunk exactly if anything changes, and the numbers in its header count
its lines.

* `hunks_eq_nil_iff`: there is no hunk exactly if the sequences are the same.
* `isHunk_of_mem_hunks`: the changes of a hunk follow each other.
* `countP_isOld_hunk` and `countP_isNew_hunk` count the lines of a hunk, `hunkHeader_eq` is its
  header. -/

namespace ScriptAdvisor.Diff

variable {first second : List String} {i j k l m n : Nat}

/-! ## Less of what stays -/

section Trim

variable {change : Change} {changes : List Change}

/-- What stays has as many lines in both sequences. -/
theorem Change.IsSound.length_eq (h : change.IsSound first second) (hkind : change.kind = .equal) :
    change.leftStop - change.leftStart = change.rightStop - change.rightStart := by
  rw [← length_slice h.left_stop, ← length_slice h.right_stop, h.equal hkind]

theorem isSound_keepEnd (h : change.IsSound first second) (hkind : change.kind = .equal) :
    (keepEnd change).IsSound first second := by
  have hlength := h.length_eq hkind
  have hleft := h.left_le
  have hright := h.right_le
  -- the same number of lines is dropped on both sides
  let dropped := change.leftStop - change.leftStart - contextLines
  have hleftStart : (keepEnd change).leftStart = change.leftStart + dropped := by
    show max change.leftStart (change.leftStop - contextLines) = _
    omega
  have hrightStart : (keepEnd change).rightStart = change.rightStart + dropped := by
    show max change.rightStart (change.rightStop - contextLines) = _
    omega
  refine ⟨?_, h.left_stop, ?_, h.right_stop, fun _ => ?_, fun h => ?_, fun h => ?_⟩
  · show (keepEnd change).leftStart ≤ change.leftStop
    omega
  · show (keepEnd change).rightStart ≤ change.rightStop
    omega
  · show slice first (keepEnd change).leftStart change.leftStop
      = slice second (keepEnd change).rightStart change.rightStop
    rw [hleftStart, hrightStart, ← drop_slice, ← drop_slice, h.equal hkind]
  · exact absurd (hkind.symm.trans h) (by decide)
  · exact absurd (hkind.symm.trans h) (by decide)

theorem isSound_keepStart (h : change.IsSound first second) (hkind : change.kind = .equal) :
    (keepStart change).IsSound first second := by
  have hlength := h.length_eq hkind
  have hleft := h.left_le
  have hright := h.right_le
  have hleftEnd := h.left_stop
  have hrightEnd := h.right_stop
  -- the same number of lines is kept on both sides
  let kept := min (change.leftStop - change.leftStart) contextLines
  have hleftStop : (keepStart change).leftStop = change.leftStart + kept := by
    show min change.leftStop (change.leftStart + contextLines) = _
    omega
  have hrightStop : (keepStart change).rightStop = change.rightStart + kept := by
    show min change.rightStop (change.rightStart + contextLines) = _
    omega
  refine ⟨?_, ?_, ?_, ?_, fun _ => ?_, fun h => ?_, fun h => ?_⟩
  · show change.leftStart ≤ (keepStart change).leftStop
    omega
  · omega
  · show change.rightStart ≤ (keepStart change).rightStop
    omega
  · omega
  · show slice first change.leftStart (keepStart change).leftStop
      = slice second change.rightStart (keepStart change).rightStop
    rw [hleftStop, hrightStop, ← take_slice (j := change.leftStop) (by omega),
      ← take_slice (j := change.rightStop) (by omega), h.equal hkind]
  · exact absurd (hkind.symm.trans h) (by decide)
  · exact absurd (hkind.symm.trans h) (by decide)

/-- Cutting down a first stretch that stays moves the start only. -/
theorem Leads.mapFirst (h : Leads first second i j changes k l) :
    ∃ i' j', Leads first second i' j' (mapFirst (onEqual keepEnd) changes) k l := by
  cases h with
  | nil => exact ⟨i, j, .nil⟩
  | @cons _ _ _ _ change rest hleft hright hsound hrest =>
      rw [Diff.mapFirst, onEqual]
      split
      · next hkind => exact ⟨_, _, .cons rfl rfl (isSound_keepEnd hsound hkind) hrest⟩
      · exact ⟨_, _, .cons rfl rfl hsound hrest⟩

/-- Cutting down a last stretch that stays moves the end only. -/
theorem Leads.mapLast (h : Leads first second i j changes k l) :
    ∃ k' l', Leads first second i j (mapLast (onEqual keepStart) changes) k' l' := by
  induction h with
  | nil => exact ⟨_, _, .nil⟩
  | @cons i j k l change rest hleft hright hsound hrest ih =>
      cases rest with
      | nil =>
          rw [Diff.mapLast, onEqual]
          split
          · next hkind => exact ⟨_, _, .cons hleft hright (isSound_keepStart hsound hkind) .nil⟩
          · exact ⟨_, _, .cons hleft hright hsound .nil⟩
      | cons next rest =>
          obtain ⟨k', l', hlast⟩ := ih
          exact ⟨k', l', .cons hleft hright hsound hlast⟩

theorem Leads.trimEnds (h : Leads first second i j changes k l) :
    ∃ i' j' k' l', Leads first second i' j' (trimEnds changes) k' l' := by
  obtain ⟨i', j', hfirst⟩ := h.mapFirst
  obtain ⟨k', l', hlast⟩ := hfirst.mapLast
  exact ⟨i', j', k', l', hlast⟩

end Trim

/-! ## What is not cut -/

/-- Whether a change changes anything. -/
def isReal (change : Change) : Bool := change.kind != .equal

section Real

variable {changes group : List Change}

theorem filter_isReal_onEqual {f : Change → Change} (hf : ∀ change, (f change).kind = change.kind)
    (change : Change) : [onEqual f change].filter isReal = [change].filter isReal := by
  rw [onEqual]
  split
  · next hkind =>
    rw [List.filter_cons_of_neg (by simp [isReal, hf, hkind]),
      List.filter_cons_of_neg (by simp [isReal, hkind])]
  · rfl

theorem filter_isReal_mapFirst {f : Change → Change}
    (hf : ∀ change, (f change).kind = change.kind) (changes : List Change) :
    (mapFirst (onEqual f) changes).filter isReal = changes.filter isReal := by
  cases changes with
  | nil => rfl
  | cons change rest =>
      rw [mapFirst, ← List.singleton_append, List.filter_append, filter_isReal_onEqual hf,
        ← List.filter_append, List.singleton_append]

theorem filter_isReal_mapLast {f : Change → Change}
    (hf : ∀ change, (f change).kind = change.kind) (changes : List Change) :
    (mapLast (onEqual f) changes).filter isReal = changes.filter isReal := by
  induction changes with
  | nil => rfl
  | cons change rest ih =>
      cases rest with
      | nil => exact filter_isReal_onEqual hf change
      | cons next rest =>
          show (change :: mapLast (onEqual f) (next :: rest)).filter isReal = _
          rw [List.filter_cons, ih, ← List.filter_cons]

theorem filter_isReal_of_not_isWorthShowing (h : ¬isWorthShowing group = true) :
    group.filter isReal = [] := by
  match group, h with
  | [], _ => rfl
  | [change], h => exact List.filter_cons_of_neg (p := isReal) h
  | _ :: _ :: _, h => exact absurd rfl h

/-- Every change that changes anything is in one hunk. -/
theorem filter_isReal_groupFrom (group changes : List Change) :
    (groupFrom group changes).flatten.filter isReal = (group ++ changes).filter isReal := by
  fun_induction groupFrom group changes with
  | case1 group hworth => rw [List.flatten_singleton, List.append_nil]
  | case2 group hworth =>
      rw [List.append_nil, filter_isReal_of_not_isWorthShowing hworth]
      rfl
  | case3 group change rest hlong ih =>
      -- both halves of a long stretch that stays are left out, and so is the stretch
      have hstart : isReal (keepStart change) = false := by simp [isReal, keepStart, hlong.1]
      have hend : isReal (keepEnd change) = false := by simp [isReal, keepEnd, hlong.1]
      have hchange : isReal change = false := by simp [isReal, hlong.1]
      rw [List.flatten_cons, List.filter_append, ih, List.filter_append, List.filter_append,
        List.filter_append, List.filter_cons_of_neg (by simp [hstart]),
        List.filter_cons_of_neg (by simp [hend]), List.filter_cons_of_neg (by simp [hchange])]
      simp
  | case4 group change rest hshort ih => rw [ih, List.append_assoc, List.singleton_append]

theorem filter_isReal_hunks (first second : List String) :
    (hunks first second).flatten.filter isReal = (Diff.changes first second).filter isReal := by
  rw [hunks, filter_isReal_groupFrom, List.nil_append, trimEnds,
    filter_isReal_mapLast (f := keepStart) fun _ => rfl,
    filter_isReal_mapFirst (f := keepEnd) fun _ => rfl]

/-- There is no hunk exactly if the sequences are the same. -/
theorem hunks_eq_nil_iff : hunks first second = [] ↔ first = second := by
  constructor
  · intro hnil
    have hreal := filter_isReal_hunks first second
    rw [hnil, List.flatten_nil, List.filter_nil, eq_comm, List.filter_eq_nil_iff] at hreal
    exact eq_of_changes_equal fun change hchange => by simpa [isReal] using hreal change hchange
  · rintro rfl
    rw [hunks, changes_self]
    split
    · rfl
    · -- the one stretch is cut to the context, and a hunk of it alone is not worth showing
      simp only [trimEnds, mapFirst, mapLast, onEqual, if_true, keepEnd, keepStart]
      rw [groupFrom, if_neg, List.nil_append, groupFrom, if_neg]
      · simp [isWorthShowing]
      · rintro ⟨-, hlong⟩
        simp only [contextLines] at hlong
        omega

end Real

/-! ## Inside a hunk -/

/-- The changes of a hunk follow each other without a gap, and there is one. -/
def IsHunk (first second : List String) (hunk : List Change) : Prop :=
  hunk ≠ [] ∧ ∃ i j k l, Leads first second i j hunk k l

section Hunk

variable {changes group hunk : List Change}

theorem isHunk_of_mem_groupFrom (hgroup : Leads first second i j group k l)
    (hchanges : Leads first second k l changes m n) :
    ∀ hunk ∈ groupFrom group changes, IsHunk first second hunk := by
  -- the hunk that is being built leads up to the changes still to come
  fun_induction groupFrom group changes generalizing i j k l with
  | case1 group hworth =>
      intro hunk hmem
      rw [List.mem_singleton] at hmem
      subst hmem
      refine ⟨?_, i, j, k, l, hgroup⟩
      rintro rfl
      exact absurd hworth (by decide)
  | case2 => exact fun _ hmem => absurd hmem List.not_mem_nil
  | case3 group change rest hlong ih =>
      cases hchanges with
      | cons hleft hright hsound hrest =>
          rw [List.forall_mem_cons]
          constructor
          · refine ⟨by simp, i, j, _, _, hgroup.append (.cons hleft hright ?_ .nil)⟩
            exact isSound_keepStart hsound hlong.1
          · exact ih (leads_singleton (isSound_keepEnd hsound hlong.1)) hrest
  | case4 group change rest hshort ih =>
      cases hchanges with
      | cons hleft hright hsound hrest =>
          exact ih (hgroup.append (.cons hleft hright hsound .nil)) hrest

theorem isHunk_of_mem_hunks (h : hunk ∈ hunks first second) : IsHunk first second hunk := by
  obtain ⟨i, j, k, l, htrim⟩ := (leads_changes first second).trimEnds
  exact isHunk_of_mem_groupFrom .nil htrim hunk h

/-- The last change of a hunk stops where the hunk does. -/
theorem Leads.exists_getLast? (h : Leads first second i j hunk k l) (hne : hunk ≠ []) :
    ∃ last, hunk.getLast? = some last ∧ last.leftStop = k ∧ last.rightStop = l := by
  induction h with
  | nil => exact absurd rfl hne
  | @cons _ _ _ _ change rest _ _ _ hrest ih =>
      cases rest with
      | nil =>
          cases hrest
          exact ⟨change, rfl, rfl, rfl⟩
      | cons next rest =>
          obtain ⟨last, hmem, hstop⟩ := ih (List.cons_ne_nil next rest)
          exact ⟨last, by rw [List.getLast?_cons_cons, hmem], hstop⟩

/-- The header names the places that the changes of the hunk lead between. -/
theorem hunkHeader_eq (h : Leads first second i j hunk k l) (hne : hunk ≠ []) :
    hunkHeader hunk = "@@ -" ++ rangeText i k ++ " +" ++ rangeText j l ++ " @@" ++ "\n" := by
  have hend : ∀ text : String, text ++ " @@\n" = text ++ " @@" ++ "\n" := by
    intro text
    rw [String.append_assoc]
    rfl
  obtain ⟨last, hgetLast, rfl, rfl⟩ := h.exists_getLast? hne
  cases h with
  | nil => exact absurd rfl hne
  | cons hleft hright _ _ =>
      rw [hunkHeader, hgetLast, ← hleft, ← hright, ← hend]
      rfl

end Hunk

/-! ## The lines of a hunk -/

/-- The marks in front of the lines of a hunk: for what stays, what goes and what comes. -/
def marks : List Char := [' ', '-', '+']

/-- Whether a line of a hunk stands for a line of the first sequence. -/
def isOld (line : List Char) : Bool := line.head? == some ' ' || line.head? == some '-'

/-- Whether a line of a hunk stands for a line of the second sequence. -/
def isNew (line : List Char) : Bool := line.head? == some ' ' || line.head? == some '+'

/-- A line with a mark stands for a line of one of the sequences. -/
theorem isOld_or_isNew {c : Char} {line : List Char} (hc : c ∈ marks) (h : line.head? = some c) :
    isOld line = true ∨ isNew line = true := by
  rw [isOld, isNew, h]
  simp only [marks, List.mem_cons, List.not_mem_nil, or_false] at hc
  rcases hc with rfl | rfl | rfl
  · exact .inl rfl
  · exact .inl rfl
  · exact .inr rfl

section Lines

variable {hunk : List Change} {change : Change}

/-- The lines of a diff, if anything changes. -/
theorem unifiedLines_eq (firstName secondName : String) (hne : first ≠ second) :
    unifiedLines firstName secondName first second
      = ("--- " ++ firstName ++ "\n") :: ("+++ " ++ secondName ++ "\n") ::
        (hunks first second).flatMap (hunkLines first second) := by
  rw [unifiedLines]
  split
  · next hnil => exact absurd (hunks_eq_nil_iff.mp hnil) hne
  · rfl

/-- There is no line if nothing changes. -/
theorem unifiedLines_self (firstName secondName : String) (lines : List String) :
    unifiedLines firstName secondName lines lines = [] := by
  rw [unifiedLines, hunks_eq_nil_iff.mpr rfl]

/-- Marked lines count if their mark does. -/
theorem countP_marked (p : Option Char → Bool) (mark : String) (hmark : mark.toList ≠ [])
    (lines : List String) : (lines.map (mark ++ ·)).countP (fun line => p line.toList.head?)
      = if p mark.toList.head? then lines.length else 0 := by
  have hhead : ∀ line : String, (mark ++ line).toList.head? = mark.toList.head? := by
    intro line
    rw [String.toList_append, List.head?_append_of_ne_nil _ hmark]
  rw [List.countP_map]
  simp only [Function.comp_def, hhead]
  split
  · next h => simp [h]
  · next h => simp [h]

theorem countP_isOld_changeLines (h : change.IsSound first second) :
    (changeLines first second change).countP (isOld ·.toList)
      = change.leftStop - change.leftStart := by
  have hmarked := countP_marked fun c => c == some ' ' || c == some '-'
  have hlength := length_slice (i := change.leftStart) h.left_stop
  simp only [isOld]
  rw [changeLines]
  cases hkind : change.kind with
  | equal => simpa [hmarked] using hlength
  | replace => simpa [hmarked] using hlength
  | delete => simpa [hmarked] using hlength
  | insert => simp [hmarked, h.insert hkind]

theorem countP_isNew_changeLines (h : change.IsSound first second) :
    (changeLines first second change).countP (isNew ·.toList)
      = change.rightStop - change.rightStart := by
  have hmarked := countP_marked fun c => c == some ' ' || c == some '+'
  have hleft := length_slice (i := change.leftStart) h.left_stop
  have hright := length_slice (i := change.rightStart) h.right_stop
  simp only [isNew]
  rw [changeLines]
  cases hkind : change.kind with
  | equal => simpa [hmarked, h.length_eq hkind] using hleft
  | replace => simpa [hmarked] using hright
  | delete => simp [hmarked, h.delete hkind]
  | insert => simpa [hmarked] using hright

/-- A hunk has a line for each line of the first sequence between its places. -/
theorem countP_isOld_hunk (h : Leads first second i j hunk k l) :
    (hunk.flatMap (changeLines first second)).countP (isOld ·.toList) = k - i := by
  induction h with
  | nil => rw [List.flatMap_nil, List.countP_nil, Nat.sub_self]
  | cons hleft hright hsound hrest ih =>
      have hle := hsound.left_le
      have hle' := hrest.le.1
      rw [List.flatMap_cons, List.countP_append, ih, countP_isOld_changeLines hsound]
      omega

/-- A hunk has a line for each line of the second sequence between its places. -/
theorem countP_isNew_hunk (h : Leads first second i j hunk k l) :
    (hunk.flatMap (changeLines first second)).countP (isNew ·.toList) = l - j := by
  induction h with
  | nil => rw [List.flatMap_nil, List.countP_nil, Nat.sub_self]
  | cons hleft hright hsound hrest ih =>
      have hle := hsound.right_le
      have hle' := hrest.le.2
      rw [List.flatMap_cons, List.countP_append, ih, countP_isNew_changeLines hsound]
      omega

/-- Every line that shows a change is a line of one of the sequences behind a mark. -/
theorem exists_mark_of_mem_changeLines {line : String}
    (h : line ∈ changeLines first second change) :
    ∃ c ∈ marks, ∃ shown ∈ first ++ second, line.toList = c :: shown.toList := by
  have hslice : ∀ c ∈ marks, ∀ lines ∈ [first, second], ∀ {mark : String} {i j : Nat},
      mark.toList = [c] → line ∈ (slice lines i j).map (mark ++ ·) →
      ∃ c ∈ marks, ∃ shown ∈ first ++ second, line.toList = c :: shown.toList := by
    intro c hc lines hlines mark i j hmark hline
    obtain ⟨shown, hshown, rfl⟩ := List.mem_map.mp hline
    have hmem : shown ∈ lines := List.mem_of_mem_take (List.mem_of_mem_drop hshown)
    refine ⟨c, hc, shown, ?_, by rw [String.toList_append, hmark, List.singleton_append]⟩
    rcases List.mem_pair.mp hlines with rfl | rfl
    · exact List.mem_append_left _ hmem
    · exact List.mem_append_right _ hmem
  rw [changeLines] at h
  cases hkind : change.kind with
  | equal =>
      rw [hkind] at h
      exact hslice ' ' (by decide) first (by simp) (by decide) h
  | replace =>
      rw [hkind] at h
      rcases List.mem_append.mp h with h | h
      · exact hslice '-' (by decide) first (by simp) (by decide) h
      · exact hslice '+' (by decide) second (by simp) (by decide) h
  | delete =>
      rw [hkind] at h
      exact hslice '-' (by decide) first (by simp) (by decide) h
  | insert =>
      rw [hkind] at h
      exact hslice '+' (by decide) second (by simp) (by decide) h

end Lines

end ScriptAdvisor.Diff
