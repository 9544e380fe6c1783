import ScriptAdvisor.Proofs.Diff.Hunks
import ScriptAdvisor.Proofs.Text.LineBreak

/-! # The form of a unified diff

A unified diff names the two files and goes on with hunks. The head of a hunk says how many lines of
either file the hunk is about, and so many lines of it are marked as theirs.

The lines that make up a diff are of this form. That says nothing about its text yet: the text has
to fall into these lines again where it breaks, and a line that brings no line feed shares a line of
the text with the next one.

* `HunkText` is a hunk as it is written, `IsUnified` the form as a whole.
* `isUnified_unifiedLines`: the lines of a diff are of this form, if there are any.
* `unified_eq_empty_iff`: there is a text if there are changes.
* `splitNewlines_unified_iff` says when the text of a diff falls into these lines. -/

namespace ScriptAdvisor.Diff

/-! ## The form -/

/-- A range in the head of a hunk: its first line and its length, which is left out if it is one. -/
def rangeOf (first length : Nat) : String :=
  if length = 1 then toString first else s!"{first},{length}"

/-- A length that is not left out stands behind a comma. -/
theorem comma_mem_rangeOf (first : Nat) {length : Nat} (h : length ≠ 1) :
    ',' ∈ (rangeOf first length).toList := by
  rw [rangeOf, if_neg h, String.toList_append, String.toList_append]
  exact List.mem_append_left _ (List.mem_append_right _ (by decide))

/-- A hunk as it is written. -/
structure HunkText where
  /-- The first line of the first file. -/
  leftFirst : Nat
  /-- How many lines of the first file it is about. -/
  leftCount : Nat
  /-- The first line of the second file. -/
  rightFirst : Nat
  /-- How many lines of the second file it is about. -/
  rightCount : Nat
  /-- The lines below the head. -/
  body : List (List Char)
  /-- Every line stands for a line of one of the files. -/
  marked : ∀ line ∈ body, isOld line = true ∨ isNew line = true
  /-- So many of them stand for a line of the first file. -/
  countP_isOld : body.countP isOld = leftCount
  /-- So many of them stand for a line of the second file. -/
  countP_isNew : body.countP isNew = rightCount

namespace HunkText

/-- The head of a hunk. -/
def head (hunk : HunkText) : String :=
  "@@ -" ++ rangeOf hunk.leftFirst hunk.leftCount ++ " +" ++
    rangeOf hunk.rightFirst hunk.rightCount ++ " @@"

/-- The lines of a hunk, with its head. -/
def lines (hunk : HunkText) : List (List Char) := hunk.head.toList :: hunk.body

end HunkText

/-- The form of a unified diff: two lines that name the files, and then hunks. -/
def IsUnified (lines : List (List Char)) : Prop :=
  ∃ (before after : String) (hunks : List HunkText), hunks ≠ [] ∧
    lines = ("--- " ++ before).toList :: ("+++ " ++ after).toList :: hunks.flatMap HunkText.lines

/-! ## The lines of a diff -/

/-- The lines of a diff without the line feeds at their ends. -/
def bareLines (lines : List String) : List (List Char) :=
  lines.map fun line => Text.withoutFeed line.toList

theorem bareLines_append (front back : List String) :
    bareLines (front ++ back) = bareLines front ++ bareLines back := List.map_append

section Lines

variable {first second : List String} {hunk : List Change} {line : String}

theorem rangeText_eq (i k : Nat) : ∃ start, rangeText i k = rangeOf start (k - i) := by
  rw [rangeText]
  split
  · next h => exact ⟨i + 1, by rw [rangeOf, if_pos h]⟩
  · next h =>
    split
    · next hzero =>
      refine ⟨i, ?_⟩
      rw [rangeOf, if_neg h, hzero, String.append_assoc]
      rfl
    · exact ⟨i + 1, by rw [rangeOf, if_neg h]⟩

/-- The first character of a line stays when the line feed behind it goes. -/
theorem head?_withoutFeed {line : List Char} (h : line.head? ≠ some '\n') :
    (Text.withoutFeed line).head? = line.head? := by
  rw [Text.withoutFeed]
  split
  · next hlast =>
    cases line with
    | nil => rfl
    | cons c rest =>
        cases rest with
        | nil => exact absurd hlast h
        | cons d rest => rfl
  · rfl

/-- Below the head of a hunk all lines start with a mark, also without their line feeds. -/
theorem exists_mark_of_mem_body (h : line ∈ hunk.flatMap (changeLines first second)) :
    ∃ c ∈ marks, line.toList.head? = some c
      ∧ (Text.withoutFeed line.toList).head? = some c := by
  obtain ⟨change, -, hline⟩ := List.mem_flatMap.mp h
  obtain ⟨c, hc, shown, -, hline⟩ := exists_mark_of_mem_changeLines hline
  have hhead : line.toList.head? = some c := by rw [hline, List.head?_cons]
  refine ⟨c, hc, hhead, ?_⟩
  rw [head?_withoutFeed, hhead]
  rw [hhead]
  rintro ⟨⟩
  exact absurd hc (by decide)

/-- What a hunk is written as. -/
theorem exists_hunkText (h : IsHunk first second hunk) :
    ∃ text : HunkText, bareLines (hunkLines first second hunk) = text.lines := by
  obtain ⟨hne, i, j, k, l, hleads⟩ := h
  let body := hunk.flatMap (changeLines first second)
  have hmarked : ∀ line ∈ bareLines body, isOld line = true ∨ isNew line = true := by
    intro bare hbare
    obtain ⟨line, hline, rfl⟩ := List.mem_map.mp hbare
    obtain ⟨c, hc, -, hhead⟩ := exists_mark_of_mem_body hline
    exact isOld_or_isNew hc hhead
  -- lines are counted by their marks, and these stay
  have hcount : ∀ p : Option Char → Bool, (bareLines body).countP (fun line => p line.head?)
      = body.countP fun line => p line.toList.head? := by
    intro p
    rw [bareLines, List.countP_map]
    refine List.countP_congr fun line hline => ?_
    obtain ⟨c, -, hhead, hbare⟩ := exists_mark_of_mem_body hline
    rw [Function.comp_apply, hhead, hbare]
  have hold : (bareLines body).countP isOld = k - i :=
    (hcount fun c => c == some ' ' || c == some '-').trans (countP_isOld_hunk hleads)
  have hnew : (bareLines body).countP isNew = l - j :=
    (hcount fun c => c == some ' ' || c == some '+').trans (countP_isNew_hunk hleads)
  obtain ⟨leftFirst, hleft⟩ := rangeText_eq i k
  obtain ⟨rightFirst, hright⟩ := rangeText_eq j l
  let text : HunkText := ⟨leftFirst, k - i, rightFirst, l - j, bareLines body, hmarked, hold, hnew⟩
  refine ⟨text, ?_⟩
  rw [hunkLines, hunkHeader_eq hleads hne, hleft, hright, bareLines, List.map_cons,
    String.toList_append]
  congr 1
  exact Text.withoutFeed_concat text.head.toList

theorem exists_hunkTexts {hunks : List (List Change)}
    (h : ∀ hunk ∈ hunks, IsHunk first second hunk) :
    ∃ texts : List HunkText, texts.length = hunks.length
      ∧ bareLines (hunks.flatMap (hunkLines first second)) = texts.flatMap HunkText.lines := by
  induction hunks with
  | nil => exact ⟨[], rfl, rfl⟩
  | cons hunk rest ih =>
      rw [List.forall_mem_cons] at h
      obtain ⟨text, htext⟩ := exists_hunkText h.1
      obtain ⟨texts, hlength, htexts⟩ := ih h.2
      refine ⟨text :: texts, by rw [List.length_cons, hlength, List.length_cons], ?_⟩
      rw [List.flatMap_cons, bareLines_append, htext, htexts, List.flatMap_cons]

/-- The lines of a diff without their line feeds. -/
theorem bareLines_unifiedLines (firstName secondName : String) (hne : first ≠ second) :
    bareLines (unifiedLines firstName secondName first second)
      = ("--- " ++ firstName).toList :: ("+++ " ++ secondName).toList ::
        bareLines ((hunks first second).flatMap (hunkLines first second)) := by
  have hname : ∀ name : String, Text.withoutFeed (name ++ "\n").toList = name.toList := by
    intro name
    rw [String.toList_append]
    exact Text.withoutFeed_concat name.toList
  rw [unifiedLines_eq _ _ hne, bareLines, List.map_cons, List.map_cons, hname, hname, bareLines]

/-- The lines of a diff have the form of one, if anything changes. -/
theorem isUnified_unifiedLines (firstName secondName : String) (hne : first ≠ second) :
    IsUnified (bareLines (unifiedLines firstName secondName first second)) := by
  obtain ⟨texts, hlength, htexts⟩ :=
    exists_hunkTexts fun hunk (hmem : hunk ∈ hunks first second) => isHunk_of_mem_hunks hmem
  refine ⟨firstName, secondName, texts, ?_, ?_⟩
  · rintro rfl
    exact hne (hunks_eq_nil_iff.mp (List.length_eq_zero_iff.mp hlength.symm))
  · rw [bareLines_unifiedLines firstName secondName hne, htexts]

end Lines

/-! ## The text of a diff -/

section Text

variable {first second : List String} {firstName secondName : String}

theorem newline_notMem_rangeOf (first length : Nat) : '\n' ∉ (rangeOf first length).toList := by
  have hdigits : ∀ n : Nat, '\n' ∉ Nat.toDigits 10 n := fun n hmem =>
    absurd (Nat.isDigit_of_mem_toDigits (by decide) (by decide) hmem) (by decide)
  rw [rangeOf]
  split
  · rw [Nat.toString_eq_repr, Nat.toList_repr]
    exact hdigits first
  · have hcomma : '\n' ∉ (toString ",").toList := by decide
    simp [hdigits, hcomma]

theorem HunkText.newline_notMem_head (text : HunkText) : '\n' ∉ text.head.toList := by
  simp [HunkText.head, newline_notMem_rangeOf]

/-- A line behind a mark holds no line feed but at its end if the line does not. -/
theorem newline_notMem_marked {c : Char} {shown : List Char} (hc : c ∈ marks)
    (h : '\n' ∉ Text.withoutFeed shown) : '\n' ∉ Text.withoutFeed (c :: shown) := by
  have hne : '\n' ≠ c := by
    rintro rfl
    exact absurd hc (by decide)
  by_cases hshown : shown = []
  · have hlast : ¬[c].getLast? = some '\n' := fun hlast => hne (Option.some.inj hlast).symm
    rw [hshown, Text.withoutFeed, if_neg hlast, List.mem_singleton]
    exact hne
  · rw [← List.singleton_append, Text.withoutFeed_append _ hshown, List.singleton_append]
    exact List.not_mem_cons_of_ne_of_not_mem hne h

/-- The lines of a diff hold no line feed but at their ends, unless a name does. -/
theorem newline_notMem_unifiedLines_iff (hne : first ≠ second)
    (hlines : ∀ line ∈ first ++ second, '\n' ∉ Text.withoutFeed line.toList) :
    (∀ line ∈ bareLines (unifiedLines firstName secondName first second), '\n' ∉ line)
      ↔ '\n' ∉ firstName.toList ∧ '\n' ∉ secondName.toList := by
  have hhunks : ∀ line ∈ bareLines ((hunks first second).flatMap (hunkLines first second)),
      '\n' ∉ line := by
    intro bare hbare
    obtain ⟨line, hline, rfl⟩ := List.mem_map.mp hbare
    obtain ⟨hunk, hhunk, hline⟩ := List.mem_flatMap.mp hline
    rw [hunkLines, List.mem_cons] at hline
    rcases hline with rfl | hline
    · obtain ⟨text, htext⟩ := exists_hunkText (isHunk_of_mem_hunks hhunk)
      have hhead : Text.withoutFeed (hunkHeader hunk).toList = text.head.toList :=
        (List.cons.inj htext).1
      show '\n' ∉ Text.withoutFeed (hunkHeader hunk).toList
      rw [hhead]
      exact text.newline_notMem_head
    · obtain ⟨change, -, hline⟩ := List.mem_flatMap.mp hline
      obtain ⟨c, hc, shown, hshown, hline⟩ := exists_mark_of_mem_changeLines hline
      rw [hline]
      exact newline_notMem_marked hc (hlines shown hshown)
  have hfirst : '\n' ∉ ("--- " ++ firstName).toList ↔ '\n' ∉ firstName.toList := by simp
  have hsecond : '\n' ∉ ("+++ " ++ secondName).toList ↔ '\n' ∉ secondName.toList := by simp
  rw [bareLines_unifiedLines firstName secondName hne, List.forall_mem_cons, List.forall_mem_cons,
    hfirst, hsecond, and_iff_left hhunks]

/-- A line of a diff heads it or a hunk, or shows a line of one of the sequences. -/
theorem exists_eq_of_mem_unifiedLines {line : String}
    (h : line ∈ unifiedLines firstName secondName first second) :
    (∃ head, line = head ++ "\n")
      ∨ ∃ c ∈ marks, ∃ shown ∈ first ++ second, line.toList = c :: shown.toList := by
  by_cases hne : first = second
  · rw [hne, unifiedLines_self] at h
    exact absurd h List.not_mem_nil
  rw [unifiedLines_eq _ _ hne, List.mem_cons, List.mem_cons] at h
  rcases h with rfl | rfl | h
  · exact .inl ⟨_, rfl⟩
  · exact .inl ⟨_, rfl⟩
  · obtain ⟨hunk, hhunk, hline⟩ := List.mem_flatMap.mp h
    rw [hunkLines, List.mem_cons] at hline
    rcases hline with rfl | hline
    · obtain ⟨hnonempty, i, j, k, l, hleads⟩ := isHunk_of_mem_hunks hhunk
      exact .inl ⟨_, hunkHeader_eq hleads hnonempty⟩
    · obtain ⟨change, -, hline⟩ := List.mem_flatMap.mp hline
      exact .inr (exists_mark_of_mem_changeLines hline)

/-- No line of a diff is empty. -/
theorem toList_ne_nil_of_mem_unifiedLines {line : String}
    (h : line ∈ unifiedLines firstName secondName first second) : line.toList ≠ [] := by
  rcases exists_eq_of_mem_unifiedLines h with ⟨head, rfl⟩ | ⟨c, -, shown, -, hline⟩
  · simp
  · rw [hline]
    exact List.cons_ne_nil c _

/-- There is no text exactly if nothing changes. -/
theorem unified_eq_empty_iff : unified firstName secondName first second = "" ↔ first = second := by
  constructor
  · intro hempty
    by_contra hne
    rw [unified, unifiedLines_eq _ _ hne] at hempty
    simp [String.join_cons] at hempty
  · rintro rfl
    rw [unified, unifiedLines_self, String.join_nil]

/-- The text of a diff falls into its lines exactly if each of them but the last brings a line feed
and the names hold none. -/
theorem splitNewlines_unified_iff (hne : first ≠ second)
    (hlines : ∀ line ∈ first ++ second, '\n' ∉ Text.withoutFeed line.toList) :
    Text.splitNewlines (Text.withoutFeed (unified firstName secondName first second).toList)
        = bareLines (unifiedLines firstName secondName first second)
      ↔ ('\n' ∉ firstName.toList ∧ '\n' ∉ secondName.toList)
        ∧ ∀ line ∈ (unifiedLines firstName secondName first second).dropLast,
          line.toList.getLast? = some '\n' := by
  -- only the last line may do without a line feed, so it is told apart from the others
  have hlisted : unifiedLines firstName secondName first second ≠ [] := by
    rw [unifiedLines_eq _ _ hne]
    exact List.cons_ne_nil _ _
  obtain ⟨front, last, hfront⟩ := List.eq_nil_or_concat _ |>.resolve_left hlisted
  rw [List.concat_eq_append] at hfront
  have hlast : last.toList ≠ [] := toList_ne_nil_of_mem_unifiedLines (by rw [hfront]; simp)
  have htext : Text.withoutFeed (unified firstName secondName first second).toList
      = (front.map String.toList).flatten ++ Text.withoutFeed last.toList := by
    rw [unified, hfront, String.toList_join, List.flatMap_append, List.flatMap_singleton,
      Text.withoutFeed_append _ hlast, List.flatMap_def]
  have hbare : bareLines (front ++ [last])
      = (front.map String.toList).map Text.withoutFeed ++ [Text.withoutFeed last.toList] := by
    rw [bareLines_append, List.map_map]
    rfl
  rw [← newline_notMem_unifiedLines_iff hne hlines, htext, hfront, hbare,
    Text.splitNewlines_flatten_append_iff, List.dropLast_concat, List.forall_mem_append,
    List.forall_mem_singleton, List.forall_mem_map, List.forall_mem_map, List.forall_mem_map]
  constructor
  · rintro ⟨h, hend⟩
    exact ⟨⟨fun line hline => (h line hline).2, hend⟩, fun line hline => (h line hline).1⟩
  · rintro ⟨⟨h, hend⟩, hfeed⟩
    exact ⟨fun line hline => ⟨hfeed line hline, h line hline⟩, hend⟩

end Text

end ScriptAdvisor.Diff
