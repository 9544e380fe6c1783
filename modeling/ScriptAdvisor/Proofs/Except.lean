/-! # Steps that may fail

How a chain of steps comes to its result, and by which fault it fails.

* `bind_eq_ok_iff` says that a chain succeeds if every step does, and `error?_bind` that it fails by
  the first step that fails.
* `error?_run` says by which fault a run over a list fails, and `sublist_of_run` what a run keeps
  that thins the list out.
* `mapM_filter_eq_ok` and `mapM_eq_ok_of_sublist` are about a list of steps that all succeed: when
  it is thinned out, so are the results. -/

namespace Except

variable {ε ε' α β γ : Type _}

/-- A chain of two steps has a result exactly if both have one. -/
theorem bind_eq_ok_iff {step : Except ε α} {next : α → Except ε β} {result : β} :
    step >>= next = .ok result ↔ ∃ value, step = .ok value ∧ next value = .ok result := by
  cases step with
  | error fault =>
      constructor
      · intro h
        exact absurd h (by simp [bind, Except.bind])
      · rintro ⟨value, hvalue, _⟩
        exact absurd hvalue (by simp)
  | ok value =>
      constructor
      · intro h
        exact ⟨value, rfl, h⟩
      · rintro ⟨other, hother, h⟩
        rw [← Except.ok.inj hother] at h
        exact h

theorem map_eq_ok_iff {step : Except ε α} {change : α → β} {result : β} :
    step.map change = .ok result ↔ ∃ value, step = .ok value ∧ change value = result := by
  cases step <;> simp [Except.map]

@[simp] theorem mapError_ok (change : ε → ε') (result : α) :
    (ok result : Except ε α).mapError change = .ok result := rfl

@[simp] theorem mapError_error (change : ε → ε') (fault : ε) :
    (error fault : Except ε α).mapError change = .error (change fault) := rfl

theorem mapError_eq_ok_iff {step : Except ε α} {change : ε → ε'} {result : α} :
    step.mapError change = .ok result ↔ step = .ok result := by
  cases step <;> simp

theorem toOption_eq_some_iff {step : Except ε α} {result : α} :
    step.toOption = some result ↔ step = .ok result := by
  cases step <;> simp [Except.toOption]

/-- What is made of a result, and of a fault, on the way through two stages can be made of it at
once. -/
theorem bind_mapError_map {δ ε'' : Type _} (step : Except ε α) (fault : ε → ε') (change : α → β)
    (fault' : ε' → ε'') (finish : β → δ) :
    (((step.mapError fault).map change).mapError fault' >>= fun value => .ok (finish value))
      = (step.mapError fun error => fault' (fault error)).map fun value =>
          finish (change value) := by
  cases step <;> rfl

/-! ## Faults -/

/-- The fault of a step that failed. -/
def error? : Except ε α → Option ε
  | .ok _ => none
  | .error fault => some fault

@[simp] theorem error?_map (step : Except ε α) (change : α → β) :
    (step.map change).error? = step.error? := by
  cases step <;> rfl

@[simp] theorem error?_pure (value : α) : (pure value : Except ε α).error? = none := rfl

/-- A chain fails by its first step, or else by the rest. -/
theorem error?_bind {step : Except ε α} {next : α → Except ε β} {rest : Option ε}
    (hrest : ∀ value, step = .ok value → (next value).error? = rest) :
    (step >>= next).error? = step.error?.or rest := by
  cases step with
  | error fault => rfl
  | ok value => exact hrest value rfl

/-- Two steps whose results are combined fail by the first of them, or else by the second. -/
theorem error?_combine (first : Except ε α) (second : Except ε β) (combine : α → β → γ) :
    (do let a ← first; let b ← second; pure (combine a b) : Except ε γ).error?
      = first.error?.or second.error? := by
  refine error?_bind fun a _ => ?_
  refine (error?_bind fun b _ => error?_pure _).trans ?_
  exact Option.or_none

/-! ## Lists of steps -/

/-- A run over a list that takes one step after the other fails by the first step that fails. -/
theorem error?_run (step : α → Except ε β) {run : List α → Except ε γ}
    (combine : α → β → γ → γ) (hnil : (run []).error? = none)
    (hcons : ∀ item items, run (item :: items)
      = do let here ← step item; let more ← run items; pure (combine item here more))
    (items : List α) : (run items).error? = items.findSome? fun item => (step item).error? := by
  induction items with
  | nil => exact hnil
  | cons item items ih =>
      rw [hcons, error?_combine, ih, List.findSome?_cons]
      cases (step item).error? with
      | none => rfl
      | some fault => rfl

/-- A run over a list that keeps the items for which a step says so keeps some of them. -/
theorem sublist_of_run (keep : α → Except ε Bool) (run : List α → Except ε (List α))
    (hnil : run [] = .ok [])
    (hcons : ∀ item items, run (item :: items)
      = do let hit ← keep item; let more ← run items; pure (if hit then item :: more else more))
    {items kept : List α} (h : run items = .ok kept) : kept.Sublist items := by
  induction items generalizing kept with
  | nil =>
      obtain rfl : [] = kept := Except.ok.inj (hnil.symm.trans h)
      exact List.Sublist.refl _
  | cons item items ih =>
      rw [hcons] at h
      obtain ⟨hit, _, h⟩ := bind_eq_ok_iff.mp h
      obtain ⟨more, hmore, h⟩ := bind_eq_ok_iff.mp h
      rw [← Except.ok.inj h]
      cases hit with
      | true => exact (ih hmore).cons_cons item
      | false => exact (ih hmore).cons item

/-- A list of steps fails by the first fault of a step. -/
theorem mapM_eq_elim {step : α → Except ε β} {fault? : α → Option ε} {result : α → β}
    (hstep : ∀ item, step item = (fault? item).elim (.ok (result item)) .error)
    (items : List α) :
    items.mapM step = (items.findSome? fault?).elim (.ok (items.map result)) .error := by
  induction items with
  | nil => rfl
  | cons item items ih =>
      rw [List.mapM_cons, hstep, ih, List.findSome?_cons]
      cases fault? item with
      | some fault => rfl
      | none => cases items.findSome? fault? <;> rfl

/-- When a step fails by one fault only, a list of steps fails by it if any of them does. -/
theorem mapM_eq_ite {step : α → Except ε β} {fails : α → Bool} {fault : ε} {result : α → β}
    (hstep : ∀ item, step item = if fails item then .error fault else .ok (result item))
    (items : List α) :
    items.mapM step = if items.any fails then .error fault else .ok (items.map result) := by
  induction items with
  | nil => rfl
  | cons item items ih =>
      rw [List.mapM_cons, hstep, ih, List.any_cons]
      cases fails item with
      | true => rfl
      | false => cases items.any fails <;> rfl

/-- When a step succeeds on every item, a step that agrees with it on the wanted items succeeds on
these. Its results are the wanted ones if a step keeps whether an item is wanted. -/
theorem mapM_filter_eq_ok {step step' : α → Except ε β} {isWanted : α → Bool}
    {isWanted' : β → Bool} (hsame : ∀ item, isWanted item = true → step' item = step item)
    (hkeep : ∀ item result, step item = .ok result → isWanted' result = isWanted item)
    {items : List α} {results : List β} (h : items.mapM step = .ok results) :
    (items.filter isWanted).mapM step' = .ok (results.filter isWanted') := by
  induction items generalizing results with
  | nil =>
      rw [← Except.ok.inj h]
      rfl
  | cons item items ih =>
      rw [List.mapM_cons] at h
      obtain ⟨first, hfirst, h⟩ := bind_eq_ok_iff.mp h
      obtain ⟨rest, hrest, h⟩ := bind_eq_ok_iff.mp h
      have hwanted := hkeep item first hfirst
      rw [← Except.ok.inj h]
      cases hitem : isWanted item with
      | true =>
          rw [List.filter_cons_of_pos hitem, List.filter_cons_of_pos (hwanted.trans hitem),
            List.mapM_cons, hsame item hitem, hfirst, ih hrest]
          rfl
      | false =>
          rw [List.filter_cons_of_neg (by simp [hitem]),
            List.filter_cons_of_neg (by simp [hwanted, hitem]), ih hrest]

/-- When a list of steps succeeds, so does a list that is thinned out, and its results are thinned
out too. -/
theorem mapM_eq_ok_of_sublist {step : α → Except ε β} {fewer items : List α} {results : List β}
    (hfewer : fewer.Sublist items) (h : items.mapM step = .ok results) :
    ∃ kept, fewer.mapM step = .ok kept ∧ kept.Sublist results := by
  induction hfewer generalizing results with
  | slnil => exact ⟨results, h, List.Sublist.refl _⟩
  | cons item _ ih =>
      rw [List.mapM_cons] at h
      obtain ⟨first, _, h⟩ := bind_eq_ok_iff.mp h
      obtain ⟨rest, hrest, h⟩ := bind_eq_ok_iff.mp h
      obtain ⟨kept, hkept, hsublist⟩ := ih hrest
      rw [← Except.ok.inj h]
      exact ⟨kept, hkept, hsublist.cons first⟩
  | cons_cons item _ ih =>
      rw [List.mapM_cons] at h ⊢
      obtain ⟨first, hfirst, h⟩ := bind_eq_ok_iff.mp h
      obtain ⟨rest, hrest, h⟩ := bind_eq_ok_iff.mp h
      obtain ⟨kept, hkept, hsublist⟩ := ih hrest
      rw [← Except.ok.inj h]
      refine ⟨first :: kept, ?_, hsublist.cons_cons first⟩
      rw [hfirst, hkept]
      rfl

end Except
