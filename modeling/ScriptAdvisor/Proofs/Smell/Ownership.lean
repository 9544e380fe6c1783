import ScriptAdvisor.Proofs.Except
import ScriptAdvisor.Smell.Catalogue

/-! # Findings and advice under their own name

Every rule of the catalogue reports under its own identifier, and every provider of the catalogue
serves one rule only. So what belongs to a rule can be told from its identifier.

* `Rule.OwnsFindings` and `Provider.OwnsAdvice` are the two properties.
* `Catalogue.ownsFindings` and `Catalogue.ownsAdvice` say that they hold of the catalogue. -/

namespace ScriptAdvisor

/-! ## The properties -/

/-- Every finding of the rule carries the identifier of the rule. -/
def Rule.OwnsFindings (rule : Rule) : Prop :=
  ∀ context violations, rule.check context = .found violations →
    ∀ violation ∈ violations, violation.ruleId = rule.info.id

/-- The provider takes on violations of its rule only, and its suggestions carry the identifier of
that rule. -/
structure Provider.OwnsAdvice (provider : Provider) : Prop where
  /-- A violation that is taken on is one of the rule. -/
  accepts : ∀ violation, provider.accepts violation = true → violation.ruleId = provider.ruleId
  /-- A suggestion is one for the rule. -/
  advise : ∀ request suggestions, provider.advise request = .given suggestions →
    ∀ suggestion ∈ suggestions, suggestion.ruleId = provider.ruleId

theorem RuleInfo.violationAt_ruleId (info : RuleInfo) (message : String) (visit : Visit) :
    (info.violationAt message visit).ruleId = info.id := rfl

theorem RuleInfo.violationOn_ruleId (info : RuleInfo) (message : String)
    (line start stop : Nat) : (info.violationOn message line start stop).ruleId = info.id := rfl

/-- A rule that always comes to an end owns its findings if its check reports them so. -/
theorem Rule.ownsFindings_of_found {info : RuleInfo} {check : CheckContext → List Violation}
    (h : ∀ context, ∀ violation ∈ check context, violation.ruleId = info.id) :
    Rule.OwnsFindings { info, check := fun context => .found (check context) } := by
  intro context violations hfound violation hviolation
  have hcheck : check context = violations := CheckOutcome.found.inj hfound
  exact h context violation (hcheck ▸ hviolation)

/-- A rule that may fail owns its findings if its check, when it succeeds, reports them so. -/
theorem Rule.ownsFindings_of_ofExcept {info : RuleInfo}
    {check : CheckContext → Except Fault (List Violation)}
    (h : ∀ context violations, check context = .ok violations →
      ∀ violation ∈ violations, violation.ruleId = info.id) :
    Rule.OwnsFindings { info, check := fun context => .ofExcept (check context) } := by
  intro context violations hfound violation hviolation
  simp only [CheckOutcome.ofExcept] at hfound
  cases hcheck : check context with
  | error fault =>
      rw [hcheck] at hfound
      exact absurd hfound (by simp)
  | ok reported =>
      rw [hcheck] at hfound
      have hsame : reported = violations := CheckOutcome.found.inj hfound
      exact h context reported hcheck violation (hsame ▸ hviolation)

/-- A provider for one rule owns its advice if its suggestions are for that rule. -/
theorem Provider.ownsAdvice_forRule {name ruleId : String} {advise : AdviceRequest → AdviceOutcome}
    (h : ∀ request suggestions, advise request = .given suggestions →
      ∀ suggestion ∈ suggestions, suggestion.ruleId = ruleId) :
    (Provider.forRule name ruleId advise).OwnsAdvice :=
  ⟨fun _ haccepts => eq_of_beq haccepts, h⟩

/-- The case of a provider that always gives advice. -/
theorem Provider.ownsAdvice_of_given {name ruleId : String}
    {advise : AdviceRequest → List Suggestion}
    (h : ∀ request, ∀ suggestion ∈ advise request, suggestion.ruleId = ruleId) :
    (Provider.forRule name ruleId fun request => .given (advise request)).OwnsAdvice := by
  refine Provider.ownsAdvice_forRule fun request suggestions hgiven suggestion hsuggestion => ?_
  rw [← AdviceOutcome.given.inj hgiven] at hsuggestion
  exact h request suggestion hsuggestion

/-- What belongs to one rule is kept or left out as a whole. -/
theorem filter_eq_ite {α : Type _} {isWanted : α → Bool} {items : List α} {wanted : Bool}
    (h : ∀ item ∈ items, isWanted item = wanted) :
    items.filter isWanted = if wanted then items else [] := by
  cases wanted with
  | true => exact List.filter_eq_self.mpr h
  | false =>
      refine List.filter_eq_nil_iff.mpr fun item hitem => ?_
      rw [h item hitem]
      exact Bool.false_ne_true

/-! ## The rules of the catalogue -/

theorem NestedQuery.ownsFindings : NestedQuery.rule.OwnsFindings := by
  refine Rule.ownsFindings_of_found fun context violation hviolation => ?_
  obtain ⟨visit, _, rfl⟩ := List.mem_map.mp hviolation
  exact NestedQuery.info.violationAt_ruleId _ _

theorem UnconditionedQuery.ownsFindings : UnconditionedQuery.rule.OwnsFindings := by
  refine Rule.ownsFindings_of_found fun context violation hviolation => ?_
  obtain ⟨visit, _, rfl⟩ := List.mem_map.mp hviolation
  exact UnconditionedQuery.info.violationAt_ruleId _ _

theorem BlockingAjax.ownsFindings : BlockingAjax.rule.OwnsFindings := by
  refine Rule.ownsFindings_of_found fun context violation hviolation => ?_
  obtain ⟨line, _, hline⟩ := List.mem_filterMap.mp hviolation
  obtain ⟨start, _, rfl⟩ := Option.map_eq_some_iff.mp hline
  exact BlockingAjax.info.violationOn_ruleId _ _ _ _

theorem LoggedError.ownsFindings : LoggedError.rule.OwnsFindings := by
  refine Rule.ownsFindings_of_ofExcept fun context violations hcheck violation hviolation => ?_
  obtain ⟨visits, _, rfl⟩ := Except.map_eq_ok_iff.mp hcheck
  obtain ⟨visit, _, rfl⟩ := List.mem_map.mp hviolation
  exact LoggedError.info.violationAt_ruleId _ _

theorem HardcodedValue.ownsFindings : HardcodedValue.rule.OwnsFindings := by
  -- web and mail addresses are looked for in the same way
  have hkind : ∀ kind pattern lines, ∀ violation ∈ HardcodedValue.checkKind kind pattern lines,
      violation.ruleId = HardcodedValue.info.id := by
    intro kind pattern lines violation hviolation
    obtain ⟨line, _, hline⟩ := List.mem_flatMap.mp hviolation
    obtain ⟨span, _, rfl⟩ := List.mem_map.mp hline
    exact HardcodedValue.info.violationOn_ruleId _ _ _ _
  refine Rule.ownsFindings_of_found fun context violation hviolation => ?_
  rcases List.mem_append.mp hviolation with hurl | hemail
  · exact hkind _ _ _ violation hurl
  · exact hkind _ _ _ violation hemail

theorem AnyType.ownsFindings : AnyType.rule.OwnsFindings := by
  refine Rule.ownsFindings_of_found fun context violation hviolation => ?_
  obtain ⟨line, _, hline⟩ := List.mem_flatMap.mp hviolation
  obtain ⟨span, _, rfl⟩ := List.mem_map.mp hline
  exact AnyType.info.violationOn_ruleId _ _ _ _

theorem MissingReturnType.ownsFindings : MissingReturnType.rule.OwnsFindings := by
  refine Rule.ownsFindings_of_ofExcept fun context violations hcheck violation hviolation => ?_
  obtain ⟨visits, _, rfl⟩ := Except.map_eq_ok_iff.mp hcheck
  obtain ⟨visit, _, rfl⟩ := List.mem_map.mp hviolation
  exact MissingReturnType.info.violationAt_ruleId _ _

/-- What is reported at a specifier names what it introduces. -/
theorem UnusedImport.eq_violationAt_of_checkSpecifier {used : List String} {specifier : Visit}
    {violation : Violation} (h : checkSpecifier used specifier = some violation) :
    ∃ name, localName? specifier.node = some name
      ∧ violation = info.violationAt (message name) specifier := by
  rw [checkSpecifier] at h
  split at h
  · rename_i name hname
    split at h
    · exact absurd h (by simp)
    · exact ⟨name, hname, (Option.some.inj h).symm⟩
  · exact absurd h (by simp)

/-- Every finding is made at a specifier of an import. -/
theorem UnusedImport.exists_specifier_of_checkImports {used : List String}
    {declarations : List Visit} {violations : List Violation}
    (hcheck : checkImports used declarations = .ok violations) {violation : Violation}
    (h : violation ∈ violations) :
    ∃ declaration ∈ declarations, ∃ here, specifiers declaration = .ok here
      ∧ ∃ specifier ∈ here, checkSpecifier used specifier = some violation := by
  -- the imports are checked one after the other, so induction is on their list
  induction declarations generalizing violations with
  | nil =>
      rw [← Except.ok.inj hcheck] at h
      exact absurd h List.not_mem_nil
  | cons declaration rest ih =>
      obtain ⟨here, hhere, hcheck⟩ := Except.bind_eq_ok_iff.mp hcheck
      obtain ⟨more, hmore, hcheck⟩ := Except.bind_eq_ok_iff.mp hcheck
      rw [← Except.ok.inj hcheck] at h
      rcases List.mem_append.mp h with hfound | hlater
      · obtain ⟨specifier, hspecifier, hreported⟩ := List.mem_filterMap.mp hfound
        exact ⟨declaration, List.mem_cons_self, here, hhere, specifier, hspecifier, hreported⟩
      · obtain ⟨other, hother, hrest⟩ := ih hmore hlater
        exact ⟨other, List.mem_cons_of_mem _ hother, hrest⟩

theorem UnusedImport.ownsFindings : UnusedImport.rule.OwnsFindings := by
  refine Rule.ownsFindings_of_ofExcept fun context violations hcheck violation hviolation => ?_
  obtain ⟨_, _, _, _, specifier, _, hreported⟩ :=
    exists_specifier_of_checkImports hcheck hviolation
  obtain ⟨name, -, rfl⟩ := eq_violationAt_of_checkSpecifier hreported
  exact UnusedImport.info.violationAt_ruleId _ _

theorem NestedLoop.ownsFindings : NestedLoop.rule.OwnsFindings := by
  refine Rule.ownsFindings_of_ofExcept fun context violations hcheck violation hviolation => ?_
  obtain ⟨limit, _, rfl⟩ := Except.map_eq_ok_iff.mp hcheck
  obtain ⟨loop, _, rfl⟩ := List.mem_map.mp hviolation
  exact NestedLoop.info.violationAt_ruleId _ _

/-- The rules of the catalogue report under their own names. -/
theorem Catalogue.ownsFindings : ∀ rule ∈ Catalogue.rules, rule.OwnsFindings := by
  simp only [Catalogue.rules, List.forall_mem_cons]
  exact ⟨NestedQuery.ownsFindings, UnconditionedQuery.ownsFindings, BlockingAjax.ownsFindings,
    LoggedError.ownsFindings, HardcodedValue.ownsFindings, AnyType.ownsFindings,
    MissingReturnType.ownsFindings, UnusedImport.ownsFindings, NestedLoop.ownsFindings,
    List.forall_mem_nil _⟩

/-! ## The providers of the catalogue -/

theorem BlockingAjax.ownsAdvice : BlockingAjax.provider.OwnsAdvice := by
  refine Provider.ownsAdvice_forRule fun request suggestions hgiven suggestion hsuggestion => ?_
  -- a place that is too large is the only fault
  simp only [BlockingAjax.advise] at hgiven
  split at hgiven
  · rename_i given hadvise
    split at hadvise
    · exact absurd hadvise (by simp)
    · rw [← AdviceOutcome.given.inj hgiven, ← Except.ok.inj hadvise] at hsuggestion
      rw [List.mem_singleton.mp hsuggestion]
  · exact absurd hgiven (by simp)

/-- The providers of the catalogue serve one rule each. -/
theorem Catalogue.ownsAdvice : ∀ provider ∈ Catalogue.providers, provider.OwnsAdvice := by
  simp only [Catalogue.providers, List.forall_mem_cons]
  -- all others always give advice, and each of their suggestions names the rule
  refine ⟨?_, ?_, BlockingAjax.ownsAdvice, ?_, ?_, ?_, ?_, ?_, ?_, List.forall_mem_nil _⟩
  · exact Provider.ownsAdvice_of_given (by simp [NestedQuery.advise])
  · exact Provider.ownsAdvice_of_given (by simp [UnconditionedQuery.advise])
  · exact Provider.ownsAdvice_of_given (by simp [LoggedError.advise])
  · exact Provider.ownsAdvice_of_given (by simp [HardcodedValue.advise])
  · exact Provider.ownsAdvice_of_given (by simp [AnyType.advise])
  · exact Provider.ownsAdvice_of_given (by simp [MissingReturnType.advise])
  · exact Provider.ownsAdvice_of_given (by simp [UnusedImport.advise])
  · exact Provider.ownsAdvice_of_given (by simp [NestedLoop.advise])

end ScriptAdvisor
