import Mathlib.Algebra.GroupWithZero.Nat
import Mathlib.Data.List.Induction
import ScriptAdvisor.Proofs.Rule.Consistency
import ScriptAdvisor.Suggestion.Provider

/-! # Which providers a history leaves

Providers are registered one at a time, and removed all at once that serve a rule. So whether a
provider is still there is decided by what has happened since it was registered, and by nothing
before.

* `Registration` is a provider that a history registers, with what came after it. `lasting` lists
  the providers of the registrations after which their rule was never removed.
* `ProviderRegistry.providers_apply` says what one operation makes of the providers, and
  `ProviderRegistry.providers_run` that a history adds the lasting ones.
* `ProviderRegistry.get?_byRule`, `ProviderRegistry.nodup_keys_byRule` and
  `ProviderRegistry.sum_length_byRule` say that grouping providers by rule loses none of them.
* `ProviderRegistry.run_keeps_lasting` puts this together. -/

namespace ScriptAdvisor

/-! ## Histories -/

namespace ProviderOperation

/-- Whether an operation removes the providers that serve a rule. -/
def removes (ruleId : String) : ProviderOperation → Bool
  | register _ => false
  | unregister removed => removed == ruleId

/-- The providers that an operation adds. -/
def added : ProviderOperation → List Provider
  | register provider => [provider]
  | unregister _ => []

theorem removes_iff {operation : ProviderOperation} {ruleId : String} :
    operation.removes ruleId = true ↔ operation = .unregister ruleId := by
  cases operation with
  | register provider => simp [removes]
  | unregister removed => simp [removes]

end ProviderOperation

/-- A provider that was registered in the course of a history. -/
structure Registration where
  /-- The provider. -/
  provider : Provider
  /-- The operations that came later. -/
  later : List ProviderOperation

namespace Registration

/-- Whether the providers that serve the rule were not removed later. -/
def isLasting (registration : Registration) : Bool :=
  !registration.later.any (·.removes registration.provider.ruleId)

theorem isLasting_iff {registration : Registration} :
    registration.isLasting = true
      ↔ .unregister registration.provider.ruleId ∉ registration.later := by
  rw [isLasting, Bool.not_eq_true', List.any_eq_false]
  constructor
  · intro h hmem
    exact h _ hmem (ProviderOperation.removes_iff.mpr rfl)
  · intro h operation hoperation hremoves
    rw [ProviderOperation.removes_iff.mp hremoves] at hoperation
    exact h hoperation

end Registration

/-- The registrations of a history, in their order. -/
def registrations : List ProviderOperation → List Registration
  | [] => []
  | .register provider :: later => { provider, later } :: registrations later
  | .unregister _ :: later => registrations later

/-- The providers that a history registers and does not remove later, in the order of registration
and each as often as it is registered. -/
def lasting (operations : List ProviderOperation) : List Provider :=
  ((registrations operations).filter (·.isLasting)).map (·.provider)

/-- What the first operation adds lasts if no later one removes it. -/
theorem lasting_cons (operation : ProviderOperation) (later : List ProviderOperation) :
    lasting (operation :: later)
      = operation.added.filter (fun provider => !later.any (·.removes provider.ruleId))
        ++ lasting later := by
  cases operation with
  | unregister removed => rfl
  | register provider =>
      rw [lasting, registrations, ProviderOperation.added, List.filter_cons, List.filter_cons]
      by_cases hremoved : later.any (·.removes provider.ruleId)
      · simp only [Registration.isLasting, hremoved]
        rfl
      · simp only [Registration.isLasting, hremoved]
        rfl

namespace ProviderRegistry

/-! ## One operation, and many -/

/-- An operation leaves the providers whose rule it does not remove, and puts what it adds behind
them. -/
theorem providers_apply (registry : ProviderRegistry) (operation : ProviderOperation) :
    (registry.apply operation).providers
      = registry.providers.filter (fun provider => !operation.removes provider.ruleId)
        ++ operation.added := by
  cases operation with
  | register provider =>
      simp only [apply, register, ProviderOperation.removes, ProviderOperation.added,
        Bool.not_false, List.filter_true]
  | unregister removed =>
      simp only [apply, unregister, ProviderOperation.removes, ProviderOperation.added,
        List.append_nil]
      refine List.filter_congr fun provider _ => ?_
      rw [bne, Bool.beq_comm]

/-- A history leaves the providers whose rules it does not remove, and those that it adds for
good. -/
theorem providers_run (registry : ProviderRegistry) (operations : List ProviderOperation) :
    (registry.run operations).providers
      = registry.providers.filter
          (fun provider => !operations.any (·.removes provider.ruleId))
        ++ lasting operations := by
  induction operations generalizing registry with
  | nil =>
      show registry.providers = registry.providers.filter (fun _ => true) ++ []
      rw [List.filter_true, List.append_nil]
  | cons operation later ih =>
      have hrest := ih (registry.apply operation)
      -- what is left has escaped the first operation and all later ones
      rw [providers_apply, List.filter_append, List.filter_filter, List.append_assoc,
        ← lasting_cons] at hrest
      rw [show registry.run (operation :: later) = (registry.apply operation).run later from rfl,
        hrest]
      congr 1
      refine List.filter_congr fun provider _ => ?_
      rw [List.any_cons, Bool.not_or, Bool.and_comm]

-- removed and registered again, and then registered once more
example :
    let provider := fun name ruleId : String =>
      Provider.mk name ruleId (fun _ => true) fun _ => .nothing
    let operations : List ProviderOperation :=
      [.register (provider "A" "first"), .register (provider "B" "second"),
        .unregister "first", .register (provider "C" "second"), .register (provider "A" "first"),
        .register (provider "A" "first"), .unregister "third"]
    (run {} operations).providers.map (·.name) = ["B", "C", "A", "A"] := by
  decide

/-! ## Providers by rule -/

/-- A provider that is registered goes to the end of the group of its rule. -/
theorem byRule_register (registry : ProviderRegistry) (provider : Provider) :
    (registry.register provider).byRule
      = Entries.put registry.byRule provider.ruleId
          ((Entries.get? registry.byRule provider.ruleId).getD [] ++ [provider.name]) := by
  rw [byRule, register, List.foldl_append]
  rfl

theorem forRule_register (registry : ProviderRegistry) (provider : Provider) (ruleId : String) :
    (registry.register provider).forRule ruleId
      = registry.forRule ruleId ++ if provider.ruleId = ruleId then [provider] else [] := by
  rw [forRule, register, List.filter_append, List.filter_cons, List.filter_nil]
  simp only [beq_iff_eq]
  rfl

/-- What holds of the empty registry, and of a registry with one more provider if it holds without
it, holds of every registry. -/
theorem induction_register {holds : ProviderRegistry → Prop} (hnil : holds {})
    (hregister : ∀ registry provider, holds registry → holds (registry.register provider))
    (registry : ProviderRegistry) : holds registry := by
  obtain ⟨providers⟩ := registry
  induction providers using List.reverseRecOn with
  | nil => exact hnil
  | append_singleton providers provider ih => exact hregister ⟨providers⟩ provider ih

/-- The group of a rule names the providers that serve it, in the order of registration. There is
none without such providers. -/
theorem get?_byRule (registry : ProviderRegistry) (ruleId : String) :
    Entries.get? registry.byRule ruleId
      = if registry.forRule ruleId = [] then none
        else some ((registry.forRule ruleId).map (·.name)) := by
  induction registry using induction_register with
  | hnil => rfl
  | hregister registry provider ih =>
      rw [byRule_register, forRule_register]
      by_cases hrule : provider.ruleId = ruleId
      · subst hrule
        have hnames : (Entries.get? registry.byRule provider.ruleId).getD []
            = (registry.forRule provider.ruleId).map (·.name) := by
          rw [ih]
          split
          · rename_i hnone
            rw [hnone]
            rfl
          · rfl
        rw [Entries.get?_put_self, if_pos rfl, if_neg (by simp), hnames, List.map_append,
          List.map_singleton]
      · rw [Entries.get?_put_of_ne _ (Ne.symm hrule), if_neg hrule, List.append_nil, ih]

/-- No rule has two groups. -/
theorem nodup_keys_byRule (registry : ProviderRegistry) :
    (Entries.keys registry.byRule).Nodup := by
  induction registry using induction_register with
  | hnil => exact List.nodup_nil
  | hregister registry provider ih =>
      rw [byRule_register]
      exact Entries.nodup_keys_put ih _ _

/-- The groups together are as large as the registry. -/
theorem sum_length_byRule (registry : ProviderRegistry) :
    (registry.byRule.map fun group => group.2.length).sum = registry.size := by
  induction registry using induction_register with
  | hnil => rfl
  | hregister registry provider ih =>
      have hgrown := Entries.sum_size_put List.length registry.byRule provider.ruleId
        ((Entries.get? registry.byRule provider.ruleId).getD [] ++ [provider.name])
      have hsize : (registry.register provider).size = registry.size + 1 :=
        List.length_append
      have hbefore : ((Entries.get? registry.byRule provider.ruleId).map List.length).getD 0
          = ((Entries.get? registry.byRule provider.ruleId).getD []).length := by
        cases Entries.get? registry.byRule provider.ruleId <;> rfl
      rw [hbefore, List.length_append, List.length_singleton] at hgrown
      rw [byRule_register, hsize]
      omega

/-! ## Every history -/

/-- After every history from the empty registry on, the providers are those that were registered and
whose rule was not removed later, in the order of registration and as often as they were registered.
Those that serve a rule are found among them in this order. They are counted in full, and grouped by
rule: no rule has two groups, the group of a rule names its providers in the order of registration,
and the sizes of the groups add up to the count. -/
theorem run_keeps_lasting (operations : List ProviderOperation) :
    let registry := run {} operations
    let kept := ((registrations operations).filter (·.isLasting)).map (·.provider)
    (∀ registration ∈ registrations operations, registration.isLasting = true
        ↔ .unregister registration.provider.ruleId ∉ registration.later)
      ∧ registry.providers = kept
      ∧ (∀ ruleId, registry.forRule ruleId = kept.filter fun provider => provider.ruleId == ruleId)
      ∧ registry.size = kept.length
      ∧ (Entries.keys registry.byRule).Nodup
      ∧ (∀ ruleId, Entries.get? registry.byRule ruleId
          = if registry.forRule ruleId = [] then none
            else some ((registry.forRule ruleId).map (·.name)))
      ∧ (registry.byRule.map fun group => group.2.length).sum = registry.size := by
  intro registry kept
  have hproviders : registry.providers = kept := providers_run {} operations
  refine ⟨fun _ _ => Registration.isLasting_iff, hproviders, ?_, ?_, registry.nodup_keys_byRule,
    registry.get?_byRule, registry.sum_length_byRule⟩
  · intro ruleId
    rw [forRule, hproviders]
  · rw [size, hproviders]

end ProviderRegistry

end ScriptAdvisor
