import ScriptAdvisor.Proofs.Rule.Disabling

/-! # Rules that take too long

How long a check takes is not told by what it looks at. Where it matters which checks are done in
time, the rules that are late are given: their checks overrun, and all other checks end as they end
by themselves.

* `Rule.delayed` and `RuleRegistry.delayed` make the rules in a list late.
* What holds of rules and registries holds of them as well when rules are late
  (`Rule.OwnsFindings.delayed`, `RuleRegistry.WellFormed.delayed`,
  `RuleRegistry.AlsoDisabled.delayed`). -/

namespace ScriptAdvisor

/-! ## Rules -/

namespace Rule

/-- The rule, with a check that is never done in time if the rule is one of `late`. -/
def delayed (late : List String) (rule : Rule) : Rule :=
  { rule with
    check := fun context =>
      if late.contains rule.info.id then .overrun else rule.check context }

@[simp] theorem info_delayed (late : List String) (rule : Rule) :
    (rule.delayed late).info = rule.info := rfl

@[simp] theorem delayed_nil (rule : Rule) : rule.delayed [] = rule := rfl

/-- A rule that is late finds nothing. -/
theorem eq_found_of_delayed {late : List String} {rule : Rule} {context : CheckContext}
    {violations : List Violation} (h : (rule.delayed late).check context = .found violations) :
    rule.check context = .found violations := by
  simp only [delayed] at h
  split at h
  · exact absurd h (by simp)
  · exact h

theorem OwnsFindings.delayed {rule : Rule} (h : rule.OwnsFindings) (late : List String) :
    (rule.delayed late).OwnsFindings :=
  fun context violations hfound => h context violations (eq_found_of_delayed hfound)

end Rule

/-! ## Registries -/

namespace RuleRegistry

/-- The registry, with the rules in `late` made late. -/
def delayed (late : List String) (registry : RuleRegistry) : RuleRegistry :=
  { registry with rules := registry.rules.map fun (id, rule) => (id, rule.delayed late) }

@[simp] theorem delayed_nil (registry : RuleRegistry) : registry.delayed [] = registry := by
  simp [delayed]

variable (late : List String) {registry other : RuleRegistry}

theorem keys_delayed (registry : RuleRegistry) :
    Entries.keys (registry.delayed late).rules = Entries.keys registry.rules :=
  List.map_map

theorem list_delayed (registry : RuleRegistry) :
    (registry.delayed late).list = registry.list.map (Rule.delayed late) := by
  rw [list, list, delayed, List.map_map, List.map_map]
  rfl

theorem WellFormed.delayed (h : registry.WellFormed) : (registry.delayed late).WellFormed := by
  refine ⟨?_, ?_, fun entry hentry => ?_⟩
  · rw [keys_delayed]
    exact h.keys_eq
  · rw [keys_delayed]
    exact h.nodup
  · obtain ⟨original, horiginal, rfl⟩ := List.mem_map.mp hentry
    exact h.own_id original horiginal

theorem AlsoDisabled.delayed {ids : List String} (h : AlsoDisabled ids registry other) :
    AlsoDisabled ids (registry.delayed late) (other.delayed late) := by
  refine ⟨?_, h.config?_eq⟩
  rw [RuleRegistry.delayed, RuleRegistry.delayed, h.rules_eq]

end RuleRegistry

end ScriptAdvisor
