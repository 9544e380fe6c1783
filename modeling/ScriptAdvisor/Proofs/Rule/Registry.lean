import Mathlib.Data.List.Nodup
import ScriptAdvisor.Rule.Run

/-! # What every registry of rules keeps to

A registry keeps its rules and their configurations in two lists. Every operation leaves both with
the same identifiers in the same order, so that no rule ever lacks a configuration.

* `RuleRegistry.WellFormed` is the invariant, `WellFormed.apply` says that one operation keeps it
  and `wellFormed_run` that every history of a registry does.
* `RuleRegistry.enabledFor` lists the rules that are run for a language, and
  `WellFormed.applicable?_eq` says that a run finds exactly these.
* `enabledFor_run_unregister` says which rules are left when some were removed. -/

namespace ScriptAdvisor

namespace Entries

variable {α : Type _}

/-- An entry after storing is the stored one or an old one. -/
theorem mem_put {entries : Entries α} {key : String} {value : α} {entry : String × α}
    (h : entry ∈ put entries key value) : entry = (key, value) ∨ entry ∈ entries := by
  induction entries with
  | nil => exact Or.inl (by simpa [put] using h)
  | cons first rest ih =>
      rw [put] at h
      by_cases hkey : first.1 = key
      · rw [if_pos hkey] at h
        rcases List.mem_cons.mp h with h | h
        · exact Or.inl h
        · exact Or.inr (List.mem_cons_of_mem _ h)
      · rw [if_neg hkey] at h
        rcases List.mem_cons.mp h with h | h
        · exact Or.inr (h ▸ List.mem_cons_self)
        · exact (ih h).imp_right (List.mem_cons_of_mem _)

/-- Storing makes no key occur twice. -/
theorem nodup_keys_put {entries : Entries α} (h : (keys entries).Nodup) (key : String)
    (value : α) : (keys (put entries key value)).Nodup := by
  rw [keys_put]
  split
  · exact h
  · rename_i hnew
    rw [List.nodup_append]
    refine ⟨h, List.nodup_singleton _, ?_⟩
    intro old hold other hother
    rw [List.mem_singleton] at hother
    exact fun heq => hnew (hother ▸ heq ▸ hold)

end Entries

namespace RuleRegistry

/-! ## The invariant -/

/-- Rules and configurations have the same identifiers in the same order, no identifier occurs
twice, and every rule is stored under its own. -/
structure WellFormed (registry : RuleRegistry) : Prop where
  /-- The identifiers are the same, in the same order. -/
  keys_eq : Entries.keys registry.configs = Entries.keys registry.rules
  /-- No identifier occurs twice. -/
  nodup : (Entries.keys registry.rules).Nodup
  /-- Every rule is stored under its own identifier. -/
  own_id : ∀ entry ∈ registry.rules, entry.2.info.id = entry.1

theorem wellFormed_empty : WellFormed {} := ⟨rfl, List.nodup_nil, by simp⟩

theorem WellFormed.register {registry : RuleRegistry} (h : registry.WellFormed) (rule : Rule) :
    (registry.register rule).WellFormed := by
  have hnodup : (Entries.keys (Entries.put registry.rules rule.info.id rule)).Nodup :=
    Entries.nodup_keys_put h.nodup _ _
  have hown : ∀ entry ∈ Entries.put registry.rules rule.info.id rule,
      entry.2.info.id = entry.1 := by
    intro entry hentry
    rcases Entries.mem_put hentry with rfl | hold
    · rfl
    · exact h.own_id entry hold
  refine ⟨?_, hnodup, hown⟩
  -- the configuration is added exactly if the rule is new
  have hsome := Entries.get?_isSome_iff registry.configs rule.info.id
  rw [h.keys_eq] at hsome
  simp only [RuleRegistry.register]
  rw [Entries.keys_put]
  cases hconfig : Entries.get? registry.configs rule.info.id with
  | none =>
      have hnew : rule.info.id ∉ Entries.keys registry.rules := by
        rw [← hsome, hconfig]
        exact Bool.false_ne_true
      rw [if_neg hnew]
      simp only
      rw [Entries.keys_put, h.keys_eq, if_neg hnew]
  | some config =>
      have hold : rule.info.id ∈ Entries.keys registry.rules := by
        rw [← hsome, hconfig]
        rfl
      rw [if_pos hold]
      exact h.keys_eq

theorem WellFormed.unregister {registry : RuleRegistry} (h : registry.WellFormed) (id : String) :
    (registry.unregister id).WellFormed := by
  refine ⟨?_, ?_, ?_⟩
  · simp only [RuleRegistry.unregister]
    rw [Entries.keys_erase, Entries.keys_erase, h.keys_eq]
  · simp only [RuleRegistry.unregister]
    rw [Entries.keys_erase]
    exact h.nodup.filter _
  · intro entry hentry
    exact h.own_id entry (List.mem_filter.mp hentry).1

theorem WellFormed.configure {registry : RuleRegistry} (h : registry.WellFormed) (id : String)
    (change : RuleConfig → RuleConfig) : (registry.configure id change).WellFormed := by
  rw [RuleRegistry.configure]
  split
  · exact h
  · rename_i config hconfig
    have hknown : id ∈ Entries.keys registry.configs := by
      rw [← Entries.get?_isSome_iff, hconfig]
      rfl
    refine ⟨?_, h.nodup, h.own_id⟩
    simp only
    rw [Entries.keys_put, if_pos hknown, h.keys_eq]

/-- One operation keeps the invariant. -/
theorem WellFormed.apply {registry : RuleRegistry} (h : registry.WellFormed)
    (operation : RuleOperation) : (registry.apply operation).WellFormed := by
  cases operation with
  | register rule => exact h.register rule
  | unregister id => exact h.unregister id
  | enable id => exact h.configure id _
  | disable id => exact h.configure id _
  | setSeverity id severity => exact h.configure id _
  | setOptions id options => exact h.configure id _

theorem WellFormed.run {registry : RuleRegistry} (h : registry.WellFormed)
    (operations : List RuleOperation) : (registry.run operations).WellFormed := by
  induction operations generalizing registry with
  | nil => exact h
  | cons operation operations ih => exact ih (h.apply operation)

/-- Every registry that operations build up from nothing keeps to the invariant. -/
theorem wellFormed_run (operations : List RuleOperation) : (run {} operations).WellFormed :=
  wellFormed_empty.run operations

/-! ## The rules of a run -/

/-- The configuration of a registered rule. -/
def configOf (registry : RuleRegistry) (rule : Rule) : RuleConfig :=
  (registry.config? rule.info.id).getD {}

/-- The enabled rules whose language matches, in the order of registration. -/
def enabledFor (registry : RuleRegistry) (language : Language) : List Rule :=
  registry.list.filter fun rule =>
    registry.isEnabled rule.info.id && rule.info.appliesTo language

/-- A registered rule has a configuration. -/
theorem WellFormed.config?_eq {registry : RuleRegistry} (h : registry.WellFormed) {rule : Rule}
    (hrule : rule ∈ registry.list) :
    registry.config? rule.info.id = some (registry.configOf rule) := by
  obtain ⟨entry, hentry, rfl⟩ := List.mem_map.mp hrule
  have hknown : entry.2.info.id ∈ Entries.keys registry.configs := by
    rw [h.keys_eq, h.own_id entry hentry]
    exact List.mem_map_of_mem hentry
  rw [← Entries.get?_isSome_iff] at hknown
  obtain ⟨config, hconfig⟩ := Option.isSome_iff_exists.mp hknown
  rw [configOf, config?, hconfig]
  rfl

/-- Pairing each rule with its configuration never fails. -/
theorem WellFormed.snapshot?_eq {registry : RuleRegistry} (h : registry.WellFormed) :
    registry.snapshot? = some (registry.list.map fun rule => (rule, registry.configOf rule)) := by
  have hentries : ∀ entries : Entries Rule, (∀ entry ∈ entries, entry ∈ registry.rules) →
      entries.mapM (fun entry => (registry.config? entry.1).map (entry.2, ·))
        = some ((entries.map (·.2)).map fun rule => (rule, registry.configOf rule)) := by
    intro entries hmem
    induction entries with
    | nil => rfl
    | cons entry entries ih =>
        rw [List.forall_mem_cons] at hmem
        have hconfig := h.config?_eq (List.mem_map_of_mem hmem.1)
        rw [h.own_id entry hmem.1] at hconfig
        rw [List.mapM_cons, hconfig, ih hmem.2]
        rfl
  exact hentries registry.rules fun entry hentry => hentry

/-- A run finds the enabled rules whose language matches, each with its configuration. -/
theorem WellFormed.applicable?_eq {registry : RuleRegistry} (h : registry.WellFormed)
    (language : Language) :
    registry.applicable? language
      = some ((registry.enabledFor language).map fun rule => (rule, registry.configOf rule)) := by
  have hfilter : (registry.list.filter fun rule =>
        (registry.configOf rule).enabled && rule.info.appliesTo language)
      = registry.enabledFor language := by
    refine List.filter_congr fun rule hrule => ?_
    rw [isEnabled, h.config?_eq hrule]
    rfl
  rw [applicable?, h.snapshot?_eq, Option.map_some, List.filter_map, ← hfilter]
  rfl

/-- Rules with one identifier are one rule. -/
theorem WellFormed.eq_of_id_eq {registry : RuleRegistry} (h : registry.WellFormed)
    {rule other : Rule} (hrule : rule ∈ registry.list) (hother : other ∈ registry.list)
    (hid : rule.info.id = other.info.id) : rule = other := by
  obtain ⟨entry, hentry, rfl⟩ := List.mem_map.mp hrule
  obtain ⟨entry', hentry', rfl⟩ := List.mem_map.mp hother
  rw [h.own_id entry hentry, h.own_id entry' hentry'] at hid
  rw [List.inj_on_of_nodup_map h.nodup hentry hentry' hid]

/-- A rule that is run is among those with a property exactly if its identifier is among theirs. -/
theorem WellFormed.id_mem_filter_iff {registry : RuleRegistry} (h : registry.WellFormed)
    {language : Language} {rule : Rule} (hrule : rule ∈ registry.enabledFor language)
    {test : Rule → Bool} :
    rule.info.id ∈ ((registry.enabledFor language).filter test).map (·.info.id)
      ↔ test rule = true := by
  constructor
  · intro hid
    obtain ⟨other, hother, heq⟩ := List.mem_map.mp hid
    rw [List.mem_filter] at hother
    have hsame : other = rule :=
      h.eq_of_id_eq (List.mem_filter.mp hother.1).1 (List.mem_filter.mp hrule).1 heq
    rw [← hsame]
    exact hother.2
  · intro htest
    exact List.mem_map.mpr ⟨rule, List.mem_filter.mpr ⟨hrule, htest⟩, rfl⟩

/-! ## Removing rules -/

/-- Removing rules leaves the configurations of the others alone. -/
theorem config?_run_unregister (registry : RuleRegistry) {ids : List String} {id : String}
    (hid : id ∉ ids) : (registry.run (ids.map .unregister)).config? id = registry.config? id := by
  induction ids generalizing registry with
  | nil => rfl
  | cons removed ids ih =>
      rw [List.mem_cons, not_or] at hid
      calc (registry.run ((removed :: ids).map .unregister)).config? id
          = (registry.unregister removed).config? id := ih (registry.unregister removed) hid.2
        _ = registry.config? id := Entries.get?_erase_of_ne _ hid.1

theorem configOf_run_unregister (registry : RuleRegistry) {ids : List String} {rule : Rule}
    (hid : rule.info.id ∉ ids) :
    (registry.run (ids.map .unregister)).configOf rule = registry.configOf rule := by
  rw [configOf, configOf, config?_run_unregister registry hid]

/-- The other rules stay in their order. -/
theorem WellFormed.list_run_unregister {registry : RuleRegistry} (h : registry.WellFormed)
    (ids : List String) :
    (registry.run (ids.map .unregister)).list
      = registry.list.filter fun rule => !ids.contains rule.info.id := by
  induction ids generalizing registry with
  | nil =>
      rw [List.filter_eq_self.mpr (by simp)]
      rfl
  | cons removed ids ih =>
      have hlist : (registry.unregister removed).list
          = registry.list.filter fun rule => rule.info.id != removed := by
        rw [list, list, RuleRegistry.unregister, Entries.erase, List.filter_map]
        refine congrArg _ (List.filter_congr fun entry hentry => ?_)
        rw [Function.comp_apply, h.own_id entry hentry]
      calc (registry.run ((removed :: ids).map .unregister)).list
          = (registry.unregister removed).list.filter fun rule => !ids.contains rule.info.id :=
            ih (h.unregister removed)
        _ = registry.list.filter fun rule => !(removed :: ids).contains rule.info.id := by
            rw [hlist, List.filter_filter]
            refine List.filter_congr fun rule _ => ?_
            rw [List.contains_cons, Bool.not_or, Bool.and_comm]
            rfl

/-- When rules are removed, exactly these are no longer run. -/
theorem WellFormed.enabledFor_run_unregister {registry : RuleRegistry} (h : registry.WellFormed)
    (ids : List String) (language : Language) :
    (registry.run (ids.map .unregister)).enabledFor language
      = (registry.enabledFor language).filter fun rule => !ids.contains rule.info.id := by
  rw [enabledFor, h.list_run_unregister, enabledFor, List.filter_filter, List.filter_filter]
  refine List.filter_congr fun rule _ => ?_
  by_cases hid : rule.info.id ∈ ids
  · simp [hid]
  · rw [isEnabled, isEnabled, config?_run_unregister registry hid, Bool.and_comm]

end RuleRegistry

end ScriptAdvisor
