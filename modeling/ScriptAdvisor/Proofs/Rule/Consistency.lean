import Mathlib.Algebra.GroupWithZero.Nat
import ScriptAdvisor.Proofs.Rule.Registry

/-! # Registries are consistent

However a registry came about, its rules and its configurations go together. So listing the rules
with their configurations never fails, the counts add up, and it is settled where a rule stands
that is registered again.

* `Entries.put_of_mem_keys` and `Entries.put_of_notMem_keys` say what storing does to the whole list
  of entries, `Entries.sum_size_put` what it does to the sizes of the values, and `sum_foldl_tally`
  and `count_foldl_tally` what counting comes to.
* `WellFormed.stats?_eq`, `WellFormed.register_of_contains` and `unregister_register` say it of a
  registry.
* `run_consistent` puts this together for every history of a registry. -/

namespace ScriptAdvisor

/-! ## Entries -/

namespace Entries

variable {α : Type _}

/-- Among entries with different keys each one is found under its key. -/
theorem get?_of_mem {entries : Entries α} (hnodup : (keys entries).Nodup) {entry : String × α}
    (h : entry ∈ entries) : get? entries entry.1 = some entry.2 := by
  induction entries with
  | nil => exact absurd h List.not_mem_nil
  | cons first rest ih =>
      rw [keys_cons, List.nodup_cons] at hnodup
      rw [get?_cons]
      rcases List.mem_cons.mp h with rfl | h
      · rw [if_pos rfl]
      · have hother : first.1 ≠ entry.1 := by
          intro heq
          exact hnodup.1 (heq ▸ List.mem_map_of_mem h)
        rw [if_neg hother, ih hnodup.2 h]

theorem notMem_keys_erase (entries : Entries α) (key : String) :
    key ∉ keys (erase entries key) := by
  rw [← get?_isSome_iff, get?_erase_self]
  exact Bool.false_ne_true

/-- A new key goes to the end. -/
theorem put_of_notMem_keys {entries : Entries α} {key : String} (h : key ∉ keys entries)
    (value : α) : put entries key value = entries ++ [(key, value)] := by
  induction entries with
  | nil => rfl
  | cons first rest ih =>
      rw [keys_cons, List.mem_cons, not_or] at h
      rw [put, if_neg (Ne.symm h.1), ih h.2, List.cons_append]

/-- Among entries with different keys, storing under one of them replaces its value and leaves every
entry in its place. -/
theorem put_of_mem_keys {entries : Entries α} (hnodup : (keys entries).Nodup) {key : String}
    (h : key ∈ keys entries) (value : α) :
    put entries key value
      = entries.map fun entry => if entry.1 = key then (key, value) else entry := by
  induction entries with
  | nil => exact absurd h List.not_mem_nil
  | cons first rest ih =>
      rw [keys_cons, List.nodup_cons] at hnodup
      rw [put, List.map_cons]
      by_cases hkey : first.1 = key
      · -- the key does not occur again
        have hother : ∀ entry ∈ rest,
            (if entry.1 = key then (key, value) else entry) = entry := by
          intro entry hentry
          refine if_neg fun heq => hnodup.1 ?_
          rw [hkey, ← heq]
          exact List.mem_map_of_mem hentry
        rw [if_pos hkey, if_pos hkey, List.map_congr_left hother, List.map_id']
      · have hrest : key ∈ keys rest := (List.mem_cons.mp h).resolve_left (Ne.symm hkey)
        rw [if_neg hkey, if_neg hkey, ih hnodup.2 hrest]

/-- The sizes of the stored values together grow by the difference when a value is stored. -/
theorem sum_size_put (size : α → Nat) (entries : Entries α) (key : String) (value : α) :
    ((put entries key value).map fun entry => size entry.2).sum
        + ((get? entries key).map size).getD 0
      = (entries.map fun entry => size entry.2).sum + size value := by
  induction entries with
  | nil => simp [put]
  | cons first rest ih =>
      rw [put, get?_cons]
      by_cases hkey : first.1 = key
      · simp only [if_pos hkey, List.map_cons, List.sum_cons, Option.map_some, Option.getD_some]
        omega
      · simp only [if_neg hkey, List.map_cons, List.sum_cons]
        omega

end Entries

namespace RuleRegistry

/-! ## Counts -/

/-- All keys are counted. -/
theorem sum_foldl_tally (names : List String) (counts : Entries Nat) :
    ((names.foldl tally counts).map (·.2)).sum = (counts.map (·.2)).sum + names.length := by
  induction names generalizing counts with
  | nil => rfl
  | cons name names ih =>
      have hstep := Entries.sum_size_put id counts name ((Entries.get? counts name).getD 0 + 1)
      rw [Option.map_id, id_eq] at hstep
      rw [List.foldl_cons, ih, tally, List.length_cons]
      simp only [id_eq] at hstep
      omega

/-- Each key is counted as often as it occurs. -/
theorem count_foldl_tally (names : List String) (counts : Entries Nat) (key : String) :
    (Entries.get? (names.foldl tally counts) key).getD 0
      = (Entries.get? counts key).getD 0 + names.count key := by
  induction names generalizing counts with
  | nil => rfl
  | cons name names ih =>
      rw [List.foldl_cons, ih, tally, List.count_cons]
      by_cases hkey : name = key
      · rw [hkey, Entries.get?_put_self, Option.getD_some]
        simp only [beq_self_eq_true, if_true]
        omega
      · rw [Entries.get?_put_of_ne _ (Ne.symm hkey)]
        simp [hkey]

/-- What is counted and what is not make up the whole. -/
theorem countP_add_countP_not {α : Type _} (items : List α) (isCounted : α → Bool) :
    items.countP isCounted + items.countP (fun item => !isCounted item) = items.length := by
  rw [List.length_eq_countP_add_countP isCounted]
  refine congrArg _ (List.countP_congr fun item _ => ?_)
  rw [decide_eq_true_iff, Bool.not_eq_true', Bool.not_eq_true]

/-! ## Rules, configurations and counts -/

theorem contains_iff (registry : RuleRegistry) (id : String) :
    registry.contains id = true ↔ id ∈ Entries.keys registry.rules :=
  Entries.get?_isSome_iff _ _

variable {registry : RuleRegistry}

/-- A rule is registered exactly if it has a configuration. -/
theorem WellFormed.config?_isSome (h : registry.WellFormed) (id : String) :
    (registry.config? id).isSome = registry.contains id := by
  rw [Bool.eq_iff_iff, contains_iff, ← h.keys_eq]
  exact Entries.get?_isSome_iff _ _

/-- A registered rule is found under its identifier. -/
theorem WellFormed.get?_eq (h : registry.WellFormed) {rule : Rule} (hrule : rule ∈ registry.list) :
    registry.get? rule.info.id = some rule := by
  obtain ⟨entry, hentry, rfl⟩ := List.mem_map.mp hrule
  rw [h.own_id entry hentry]
  exact Entries.get?_of_mem h.nodup hentry

/-- The identifiers of the rules are the keys they are stored under. -/
theorem WellFormed.map_id_list (h : registry.WellFormed) :
    registry.list.map (·.info.id) = Entries.keys registry.rules := by
  rw [list, List.map_map]
  exact List.map_congr_left h.own_id

/-- The counts of a registry never fail, and count what they are called after. -/
theorem WellFormed.stats?_eq (h : registry.WellFormed) :
    registry.stats? = some
      { total := registry.list.length
        enabled := registry.list.countP fun rule => registry.isEnabled rule.info.id
        disabled := registry.list.countP fun rule => !registry.isEnabled rule.info.id
        byCategory := (registry.list.map fun rule => rule.info.category.name).foldl tally [] } := by
  have henabled : registry.list.countP (fun rule => (registry.configOf rule).enabled)
      = registry.list.countP fun rule => registry.isEnabled rule.info.id := by
    refine List.countP_congr fun rule hrule => ?_
    rw [isEnabled, h.config?_eq hrule]
    rfl
  have hdisabled : registry.list.length
        - registry.list.countP (fun rule => registry.isEnabled rule.info.id)
      = registry.list.countP fun rule => !registry.isEnabled rule.info.id := by
    rw [← countP_add_countP_not registry.list fun rule => registry.isEnabled rule.info.id,
      Nat.add_sub_cancel_left]
  rw [stats?, h.snapshot?_eq, Option.map_some, ← hdisabled, ← henabled]
  simp only [List.length_map, List.countP_map, List.map_map]
  rfl

/-! ## Registering again -/

/-- A rule that is registered again takes the place of the earlier one, and keeps its
configuration. -/
theorem WellFormed.register_of_contains (h : registry.WellFormed) {rule : Rule}
    (hknown : registry.contains rule.info.id = true) :
    (registry.register rule).rules
        = registry.rules.map (fun entry =>
            if entry.1 = rule.info.id then (rule.info.id, rule) else entry)
      ∧ (registry.register rule).configs = registry.configs := by
  have hconfig := h.config?_isSome rule.info.id
  rw [hknown] at hconfig
  obtain ⟨config, hconfig⟩ := Option.isSome_iff_exists.mp hconfig
  constructor
  · exact Entries.put_of_mem_keys h.nodup ((registry.contains_iff _).mp hknown) rule
  · rw [config?] at hconfig
    rw [RuleRegistry.register, hconfig]

/-- A rule that is removed and registered again stands at the end, and is configured anew. -/
theorem unregister_register (registry : RuleRegistry) (rule : Rule) :
    ((registry.unregister rule.info.id).register rule).rules
        = Entries.erase registry.rules rule.info.id ++ [(rule.info.id, rule)]
      ∧ ((registry.unregister rule.info.id).register rule).configs
        = Entries.erase registry.configs rule.info.id
          ++ [(rule.info.id, { enabled := true, severity := none, options := [] })] := by
  constructor
  · exact Entries.put_of_notMem_keys (Entries.notMem_keys_erase _ _) rule
  · rw [RuleRegistry.register, unregister]
    simp only [Entries.get?_erase_self]
    exact Entries.put_of_notMem_keys (Entries.notMem_keys_erase _ _) _

/-! ## Every history -/

/-- Names tell categories apart. -/
theorem count_map_category_name (rules : List Rule) (category : Category) :
    (rules.map fun rule => rule.info.category.name).count category.name
      = rules.countP fun rule => rule.info.category == category := by
  rw [List.count, List.countP_map]
  refine List.countP_congr fun rule _ => ?_
  have hinj : rule.info.category.name = category.name ↔ rule.info.category = category := by
    refine ⟨fun hname => ?_, congrArg _⟩
    have hsome := congrArg Category.ofName? hname
    rw [Category.ofName?_name, Category.ofName?_name] at hsome
    exact Option.some.inj hsome
  rw [Function.comp_apply, beq_iff_eq, beq_iff_eq, hinj]

/-- Every history of a registry leaves rules and configurations with the same identifiers in the
same order, none of them twice, and every rule under its own. So a snapshot never fails and lists
every rule once with its configuration, and the counts add up. A registered rule that is registered
again keeps its place and its configuration; one that is removed before goes to the end and gets the
default configuration. -/
theorem run_consistent (operations : List RuleOperation) :
    let registry := run {} operations
    (Entries.keys registry.configs = Entries.keys registry.rules
        ∧ (Entries.keys registry.rules).Nodup
        ∧ ∀ entry ∈ registry.rules, entry.2.info.id = entry.1)
      ∧ (∃ pairs, registry.snapshot? = some pairs
        ∧ pairs.map (·.1) = registry.list
        ∧ (pairs.map (·.1.info.id)).Nodup
        ∧ ∀ pair ∈ pairs, registry.get? pair.1.info.id = some pair.1
          ∧ registry.config? pair.1.info.id = some pair.2)
      ∧ (∃ stats, registry.stats? = some stats
        ∧ stats.enabled + stats.disabled = stats.total
        ∧ (stats.byCategory.map (·.2)).sum = stats.total
        ∧ stats.total = registry.size
        ∧ stats.enabled = registry.list.countP (fun rule => registry.isEnabled rule.info.id)
        ∧ ∀ category : Category, (Entries.get? stats.byCategory category.name).getD 0
            = registry.list.countP fun rule => rule.info.category == category)
      ∧ (∀ rule, registry.contains rule.info.id = true →
        (registry.register rule).rules
            = registry.rules.map (fun entry =>
                if entry.1 = rule.info.id then (rule.info.id, rule) else entry)
          ∧ (registry.register rule).configs = registry.configs)
      ∧ ∀ rule,
        ((registry.unregister rule.info.id).register rule).rules
            = registry.rules.filter (fun entry => entry.1 != rule.info.id) ++ [(rule.info.id, rule)]
          ∧ ((registry.unregister rule.info.id).register rule).configs
            = registry.configs.filter (fun entry => entry.1 != rule.info.id)
              ++ [(rule.info.id, { enabled := true, severity := none, options := [] })] := by
  intro registry
  have hwell : registry.WellFormed := wellFormed_run operations
  refine ⟨⟨hwell.keys_eq, hwell.nodup, hwell.own_id⟩, ⟨_, hwell.snapshot?_eq, ?_, ?_, ?_⟩,
    ⟨_, hwell.stats?_eq, ?_, ?_, ?_, rfl, ?_⟩, fun rule => hwell.register_of_contains,
    registry.unregister_register⟩
  · rw [List.map_map]
    exact List.map_id _
  · rw [List.map_map]
    exact hwell.map_id_list ▸ hwell.nodup
  · intro pair hpair
    obtain ⟨rule, hrule, rfl⟩ := List.mem_map.mp hpair
    exact ⟨hwell.get?_eq hrule, hwell.config?_eq hrule⟩
  · exact countP_add_countP_not _ _
  · rw [sum_foldl_tally, List.length_map]
    exact Nat.zero_add _
  · exact List.length_map _
  · intro category
    rw [count_foldl_tally, count_map_category_name]
    exact Nat.zero_add _

/-- The first of two rules, which is disabled, registered again and removed before that. -/
theorem run_consistent_first_of_two :
    let rule := fun id : String => Rule.mk { (default : RuleInfo) with id } fun _ => .nothing
    let registry := run {} [.register (rule "a"), .register (rule "b"), .disable "a"]
    Entries.keys (registry.register (rule "a")).rules = ["a", "b"]
      ∧ (registry.register (rule "a")).isEnabled "a" = false
      ∧ Entries.keys ((registry.unregister "a").register (rule "a")).rules = ["b", "a"]
      ∧ ((registry.unregister "a").register (rule "a")).isEnabled "a" = true := by
  intro rule registry
  obtain ⟨-, -, -, hagain, hanew⟩ :=
    run_consistent [.register (rule "a"), .register (rule "b"), .disable "a"]
  have hkept := hagain (rule "a") rfl
  have hmoved := hanew (rule "a")
  refine ⟨?_, ?_, ?_, ?_⟩
  · exact (congrArg Entries.keys hkept.1).trans rfl
  · exact (congrArg (fun configs => ((Entries.get? configs "a").map (·.enabled)).getD false)
      hkept.2).trans rfl
  · exact (congrArg Entries.keys hmoved.1).trans rfl
  · exact (congrArg (fun configs => ((Entries.get? configs "a").map (·.enabled)).getD false)
      hmoved.2).trans rfl

end RuleRegistry

end ScriptAdvisor
