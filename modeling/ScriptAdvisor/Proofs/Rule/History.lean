import Mathlib.Data.List.Induction
import ScriptAdvisor.Proofs.Rule.Consistency
import ScriptAdvisor.Proofs.Rule.Disabling

/-! # What a history leaves of a rule

Operations on one registry may come from several clients, in any order. What they leave of a rule is
decided by the operations on this rule alone: its configuration holds what was written last since
the rule became registered.

* `RuleOperation.effect` is what an operation makes of its own rule. `RuleRegistry.known_apply` says
  that one operation does this and nothing else, and `RuleRegistry.known_run` says it of a history.
* `lastWritten` is the last value that operations write, and `foldl_effect` says that this is what
  is left as long as the rule is not removed.
* `Interleaves` relates the operations of clients to an order in which they are carried out, and
  `RuleRegistry.run_interleaved` puts this together. -/

namespace ScriptAdvisor

/-! ## Operations -/

/-- The parts of a configuration. -/
inductive ConfigField where
  /-- Whether the rule is run. -/
  | enabled
  /-- The severity of its findings. -/
  | severity
  /-- Its options. -/
  | options
  deriving DecidableEq, Repr

namespace RuleOperation

/-- The rule an operation is about. -/
def target : RuleOperation → String
  | register rule => rule.info.id
  | unregister id | enable id | disable id | setSeverity id _ | setOptions id _ => id

/-- The part of the configuration that an operation writes. -/
def field? : RuleOperation → Option ConfigField
  | register _ | unregister _ => none
  | enable _ | disable _ => some .enabled
  | setSeverity _ _ => some .severity
  | setOptions _ _ => some .options

/-- The rule that an operation registers. -/
def rule? : RuleOperation → Option Rule
  | register rule => some rule
  | _ => none

/-- What an operation writes about whether the rule is run. -/
def enabled? : RuleOperation → Option Bool
  | enable _ => some true
  | disable _ => some false
  | _ => none

/-- What an operation writes as the severity. -/
def severity? : RuleOperation → Option (Option Severity)
  | setSeverity _ severity => some severity
  | _ => none

/-- What an operation writes as the options. -/
def options? : RuleOperation → Option (Entries Yaml.Value)
  | setOptions _ options => some options
  | _ => none

/-- The configuration with what an operation writes. -/
def change (operation : RuleOperation) (config : RuleConfig) : RuleConfig :=
  { enabled := operation.enabled?.getD config.enabled
    severity := operation.severity?.getD config.severity
    options := operation.options?.getD config.options }

/-- What an operation makes of its rule and the configuration of that. -/
def effect : RuleOperation → Option Rule × Option RuleConfig → Option Rule × Option RuleConfig
  | register rule, (_, config) => (some rule, some (config.getD {}))
  | unregister _, _ => (none, none)
  | operation, (rule, config) => (rule, config.map operation.change)

/-- An operation that writes a part of the configuration changes the configuration and nothing
else. -/
theorem apply_of_field? {operation : RuleOperation} (h : operation.field?.isSome = true)
    (registry : RuleRegistry) :
    registry.apply operation = registry.configure operation.target operation.change := by
  cases operation with
  | register rule => exact absurd h Bool.false_ne_true
  | unregister id => exact absurd h Bool.false_ne_true
  | enable id => rfl
  | disable id => rfl
  | setSeverity id severity => rfl
  | setOptions id options => rfl

/-- Operations that write different parts can change places. -/
theorem change_comm {first second : RuleOperation} (h : first.field? ≠ second.field?)
    (config : RuleConfig) :
    first.change (second.change config) = second.change (first.change config) := by
  cases first <;> cases second <;> simp_all [field?, change, enabled?, severity?, options?]

/-- What an operation makes of a registered rule, unless it removes the rule. -/
theorem effect_of_ne_unregister {operation : RuleOperation}
    (h : operation ≠ .unregister operation.target) (rule : Rule) (config : RuleConfig) :
    operation.effect (some rule, some config)
      = (some (operation.rule?.getD rule), some (operation.change config)) := by
  cases operation with
  | unregister id => exact absurd rfl h
  | register rule => rfl
  | enable id => rfl
  | disable id => rfl
  | setSeverity id severity => rfl
  | setOptions id options => rfl

end RuleOperation

/-! ## One rule -/

/-- Storing twice under a key is storing the second value. -/
theorem Entries.put_put {α : Type _} (entries : Entries α) (key : String) (first second : α) :
    put (put entries key first) key second = put entries key second := by
  induction entries with
  | nil => simp [put]
  | cons entry rest ih =>
      by_cases hkey : entry.1 = key
      · simp [put, hkey]
      · simp [put, hkey, ih]

namespace RuleRegistry

/-- What a registry knows of an identifier: its rule and the configuration. -/
def known (registry : RuleRegistry) (id : String) : Option Rule × Option RuleConfig :=
  (registry.get? id, registry.config? id)

theorem known_configure (registry : RuleRegistry) (operation : RuleOperation) (id : String) :
    (registry.configure operation.target operation.change).known id
      = if operation.target = id then
          ((registry.known id).1, (registry.known id).2.map operation.change)
        else registry.known id := by
  rw [known, get?, rules_configure, config?_configure]
  by_cases hid : operation.target = id
  · rw [if_pos hid]
    simp only [if_pos hid.symm]
    rfl
  · rw [if_neg hid]
    simp only [if_neg (Ne.symm hid), Option.map_id']
    rfl

theorem known_register (registry : RuleRegistry) (rule : Rule) (id : String) :
    (registry.register rule).known id
      = if rule.info.id = id then (some rule, some ((registry.known id).2.getD {}))
        else registry.known id := by
  by_cases hid : rule.info.id = id
  · subst hid
    rw [if_pos rfl, known, get?, config?, RuleRegistry.register, Entries.get?_put_self]
    cases hconfig : Entries.get? registry.configs rule.info.id with
    | none => simp only [known, config?, hconfig, Entries.get?_put_self, Option.getD_none]
    | some config => simp only [known, config?, hconfig, Option.getD_some]
  · rw [if_neg hid, known, get?, config?, RuleRegistry.register,
      Entries.get?_put_of_ne _ (Ne.symm hid)]
    cases hconfig : Entries.get? registry.configs rule.info.id with
    | none => simp only [Entries.get?_put_of_ne _ (Ne.symm hid)]; rfl
    | some config => rfl

theorem known_unregister (registry : RuleRegistry) (removed id : String) :
    (registry.unregister removed).known id
      = if removed = id then (none, none) else registry.known id := by
  by_cases hid : removed = id
  · rw [if_pos hid, hid, known, get?, config?, unregister, Entries.get?_erase_self,
      Entries.get?_erase_self]
  · rw [if_neg hid, known, get?, config?, unregister, Entries.get?_erase_of_ne _ (Ne.symm hid),
      Entries.get?_erase_of_ne _ (Ne.symm hid)]
    rfl

/-- An operation has its effect on its own rule, and leaves the others alone. -/
theorem known_apply (registry : RuleRegistry) (operation : RuleOperation) (id : String) :
    (registry.apply operation).known id
      = if operation.target = id then operation.effect (registry.known id)
        else registry.known id := by
  cases operation with
  | register rule => exact registry.known_register rule id
  | unregister removed => exact registry.known_unregister removed id
  | enable changed => exact registry.known_configure (.enable changed) id
  | disable changed => exact registry.known_configure (.disable changed) id
  | setSeverity changed severity =>
      exact registry.known_configure (.setSeverity changed severity) id
  | setOptions changed options => exact registry.known_configure (.setOptions changed options) id

/-- What is known of a rule after a history are the effects of the operations on it. -/
theorem known_run (registry : RuleRegistry) (operations : List RuleOperation) (id : String) :
    (registry.run operations).known id
      = (operations.filter (·.target == id)).foldl (fun known operation => operation.effect known)
          (registry.known id) := by
  induction operations generalizing registry with
  | nil => rfl
  | cons operation operations ih =>
      have hrest := ih (registry.apply operation)
      rw [known_apply] at hrest
      by_cases hid : operation.target = id
      · rw [if_pos hid] at hrest
        rw [List.filter_cons_of_pos (by simpa using hid)]
        exact hrest
      · rw [if_neg hid] at hrest
        rw [List.filter_cons_of_neg (by simpa using hid)]
        exact hrest

/-- The operations on other rules do not matter. -/
theorem known_run_filter (registry : RuleRegistry) (operations : List RuleOperation)
    (id : String) :
    (registry.run (operations.filter (·.target == id))).known id
      = (registry.run operations).known id := by
  rw [known_run, known_run, List.filter_filter]
  simp only [Bool.and_self]

end RuleRegistry

/-! ## The last write -/

/-- The last value that operations write, or the given one if they write none. -/
def lastWritten {α : Type _} (written? : RuleOperation → Option α)
    (operations : List RuleOperation) (default : α) : α :=
  (operations.filterMap written?).getLast?.getD default

/-- What the first operation writes is left if no later one writes. -/
theorem lastWritten_cons {α : Type _} (written? : RuleOperation → Option α)
    (operation : RuleOperation) (operations : List RuleOperation) (default : α) :
    lastWritten written? (operation :: operations) default
      = lastWritten written? operations ((written? operation).getD default) := by
  rw [lastWritten, lastWritten, List.filterMap_cons]
  cases written? operation with
  | none => rfl
  | some value =>
      rw [List.getLast?_cons, Option.getD_some, Option.getD_some]

/-- Operations that do not remove a registered rule leave of it what they write last. -/
theorem foldl_effect {operations : List RuleOperation}
    (h : ∀ operation ∈ operations, operation ≠ .unregister operation.target) (rule : Rule)
    (config : RuleConfig) :
    operations.foldl (fun known operation => operation.effect known) (some rule, some config)
      = (some (lastWritten RuleOperation.rule? operations rule),
          some
            { enabled := lastWritten RuleOperation.enabled? operations config.enabled
              severity := lastWritten RuleOperation.severity? operations config.severity
              options := lastWritten RuleOperation.options? operations config.options }) := by
  induction operations generalizing rule config with
  | nil => rfl
  | cons operation operations ih =>
      rw [List.forall_mem_cons] at h
      rw [List.foldl_cons, RuleOperation.effect_of_ne_unregister h.1, ih h.2]
      simp only [lastWritten_cons, RuleOperation.change]

/-! ## Since a rule became registered -/

namespace RuleRegistry

/-- In a history the identifier last became registered by `rule`, and `since` is what has happened
since then: it was not registered before, and has not been removed after. -/
def RegisteredSince (operations : List RuleOperation) (id : String) (rule : Rule)
    (since : List RuleOperation) : Prop :=
  ∃ before, operations = before ++ .register rule :: since ∧ rule.info.id = id
    ∧ (run {} before).contains id = false ∧ .unregister id ∉ since

/-- Nothing is known of an identifier that is not registered. -/
theorem WellFormed.known_of_not_contains {registry : RuleRegistry} (h : registry.WellFormed)
    {id : String} (hnew : registry.contains id = false) : registry.known id = (none, none) := by
  have hconfig := h.config?_isSome id
  rw [hnew, Option.isSome_eq_false_iff, Option.isNone_iff_eq_none] at hconfig
  rw [contains, Option.isSome_eq_false_iff, Option.isNone_iff_eq_none] at hnew
  rw [known, hnew, hconfig]

/-- What is known of a rule is what was written last since it became registered. -/
theorem RegisteredSince.known_run {operations : List RuleOperation} {id : String} {rule : Rule}
    {since : List RuleOperation} (h : RegisteredSince operations id rule since) :
    let own := since.filter (·.target == id)
    (run {} operations).known id
      = (some (lastWritten RuleOperation.rule? own rule),
          some
            { enabled := lastWritten RuleOperation.enabled? own true
              severity := lastWritten RuleOperation.severity? own none
              options := lastWritten RuleOperation.options? own [] }) := by
  intro own
  obtain ⟨before, rfl, rfl, hnew, hkept⟩ := h
  have hstart : ((run {} before).apply (.register rule)).known rule.info.id
      = (some rule, some {}) := by
    rw [known_apply, (wellFormed_run before).known_of_not_contains hnew]
    exact if_pos rfl
  have hsplit : run {} (before ++ .register rule :: since)
      = ((run {} before).apply (.register rule)).run since := List.foldl_append
  rw [hsplit, RuleRegistry.known_run, hstart]
  refine foldl_effect (fun operation hoperation hremoved => ?_) rule {}
  rw [List.mem_filter, beq_iff_eq] at hoperation
  rw [hoperation.2] at hremoved
  exact hkept (hremoved ▸ hoperation.1)

theorem contains_unregister (registry : RuleRegistry) (id : String) :
    (registry.unregister id).contains id = false := by
  rw [contains, get?, unregister, Entries.get?_erase_self]
  rfl

/-- A rule that is registered after an operation was registered before, or is registered by it. -/
theorem WellFormed.eq_register_of_apply {registry : RuleRegistry} (h : registry.WellFormed)
    {operation : RuleOperation} {id : String} (hnew : registry.contains id = false)
    (hafter : (registry.apply operation).contains id = true) :
    ∃ rule, operation = .register rule ∧ rule.info.id = id := by
  have hknown := registry.known_apply operation id
  rw [h.known_of_not_contains hnew] at hknown
  have hsome : ((registry.apply operation).known id).1.isSome = true := hafter
  rw [hknown] at hsome
  by_cases hid : operation.target = id
  · rw [if_pos hid] at hsome
    cases operation with
    | register rule => exact ⟨rule, rfl, hid⟩
    | unregister removed => exact absurd hsome Bool.false_ne_true
    | enable changed => exact absurd hsome Bool.false_ne_true
    | disable changed => exact absurd hsome Bool.false_ne_true
    | setSeverity changed severity => exact absurd hsome Bool.false_ne_true
    | setOptions changed options => exact absurd hsome Bool.false_ne_true
  · rw [if_neg hid] at hsome
    exact absurd hsome Bool.false_ne_true

/-- A registered rule became registered at some moment, and was not removed since. -/
theorem exists_registeredSince {operations : List RuleOperation} {id : String}
    (h : (run {} operations).contains id = true) :
    ∃ rule since, RegisteredSince operations id rule since := by
  -- the last operation either found the rule registered, or registered it
  induction operations using List.reverseRecOn with
  | nil => exact absurd h Bool.false_ne_true
  | append_singleton operations operation ih =>
      have hlast : run {} (operations ++ [operation]) = (run {} operations).apply operation :=
        List.foldl_append
      rw [hlast] at h
      cases hbefore : (run {} operations).contains id with
      | true =>
          obtain ⟨rule, since, before, rfl, hid, hnew, hkept⟩ := ih hbefore
          refine ⟨rule, since ++ [operation], before, ?_, hid, hnew, ?_⟩
          · rw [List.append_assoc, List.cons_append]
          · intro hremoved
            rcases List.mem_append.mp hremoved with hremoved | hremoved
            · exact hkept hremoved
            · rw [← List.mem_singleton.mp hremoved, apply, contains_unregister] at h
              exact absurd h Bool.false_ne_true
      | false =>
          obtain ⟨rule, rfl, hid⟩ := (wellFormed_run operations).eq_register_of_apply hbefore h
          exact ⟨rule, [], operations, rfl, hid, hbefore, List.not_mem_nil⟩

/-! ## Writing to the configuration -/

/-- Two changes to one configuration, one after the other, are one change. -/
theorem configure_configure (registry : RuleRegistry) (id : String)
    (first second : RuleConfig → RuleConfig) :
    (registry.configure id first).configure id second
      = registry.configure id fun config => second (first config) := by
  cases hconfig : Entries.get? registry.configs id with
  | none => simp only [configure, hconfig]
  | some config => simp only [configure, hconfig, Entries.get?_put_self, Entries.put_put]

/-- Operations that write different parts of one configuration can change places. -/
theorem apply_apply_comm (registry : RuleRegistry) {first second : RuleOperation}
    (htarget : first.target = second.target) (hfirst : first.field?.isSome = true)
    (hsecond : second.field?.isSome = true) (hfields : first.field? ≠ second.field?) :
    (registry.apply first).apply second = (registry.apply second).apply first := by
  rw [first.apply_of_field? hfirst, second.apply_of_field? hsecond,
    second.apply_of_field? hsecond, first.apply_of_field? hfirst, htarget, configure_configure,
    configure_configure]
  refine congrArg _ (funext fun config => ?_)
  exact (RuleOperation.change_comm hfields config).symm

/-- Writing to the configuration of a rule that is not registered does nothing. -/
theorem WellFormed.apply_of_not_contains {registry : RuleRegistry} (h : registry.WellFormed)
    {operation : RuleOperation} (hfield : operation.field?.isSome = true)
    (hnew : registry.contains operation.target = false) : registry.apply operation = registry := by
  have hnone : Entries.get? registry.configs operation.target = none :=
    congrArg Prod.snd (h.known_of_not_contains hnew)
  rw [operation.apply_of_field? hfield, RuleRegistry.configure, hnone]

end RuleRegistry

/-! ## Clients -/

section Clients

variable {Client : Type} [DecidableEq Client]

/-- The order in which the operations of clients are carried out: each client's come in the order
in which the client asks for them. -/
def Interleaves (programs : Client → List RuleOperation)
    (schedule : List (Client × RuleOperation)) : Prop :=
  ∀ client, (schedule.filter (·.1 == client)).map (·.2) = programs client

/-- If only one client is about a rule, the operations on the rule are those of this client. -/
theorem Interleaves.filter_eq {programs : Client → List RuleOperation}
    {schedule : List (Client × RuleOperation)} (h : Interleaves programs schedule)
    {client : Client} {id : String}
    (hsole : ∀ other, other ≠ client → ∀ operation ∈ programs other, operation.target ≠ id) :
    (schedule.map (·.2)).filter (·.target == id)
      = (programs client).filter (·.target == id) := by
  rw [← h client, List.filter_map, List.filter_map, List.filter_filter]
  refine congrArg _ (List.filter_congr fun event hevent => ?_)
  cases hid : event.2.target == id with
  | false => simp [hid]
  | true =>
      have hclient : event.1 = client := by
        by_contra hother
        have hasked : event.2 ∈ programs event.1 := by
          rw [← h event.1]
          exact List.mem_map_of_mem (List.mem_filter.mpr ⟨hevent, beq_self_eq_true _⟩)
        exact hsole event.1 hother event.2 hasked (eq_of_beq hid)
      simp [hid, hclient]

/-- However the operations of clients come together, what is left of a rule is what the operations
on it leave, and if these come from one client, what this client alone would leave. A rule that is
not registered has no configuration. Of one that is, the configuration holds what was written last
since the rule became registered, or else the default. Operations that write different parts of a
configuration can change places, and those on a rule that is not registered can be left out. -/
theorem RuleRegistry.run_interleaved (programs : Client → List RuleOperation)
    (schedule : List (Client × RuleOperation)) (h : Interleaves programs schedule) (id : String) :
    let operations := schedule.map (·.2)
    let own := fun operations : List RuleOperation => operations.filter (·.target == id)
    let registry := run {} operations
    (∀ start : RuleRegistry,
        (start.run operations).get? id = (start.run (own operations)).get? id
          ∧ (start.run operations).config? id = (start.run (own operations)).config? id)
      ∧ (∀ client,
        (∀ other, other ≠ client → ∀ operation ∈ programs other, operation.target ≠ id) →
          ∀ start : RuleRegistry,
            (start.run operations).get? id = (start.run (programs client)).get? id
              ∧ (start.run operations).config? id = (start.run (programs client)).config? id)
      ∧ (registry.get? id = none ∧ registry.config? id = none
        ∨ ∃ rule since, RegisteredSince operations id rule since)
      ∧ (∀ rule since, RegisteredSince operations id rule since →
        registry.get? id = some (lastWritten RuleOperation.rule? (own since) rule)
          ∧ registry.config? id = some
            { enabled := lastWritten RuleOperation.enabled? (own since) true
              severity := lastWritten RuleOperation.severity? (own since) none
              options := lastWritten RuleOperation.options? (own since) [] })
      ∧ (∀ first second : RuleOperation, first.target = id → second.target = id →
        first.field?.isSome = true → second.field?.isSome = true → first.field? ≠ second.field? →
          ∀ start : RuleRegistry,
            (start.apply first).apply second = (start.apply second).apply first)
      ∧ ∀ before (operation : RuleOperation) after, operation.target = id →
        operation.field?.isSome = true → (run {} before).contains id = false →
          run {} (before ++ operation :: after) = run {} (before ++ after) := by
  intro operations own registry
  refine ⟨?_, ?_, ?_, ?_, ?_, ?_⟩
  · intro start
    exact Prod.mk.inj (start.known_run_filter operations id).symm
  · intro client hsole start
    have hknown : (start.run operations).known id = (start.run (programs client)).known id := by
      rw [known_run, known_run, h.filter_eq hsole]
    exact Prod.mk.inj hknown
  · cases hknown : registry.contains id with
    | false => exact Or.inl (Prod.mk.inj ((wellFormed_run operations).known_of_not_contains hknown))
    | true => exact Or.inr (exists_registeredSince hknown)
  · intro rule since hsince
    exact Prod.mk.inj hsince.known_run
  · intro first second hfirst hsecond hwrites hwrites' hfields start
    exact start.apply_apply_comm (hfirst.trans hsecond.symm) hwrites hwrites' hfields
  · intro before operation after htarget hfield hnew
    have hstep := (wellFormed_run before).apply_of_not_contains hfield (htarget.symm ▸ hnew)
    calc run {} (before ++ operation :: after)
        = ((run {} before).apply operation).run after := List.foldl_append
      _ = (run {} before).run after := by rw [hstep]
      _ = run {} (before ++ after) := List.foldl_append.symm

end Clients

/-- Two clients with a rule each. The first registers its rule again after it was disabled, between
the operations of the second. -/
theorem RuleRegistry.run_interleaved_two_clients :
    let rule := fun id : String => Rule.mk { (default : RuleInfo) with id } fun _ => .nothing
    let programs := fun first : Bool =>
      if first then [.register (rule "a"), .disable "a", .register (rule "a")]
      else [RuleOperation.register (rule "b"), .setSeverity "b" (some .high)]
    let schedule :=
      [(false, .register (rule "b")), (true, .register (rule "a")), (true, .disable "a"),
        (false, .setSeverity "b" (some .high)), (true, RuleOperation.register (rule "a"))]
    Interleaves programs schedule
      ∧ (run {} (schedule.map (·.2))).config? "a"
        = some { enabled := false, severity := none, options := [] }
      ∧ (run {} (schedule.map (·.2))).config? "b" = (run {} (programs false)).config? "b" := by
  intro rule programs schedule
  have hclients : Interleaves programs schedule := by
    intro first
    cases first <;> rfl
  obtain ⟨-, -, -, hwritten, -, -⟩ := run_interleaved programs schedule hclients "a"
  obtain ⟨-, hsole, -, -, -, -⟩ := run_interleaved programs schedule hclients "b"
  refine ⟨hclients, ?_, ?_⟩
  · exact (hwritten (rule "a") _ ⟨[.register (rule "b")], rfl, rfl, rfl, by simp⟩).2
  · refine (hsole false (fun first hfirst => ?_) {}).2
    cases first with
    | false => exact absurd rfl hfirst
    | true => simp [programs, rule, RuleOperation.target]

end ScriptAdvisor
