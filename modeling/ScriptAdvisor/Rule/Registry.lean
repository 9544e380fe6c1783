import ScriptAdvisor.Rule.Basic

/-! # The rule registry

Rules by identifier, in the order of registration, and beside them their configurations.
Registering an identifier again replaces the rule and keeps its configuration; a change to an
unknown identifier has no effect.

* `RuleRegistry` and `RuleConfig` are the types.
* `RuleOperation` lists the operations, `RuleRegistry.apply` and `RuleRegistry.run` carry them out.
* `RuleRegistry.snapshot?` pairs each rule with its configuration. -/

namespace ScriptAdvisor

/-- The configuration of a rule. -/
structure RuleConfig where
  /-- Whether the rule is run. -/
  enabled : Bool := true
  /-- The severity of its findings, if it differs from that of the rule. -/
  severity : Option Severity := none
  /-- Its options. -/
  options : Entries Yaml.Value := []
  deriving Inhabited

/-- Rules and their configurations. -/
structure RuleRegistry where
  /-- The rules by identifier. -/
  rules : Entries Rule := []
  /-- The configurations by identifier. -/
  configs : Entries RuleConfig := []
  deriving Inhabited

/-- A change to a registry. -/
inductive RuleOperation where
  /-- Add or replace a rule. -/
  | register (rule : Rule)
  /-- Remove a rule and its configuration. -/
  | unregister (id : String)
  /-- Have a rule run. -/
  | enable (id : String)
  /-- Have a rule not run. -/
  | disable (id : String)
  /-- Give the findings of a rule a severity, or their own again. -/
  | setSeverity (id : String) (severity : Option Severity)
  /-- Give a rule other options. -/
  | setOptions (id : String) (options : Entries Yaml.Value)

namespace RuleRegistry

/-- Add a rule, or replace the one with its identifier. -/
def register (registry : RuleRegistry) (rule : Rule) : RuleRegistry :=
  { rules := Entries.put registry.rules rule.info.id rule
    configs :=
      match Entries.get? registry.configs rule.info.id with
      | some _ => registry.configs
      | none => Entries.put registry.configs rule.info.id {} }

/-- Remove a rule and its configuration. -/
def unregister (registry : RuleRegistry) (id : String) : RuleRegistry :=
  { rules := Entries.erase registry.rules id, configs := Entries.erase registry.configs id }

/-- Change the configuration of a rule, if it has one. -/
def configure (registry : RuleRegistry) (id : String) (change : RuleConfig → RuleConfig) :
    RuleRegistry :=
  match Entries.get? registry.configs id with
  | none => registry
  | some config => { registry with configs := Entries.put registry.configs id (change config) }

/-- Have a rule run. -/
def enable (registry : RuleRegistry) (id : String) : RuleRegistry :=
  registry.configure id fun config => { config with enabled := true }

/-- Have a rule not run. -/
def disable (registry : RuleRegistry) (id : String) : RuleRegistry :=
  registry.configure id fun config => { config with enabled := false }

/-- Give the findings of a rule a severity, or their own again. -/
def setSeverity (registry : RuleRegistry) (id : String) (severity : Option Severity) :
    RuleRegistry :=
  registry.configure id fun config => { config with severity }

/-- Give a rule other options. -/
def setOptions (registry : RuleRegistry) (id : String) (options : Entries Yaml.Value) :
    RuleRegistry :=
  registry.configure id fun config => { config with options }

/-- Carry out one change. -/
def apply (registry : RuleRegistry) : RuleOperation → RuleRegistry
  | .register rule => registry.register rule
  | .unregister id => registry.unregister id
  | .enable id => registry.enable id
  | .disable id => registry.disable id
  | .setSeverity id severity => registry.setSeverity id severity
  | .setOptions id options => registry.setOptions id options

/-- Carry out changes one after the other. -/
def run (registry : RuleRegistry) (operations : List RuleOperation) : RuleRegistry :=
  operations.foldl apply registry

/-- The registry of the given rules. -/
def ofRules (rules : List Rule) : RuleRegistry := rules.foldl register {}

/-- The rule with an identifier. -/
def get? (registry : RuleRegistry) (id : String) : Option Rule := Entries.get? registry.rules id

/-- The configuration of a rule. -/
def config? (registry : RuleRegistry) (id : String) : Option RuleConfig :=
  Entries.get? registry.configs id

/-- Whether a rule is registered and run. -/
def isEnabled (registry : RuleRegistry) (id : String) : Bool :=
  ((registry.config? id).map (·.enabled)).getD false

/-- Whether a rule is registered. -/
def contains (registry : RuleRegistry) (id : String) : Bool := (registry.get? id).isSome

/-- The rules in order of registration. -/
def list (registry : RuleRegistry) : List Rule := registry.rules.map (·.2)

/-- The number of rules. -/
def size (registry : RuleRegistry) : Nat := registry.rules.length

/-- The rules with their configurations, in order of registration. There is none if a rule lacks a
configuration. -/
def snapshot? (registry : RuleRegistry) : Option (List (Rule × RuleConfig)) :=
  registry.rules.mapM fun entry => (registry.config? entry.1).map (entry.2, ·)

/-- How many rules there are, by state and by category. -/
structure Stats where
  /-- All rules. -/
  total : Nat
  /-- Those that are run. -/
  enabled : Nat
  /-- Those that are not. -/
  disabled : Nat
  /-- The number of rules of each category that occurs, in order of first occurrence. -/
  byCategory : Entries Nat
  deriving DecidableEq, Repr, Inhabited

/-- One more under a key. -/
def tally (counts : Entries Nat) (key : String) : Entries Nat :=
  Entries.put counts key ((Entries.get? counts key).getD 0 + 1)

/-- The counts of a registry. -/
def stats? (registry : RuleRegistry) : Option Stats :=
  registry.snapshot?.map fun pairs =>
    let enabled := pairs.countP fun pair => pair.2.enabled
    { total := pairs.length, enabled, disabled := pairs.length - enabled
      byCategory := (pairs.map fun pair => pair.1.info.category.name).foldl tally [] }

end RuleRegistry

end ScriptAdvisor
