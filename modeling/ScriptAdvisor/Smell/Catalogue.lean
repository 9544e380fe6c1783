import ScriptAdvisor.Rule.Registry
import ScriptAdvisor.Smell.AnyType
import ScriptAdvisor.Smell.BlockingAjax
import ScriptAdvisor.Smell.HardcodedValue
import ScriptAdvisor.Smell.LoggedError
import ScriptAdvisor.Smell.MissingReturnType
import ScriptAdvisor.Smell.NestedLoop
import ScriptAdvisor.Smell.NestedQuery
import ScriptAdvisor.Smell.UnconditionedQuery
import ScriptAdvisor.Smell.UnusedImport

/-! # The catalogue of code smells

The rules and providers that come with the program, in the order in which they are registered. -/

namespace ScriptAdvisor.Catalogue

/-- The rules. -/
def rules : List Rule :=
  [NestedQuery.rule, UnconditionedQuery.rule, BlockingAjax.rule, LoggedError.rule,
    HardcodedValue.rule, AnyType.rule, MissingReturnType.rule, UnusedImport.rule, NestedLoop.rule]

/-- The providers. -/
def providers : List Provider :=
  [NestedQuery.provider, UnconditionedQuery.provider, BlockingAjax.provider, LoggedError.provider,
    HardcodedValue.provider, AnyType.provider, MissingReturnType.provider, UnusedImport.provider,
    NestedLoop.provider]

/-- The registry of the rules. -/
def ruleRegistry : RuleRegistry := .ofRules rules

/-- The registry of the providers. -/
def providerRegistry : ProviderRegistry := .ofProviders providers

/-- The rule with an identifier. -/
def rule? (id : String) : Option Rule := rules.find? fun rule => rule.info.id == id

/-- The provider that serves a rule. -/
def provider? (ruleId : String) : Option Provider :=
  providers.find? fun provider => provider.ruleId == ruleId

end ScriptAdvisor.Catalogue
