import ScriptAdvisor.Suggestion.Basic
import ScriptAdvisor.Text.Lines
import ScriptAdvisor.Text.Slice

/-! # Suggestion providers

A provider turns violations of one rule into suggestions. Providers are kept in the order of
registration; several may serve one rule.

* `AdviceRequest` is what a provider gets to see; `AdviceRequest.lineAt` and
  `AdviceRequest.spanText` read the source.
* `Provider` pairs a rule with an advice; `ProviderRegistry` is the list of providers. -/

namespace ScriptAdvisor

/-- A violation and the source it stands in. -/
structure AdviceRequest where
  /-- The violation. -/
  violation : Violation
  /-- The text of the file. -/
  source : String
  /-- The name of the file. -/
  fileName : String
  deriving DecidableEq, Repr, Inhabited

/-- The place of the start of a violation in its line, counted from zero. -/
def Violation.offset (violation : Violation) : Nat := (violation.column - 1).toNat

namespace AdviceRequest

/-- The lines of the source. -/
def lines (request : AdviceRequest) : List (List Char) := Text.lines request.source.toList

/-- The line with the given number, empty if there is none. -/
def lineAt (request : AdviceRequest) (number : Int) : List Char :=
  if number ≤ 0 then [] else (request.lines[(number - 1).toNat]?).getD []

/-- The line the violation starts on. -/
def line (request : AdviceRequest) : List Char := request.lineAt request.violation.line

/-- The line the violation ends on: the one it starts on unless another is known. A line number of
zero is not known. -/
def endLine (request : AdviceRequest) : Int :=
  match request.violation.endLine with
  | some line => if line = 0 then request.violation.line else line
  | none => request.violation.line

/-- The column behind the end of the violation, counted from zero: the end of the line `lineNumber`
unless it is known. A column of zero is not known. -/
def endColumnOn (request : AdviceRequest) (lineNumber : Int) : Int :=
  let fallback : Int := (request.lineAt lineNumber).length
  match request.violation.endColumn with
  | some column => if column = 0 then fallback else column - 1
  | none => fallback

/-- The text between two places of the source, its lines joined by line feeds. Nothing if the lines
are not there. -/
def spanText (request : AdviceRequest) (startLine startColumn endLine endColumn : Int) :
    List Char :=
  let lines := request.lines
  if 0 < startLine ∧ startLine ≤ endLine ∧ endLine ≤ lines.length then
    let first := request.lineAt startLine
    let last := request.lineAt endLine
    if startLine = endLine then Slice.between first startColumn endColumn
    else
      let inner := (lines.take (endLine.toNat - 1)).drop startLine.toNat
      Text.joinNewlines
        (Slice.startingAt first startColumn :: inner ++ [Slice.upTo last endColumn])
  else []

end AdviceRequest

/-- How an advice ends. -/
inductive AdviceOutcome where
  /-- With a list of suggestions. -/
  | given (suggestions : List Suggestion)
  /-- Without a result. -/
  | nothing
  /-- With a fault. -/
  | failed (fault : Fault)
  deriving DecidableEq, Repr, Inhabited

/-- The suggestions of an advice, or the fault that it has none. -/
def AdviceOutcome.toExcept : AdviceOutcome → Except Fault (List Suggestion)
  | given suggestions => .ok suggestions
  | nothing => .error (.notIterable .null)
  | failed fault => .error fault

/-- A source of suggestions for the violations of a rule. -/
structure Provider where
  /-- The name it is reported by. -/
  name : String
  /-- The rule it serves. -/
  ruleId : String
  /-- Whether it takes on a violation. -/
  accepts : Violation → Bool
  /-- Its suggestions for a violation. -/
  advise : AdviceRequest → AdviceOutcome

instance : Inhabited Provider := ⟨⟨"", "", fun _ => false, fun _ => .nothing⟩⟩

/-- The provider that takes on the violations of the rule it serves. -/
def Provider.forRule (name ruleId : String) (advise : AdviceRequest → AdviceOutcome) : Provider :=
  { name, ruleId, accepts := fun violation => violation.ruleId == ruleId, advise }

/-- Providers in the order of registration. -/
structure ProviderRegistry where
  /-- The providers. -/
  providers : List Provider := []
  deriving Inhabited

/-- A change to a provider registry. -/
inductive ProviderOperation where
  /-- Add a provider. -/
  | register (provider : Provider)
  /-- Remove every provider that serves a rule. -/
  | unregister (ruleId : String)

namespace ProviderRegistry

/-- Add a provider at the end. -/
def register (registry : ProviderRegistry) (provider : Provider) : ProviderRegistry :=
  ⟨registry.providers ++ [provider]⟩

/-- Remove every provider that serves a rule. -/
def unregister (registry : ProviderRegistry) (ruleId : String) : ProviderRegistry :=
  ⟨registry.providers.filter fun provider => provider.ruleId != ruleId⟩

/-- Carry out one change. -/
def apply (registry : ProviderRegistry) : ProviderOperation → ProviderRegistry
  | .register provider => registry.register provider
  | .unregister ruleId => registry.unregister ruleId

/-- Carry out changes one after the other. -/
def run (registry : ProviderRegistry) (operations : List ProviderOperation) : ProviderRegistry :=
  operations.foldl apply registry

/-- The registry of the given providers. -/
def ofProviders (providers : List Provider) : ProviderRegistry := providers.foldl register {}

/-- The providers that serve a rule. -/
def forRule (registry : ProviderRegistry) (ruleId : String) : List Provider :=
  registry.providers.filter fun provider => provider.ruleId == ruleId

/-- The number of providers. -/
def size (registry : ProviderRegistry) : Nat := registry.providers.length

/-- The names of the providers by the rule they serve, in order of first registration. -/
def byRule (registry : ProviderRegistry) : Entries (List String) :=
  registry.providers.foldl
    (fun groups provider =>
      let names := (Entries.get? groups provider.ruleId).getD []
      Entries.put groups provider.ruleId (names ++ [provider.name])) []

end ProviderRegistry

end ScriptAdvisor
