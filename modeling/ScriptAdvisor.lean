import ScriptAdvisor.Logging
import ScriptAdvisor.Main
import ScriptAdvisor.Proofs.Analysis.Disabling
import ScriptAdvisor.Proofs.Analysis.Injection
import ScriptAdvisor.Proofs.Edit.Application
import ScriptAdvisor.Proofs.Parse.Document
import ScriptAdvisor.Proofs.Rule.Consistency
import ScriptAdvisor.Proofs.Rule.History
import ScriptAdvisor.Proofs.Suggestion.Dispatch
import ScriptAdvisor.Proofs.Analysis.Severity
import ScriptAdvisor.Proofs.Analysis.TreeLoss
import ScriptAdvisor.Proofs.Text.LineBreak
import ScriptAdvisor.Proofs.Edit.SingleEdit
import ScriptAdvisor.Proofs.Smell.AnyType
import ScriptAdvisor.Proofs.Smell.UnusedImport
import ScriptAdvisor.Proofs.Analysis.AutoFix
import ScriptAdvisor.Proofs.Analysis.ExitCode
import ScriptAdvisor.Proofs.Tree.Refusal
import ScriptAdvisor.Proofs.Tree.Traversal
import ScriptAdvisor.Proofs.Edit.LineBlocks
import ScriptAdvisor.Proofs.Edit.ListingOrder
import ScriptAdvisor.Proofs.Smell.Nesting
import ScriptAdvisor.Proofs.Comparison
import ScriptAdvisor.Proofs.Smell.Annotation
import ScriptAdvisor.Proofs.Smell.Malformed
import ScriptAdvisor.Proofs.Smell.Mention
import ScriptAdvisor.Proofs.Smell.Condition
import ScriptAdvisor.Proofs.Smell.Address
import ScriptAdvisor.Proofs.Smell.Respelling
import ScriptAdvisor.Proofs.Smell.BlockingCall
import ScriptAdvisor.Proofs.Smell.PropertyLookup
import ScriptAdvisor.Proofs.Suggestion.ScoreOrder
import ScriptAdvisor.Proofs.Smell.Renaming
import ScriptAdvisor.Proofs.Smell.QueriedRecord
import ScriptAdvisor.Proofs.Smell.ReturnType
import ScriptAdvisor.Proofs.Suggestion.Batch
import ScriptAdvisor.Proofs.Edit.Quotation
import ScriptAdvisor.Proofs.Suggestion.ScoreFormula
import ScriptAdvisor.Proofs.Suggestion.Registration
