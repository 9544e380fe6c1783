import ScriptAdvisor.Parse.Basic
import ScriptAdvisor.Yaml.Value

/-! # Rules and violations

A rule looks at a parsed file and reports violations. A check ends in one of four ways: it reports
violations, it reports nothing at all, it fails, or it overruns its time.

* `Severity`, `Category` and `RuleInfo` describe a rule.
* `Violation` is one finding, `Issue` its projection for a report.
* `Rule` pairs a description with a check. -/

namespace ScriptAdvisor

/-- How serious a finding is. -/
inductive Severity where
  /-- A matter of taste. -/
  | low
  /-- Worth mending. -/
  | medium
  /-- Blocks a release. -/
  | high
  /-- Must be mended at once. -/
  | critical
  deriving DecidableEq, Repr, Inhabited

namespace Severity

/-- Every severity, the least first. -/
def all : List Severity := [low, medium, high, critical]

/-- The name of a severity. -/
def name : Severity → String
  | low => "low"
  | medium => "medium"
  | high => "high"
  | critical => "critical"

/-- The severity of the given name. -/
def ofName? (name : String) : Option Severity := all.find? (·.name == name)

/-- Whether findings of this severity block. -/
def isBlocking : Severity → Bool
  | high | critical => true
  | low | medium => false

@[simp] theorem ofName?_name (severity : Severity) : ofName? severity.name = some severity := by
  cases severity <;> decide

end Severity

/-- What a rule is about. -/
inductive Category where
  /-- Speed. -/
  | performance
  /-- Good style. -/
  | bestPractice
  /-- Safety from attacks. -/
  | security
  /-- Ease of change. -/
  | maintainability
  /-- Interfaces that are going away. -/
  | deprecated
  deriving DecidableEq, Repr, Inhabited

namespace Category

/-- Every category. -/
def all : List Category := [performance, bestPractice, security, maintainability, deprecated]

/-- The name of a category. -/
def name : Category → String
  | performance => "performance"
  | bestPractice => "best-practice"
  | security => "security"
  | maintainability => "maintainability"
  | deprecated => "deprecated"

/-- The category of the given name. -/
def ofName? (name : String) : Option Category := all.find? (·.name == name)

@[simp] theorem ofName?_name (category : Category) : ofName? category.name = some category := by
  cases category <;> decide

end Category

/-- The description of a rule. -/
structure RuleInfo where
  /-- The identifier. -/
  id : String
  /-- The title. -/
  name : String
  /-- What the rule looks for. -/
  description : String
  /-- What the rule is about. -/
  category : Category
  /-- The severity of its findings unless configured otherwise. -/
  severity : Severity
  /-- The files the rule applies to. -/
  language : Language
  /-- Key words. -/
  tags : List String := []
  /-- Further reading. -/
  documentation : String := ""
  deriving DecidableEq, Repr, Inhabited

/-- Whether a rule applies to files of a language. -/
def RuleInfo.appliesTo (info : RuleInfo) (language : Language) : Bool :=
  info.language == .both || info.language == language

/-- One finding. Lines and columns are counted from one. -/
structure Violation where
  /-- The rule that reports it. -/
  ruleId : String
  /-- What is wrong. -/
  message : String
  /-- How serious it is. -/
  severity : Severity
  /-- The line it starts on. -/
  line : Int
  /-- The column it starts at. -/
  column : Int
  /-- The line it ends on, if known. -/
  endLine : Option Int := none
  /-- The column behind its end, if known. -/
  endColumn : Option Int := none
  /-- The index of the reported node, if it is one. -/
  node : Option Nat := none
  deriving DecidableEq, Repr, Inhabited

/-- What a rule gets to see. -/
structure CheckContext where
  /-- The syntax tree. -/
  tree : Tree
  /-- The text of the file. -/
  source : String
  /-- The name of the file. -/
  fileName : String
  /-- The options of the rule. -/
  options : Entries Yaml.Value := []
  deriving Inhabited

/-- How a check ends. Left out are a check that is cancelled, or that ends the program, and one that
fails by something whose own text cannot be had: all of these end the run with the check. -/
inductive CheckOutcome where
  /-- With a list of violations. -/
  | found (violations : List Violation)
  /-- Without a result. -/
  | nothing
  /-- With a fault, which has a text and the name of its class. -/
  | failed (fault : Fault)
  /-- Not before its time is up. -/
  | overrun
  deriving DecidableEq, Repr, Inhabited

/-- The outcome of a check that either fails or reports. -/
def CheckOutcome.ofExcept : Except Fault (List Violation) → CheckOutcome
  | .ok violations => found violations
  | .error fault => failed fault

/-- A rule. -/
structure Rule where
  /-- Its description. -/
  info : RuleInfo
  /-- Its check. -/
  check : CheckContext → CheckOutcome

instance : Inhabited Rule := ⟨⟨default, fun _ => .nothing⟩⟩

namespace RuleInfo

/-- The finding that a rule reports at a visited node. Columns are counted from one. -/
def violationAt (info : RuleInfo) (message : String) (visit : Visit) : Violation :=
  { ruleId := info.id, message, severity := info.severity
    line := visit.node.line, column := visit.node.column + 1
    endLine := visit.node.loc.map (·.endLine)
    endColumn := visit.node.loc.map (·.endColumn + 1)
    node := some visit.index }

/-- The finding that a rule reports at a stretch of one line. Places in the line are counted from
zero. -/
def violationOn (info : RuleInfo) (message : String) (line : Nat) (start stop : Nat) :
    Violation :=
  { ruleId := info.id, message, severity := info.severity
    line := line, column := start + 1, endLine := some (line : Int)
    endColumn := some (stop + 1 : Int) }

end RuleInfo

/-- A finding as it stands in a report. The identifier starts with that of the rule. -/
structure Issue where
  /-- The rule that reports it. -/
  ruleId : String
  /-- How serious it is. -/
  severity : Severity
  /-- What is wrong. -/
  message : String
  /-- The line it starts on. -/
  line : Int
  /-- The column it starts at. -/
  column : Int
  /-- The line it ends on, if known. -/
  endLine : Option Int
  /-- The column behind its end, if known. -/
  endColumn : Option Int
  /-- The file it is in. -/
  fileName : String
  deriving DecidableEq, Repr, Inhabited

/-- The report of a violation in a file. -/
def Violation.toIssue (violation : Violation) (fileName : String) : Issue :=
  { ruleId := violation.ruleId, severity := violation.severity, message := violation.message
    line := violation.line, column := violation.column, endLine := violation.endLine
    endColumn := violation.endColumn, fileName }

end ScriptAdvisor
