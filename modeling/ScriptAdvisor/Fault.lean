import ScriptAdvisor.Calendar
import ScriptAdvisor.Json.Basic
import ScriptAdvisor.Text.Integer

/-! # Faults

What stops a computation that meets a value of the wrong kind.

* `Fault` lists the causes, `Fault.message` words them and `Fault.kind` names their classes.
* `CallLimits` says how much may be nested where a computation calls itself for what is nested.
* `Json.toInt` reads a value as an integer and says when that fails. -/

namespace ScriptAdvisor

/-- A failure that carries the name of its class. -/
structure Exception where
  /-- What it says. -/
  text : String
  /-- The name of its class. -/
  kind : String := "RuntimeError"
  deriving DecidableEq, Repr, Inhabited

instance : Coe String Exception := ⟨fun text => { text }⟩

/-- A cause for which a check, an advice or a conversion stops. -/
inductive Fault where
  /-- A value of this kind has no such member. -/
  | noMember (shape : Shape) (member : String)
  /-- A value of this kind has no items to pick. -/
  | notSubscriptable (shape : Shape)
  /-- A value of this kind cannot be gone through. -/
  | notIterable (shape : Shape)
  /-- A value of this kind cannot be looked up in a set. -/
  | unhashable (shape : Shape)
  /-- An object has no entry under a number. -/
  | noEntry (key : Nat)
  /-- A value of this kind is no integer. -/
  | notConvertible (shape : Shape)
  /-- A text is no integer to a base. -/
  | badLiteral (base : Nat) (text : String)
  /-- Bytes are no integer. -/
  | badBytes (bytes : List UInt8)
  /-- A text has too many digits to be an integer, that many; or an integer has too many to be
  written. -/
  | tooManyDigits (count : Option Nat)
  /-- A text is no double. -/
  | badDouble (text : String)
  /-- A text is no truth value. -/
  | badTruth (text : String)
  /-- A number has no characters. -/
  | emptyNumber
  /-- There is no such date. -/
  | badDate (cause : DateFault)
  /-- Not a number is no integer. -/
  | nanToInteger
  /-- An infinity is no integer. -/
  | infinityToInteger
  /-- A place is too large to search from. -/
  | placeTooLarge
  /-- A time has too many seconds to be measured. -/
  | timeTooLong
  /-- A failure of another class, such as a rule or a provider reports by itself. -/
  | reported (failure : Exception)
  deriving DecidableEq, Repr, Inhabited

namespace Fault

/-- The wording for what is no integer to a base. Of what is long only the start is shown. -/
def literalMessage (base : Nat) (shown : String) : String :=
  s!"invalid literal for int() with base {base}: " ++ String.ofList (shown.toList.take 200)

/-- The wording of a fault. -/
def message : Fault → String
  | noMember shape member => s!"'{shape.name}' object has no attribute '{member}'"
  | notSubscriptable shape => s!"'{shape.name}' object is not subscriptable"
  | notIterable shape => s!"'{shape.name}' object is not iterable"
  | unhashable shape => s!"unhashable type: '{shape.name}'"
  | noEntry key => toString key
  | notConvertible shape =>
    "int() argument must be a string, a bytes-like object or a real number, not "
      ++ s!"'{shape.name}'"
  | badLiteral base text => literalMessage base (Text.quoted text)
  | badBytes bytes => literalMessage 10 (Text.quotedBytes (bytes.take 200))
  | tooManyDigits (some count) => Text.tooManyDigitsMessage count
  | tooManyDigits none => Text.unwritableMessage
  | badDouble text => "could not convert string to float: " ++ Text.quoted text
  | badTruth text => Text.quoted text
  | emptyNumber => "string index out of range"
  | badDate cause => cause.message
  | nanToInteger => "cannot convert float NaN to integer"
  | infinityToInteger => "cannot convert float infinity to integer"
  | placeTooLarge => "Python int too large to convert to C ssize_t"
  | timeTooLong => "integer division result too large for a float"
  | reported failure => failure.text

/-- The name of the class of a fault. -/
def kind : Fault → String
  | noMember _ _ => "AttributeError"
  | notSubscriptable _ | notIterable _ | unhashable _ | notConvertible _ => "TypeError"
  | noEntry _ | badTruth _ => "KeyError"
  | badLiteral _ _ | badBytes _ | tooManyDigits _ | badDouble _ | badDate _ | nanToInteger =>
    "ValueError"
  | emptyNumber => "IndexError"
  | infinityToInteger | placeTooLarge | timeTooLong => "OverflowError"
  | reported failure => failure.kind

/-- The wording under which a fault is recorded: a failure without words is named by its class. -/
def record (fault : Fault) : String :=
  if fault.message.isEmpty then fault.kind else fault.message

/-- The fault of a computation for which too much is nested. -/
def tooDeep (activity : String) : Fault :=
  .reported { text := "maximum recursion depth exceeded " ++ activity, kind := "RecursionError" }

/-- The fault of a text that is not read as an integer to a base. -/
def ofIntegerError (base : Nat) (text : String) : IntegerError → Fault
  | .malformed => badLiteral base text
  | .tooLong count => tooManyDigits (some count)

end Fault

/-- How many calls are left to the computations that call themselves for what is nested. That
depends on the calls that are under way when they start. -/
structure CallLimits where
  /-- For reading a JSON text. -/
  reading : Nat := 990
  /-- For converting a document to a tree. -/
  converting : Nat := 985
  /-- For writing a value into a message. -/
  writing : Nat := 985
  deriving DecidableEq, Repr, Inhabited

/-- The integer a text denotes, or why it denotes none. -/
def Text.toInt (text : String) : Except Fault Int :=
  (Text.readInt text).mapError (Fault.ofIntegerError 10 text)

/-- The integer a double has before its point. -/
def Double.toInt (value : Double) : Except Fault Int :=
  match value.truncate? with
  | some whole => .ok whole
  | none => .error (if value = .nan then .nanToInteger else .infinityToInteger)

/-- The integer a value denotes: truth values are one and zero, doubles lose their fraction, texts
are read. -/
def Json.toInt : Json → Except Fault Int
  | .int value => .ok value
  | .bool value => .ok (if value then 1 else 0)
  | .float value => value.toInt
  | .str text => Text.toInt text
  | value => .error (.notConvertible value.shape)

end ScriptAdvisor
