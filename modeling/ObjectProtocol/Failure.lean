/-!
# Failures and exceptions

Native code fails with a `Failure`: a code and, unless it forgot to say why, a reason.  The host only
ever sees an `Exception`.  `Failure.toException` is the one bridge from the first to the second, and
`NativeError.toException` lets an exception that host code raised under a native frame through as it
is.
-/

namespace ObjectProtocol

inductive FailureCode
  | arityViolation
  | typeMismatch
  | readOnlyWrite
  | outOfRange
  | invariantBroken
  | sequenceExhausted
  | missingAttribute
deriving DecidableEq, Repr

inductive ExceptionKind
  | typeError
  | attributeError
  | overflowError
  | systemError
  | stopIteration
  | keyError
  | indexError
  | valueError
  | recursionError
deriving DecidableEq, Repr

/-- A failure of native code; without a `reason`, no error state was set. -/
structure Failure where
  code : FailureCode
  reason : Option String
deriving DecidableEq, Repr

structure Exception where
  kind : ExceptionKind
  message : String
deriving DecidableEq, Repr

/-- How a native routine ends when it does not answer: it fails itself, or host code that it called
raised. -/
inductive NativeError
  | failure (f : Failure)
  | host (e : Exception)
deriving DecidableEq, Repr

namespace FailureCode

def all : List FailureCode :=
  [arityViolation, typeMismatch, readOnlyWrite, outOfRange, invariantBroken, sequenceExhausted,
    missingAttribute]

def name : FailureCode → String
  | arityViolation => "ArityViolation"
  | typeMismatch => "TypeMismatch"
  | readOnlyWrite => "ReadOnlyWrite"
  | outOfRange => "OutOfRange"
  | invariantBroken => "InvariantBroken"
  | sequenceExhausted => "SequenceExhausted"
  | missingAttribute => "MissingNativeAttribute"

def ofName? (s : String) : Option FailureCode := all.find? (·.name = s)

def category : FailureCode → ExceptionKind
  | arityViolation => .typeError
  | typeMismatch => .typeError
  | readOnlyWrite => .attributeError
  | outOfRange => .overflowError
  | invariantBroken => .systemError
  | sequenceExhausted => .stopIteration
  | missingAttribute => .attributeError

end FailureCode

namespace ExceptionKind

def all : List ExceptionKind :=
  [typeError, attributeError, overflowError, systemError, stopIteration, keyError, indexError,
    valueError, recursionError]

def name : ExceptionKind → String
  | typeError => "TypeError"
  | attributeError => "AttributeError"
  | overflowError => "OverflowError"
  | systemError => "SystemError"
  | stopIteration => "StopIteration"
  | keyError => "KeyError"
  | indexError => "IndexError"
  | valueError => "ValueError"
  | recursionError => "RecursionError"

def ofName? (s : String) : Option ExceptionKind := all.find? (·.name = s)

end ExceptionKind

namespace Exception

def text (e : Exception) : String :=
  if e.message = "" then e.kind.name else e.kind.name ++ ": " ++ e.message

end Exception

namespace Failure

def because (code : FailureCode) (reason : String) : Failure := ⟨code, some reason⟩

def silent (code : FailureCode) : Failure := ⟨code, none⟩

def exhausted : Failure := silent .sequenceExhausted

def text (f : Failure) : String :=
  match f.reason with
  | some reason => f.code.name ++ ": " ++ reason
  | none => f.code.name ++ " (no error set)"

/-- A reason becomes the message under `code.category`. Without a reason `sequenceExhausted` is a plain
`StopIteration`, and every other code is a `systemError` of the native side itself. -/
def toException (f : Failure) : Exception :=
  match f.reason with
  | some reason => ⟨f.code.category, reason⟩
  | none =>
    if f.code = .sequenceExhausted then ⟨.stopIteration, ""⟩
    else ⟨.systemError, "error return without exception set"⟩

end Failure

namespace NativeError

def text : NativeError → String
  | failure f => f.text
  | host e => e.text

/-- A `failure` becomes an exception by `Failure.toException`; an exception of the host passes unchanged.
-/
def toException : NativeError → Exception
  | failure f => f.toException
  | host e => e

def because (code : FailureCode) (reason : String) : NativeError := failure (.because code reason)

end NativeError

end ObjectProtocol
