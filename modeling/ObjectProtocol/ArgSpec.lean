import ObjectProtocol.Failure

/-!
# Argument specifications

A native entry point says how many positional arguments it takes and what it expects at each place.
Specifications are built from `empty`, `varargs` or `unpack` by adding parameters.  `arityOk` is the
condition on the number of arguments by itself, and `checkArity` the check with its messages;
`checkArity_eq_ok_iff` ties the two together.
-/

namespace ObjectProtocol

inductive Param
  /-- Any object. -/
  | any
  /-- An integer, which is narrowed to the native range. -/
  | int
  /-- A text. -/
  | str
deriving DecidableEq, Repr

def Param.expected : Param → String
  | .any => "object"
  | .int => "int"
  | .str => "str"

/-- The positional arguments of an entry point, between `min` and `max`; without `max` their number is
unbounded. -/
structure ArgSpec where
  name : Option String := none
  params : List Param := []
  min : Nat := 0
  max : Option Nat := some 0
deriving DecidableEq, Repr

namespace ArgSpec

def empty : ArgSpec := {}

def varargs : ArgSpec := { max := none }

def unpack (least most : Nat) : ArgSpec :=
  { params := List.replicate most .any, min := Nat.min least most, max := some most }

/-- Declares a parameter that has to be given; `max` becomes the number of declared parameters. -/
def required (spec : ArgSpec) (p : Param) : ArgSpec :=
  { spec with
    params := spec.params ++ [p]
    min := spec.min + 1
    max := some (spec.params.length + 1) }

def optional (spec : ArgSpec) (p : Param) : ArgSpec :=
  { spec with params := spec.params ++ [p], max := some (spec.params.length + 1) }

def named (spec : ArgSpec) (name : String) : ArgSpec := { spec with name := some name }

/-- Beyond the declared parameters `paramAt` is `Param.any`. -/
def paramAt (spec : ArgSpec) (i : Nat) : Param := spec.params.getD i .any

def subject (spec : ArgSpec) : String :=
  match spec.name with
  | some name => name ++ "()"
  | none => "function"

def argumentSubject (spec : ArgSpec) : String :=
  match spec.name with
  | some name => name ++ "() argument"
  | none => "argument"

def arityOk (spec : ArgSpec) (given : Nat) : Bool :=
  spec.min ≤ given && spec.max.all (given ≤ ·)

def countText (n : Nat) : String :=
  toString n ++ if n = 1 then " argument" else " arguments"

/-- The `arityViolation` for a number of arguments, given what the entry point takes. -/
def arityFailure (spec : ArgSpec) (takes : String) (given : Nat) : Failure :=
  .because .arityViolation
    (spec.subject ++ " takes " ++ takes ++ " (" ++ toString given ++ " given)")

/-- The message names the bound that was missed, says `exactly` when `min` and `max` coincide, and speaks
of no arguments when there can be none. -/
def checkArity (spec : ArgSpec) (given : Nat) : Except Failure Unit :=
  if spec.max = some 0 ∧ 0 < given then .error (spec.arityFailure "no arguments" given)
  else if spec.max = some spec.min ∧ given ≠ spec.min then
    .error (spec.arityFailure ("exactly " ++ countText spec.min) given)
  else if given < spec.min then
    .error (spec.arityFailure ("at least " ++ countText spec.min) given)
  else
    match spec.max with
    | some max =>
      if max < given then .error (spec.arityFailure ("at most " ++ countText max) given) else .ok ()
    | none => .ok ()

theorem checkArity_eq_ok_iff (spec : ArgSpec) (given : Nat) :
    spec.checkArity given = .ok () ↔ spec.arityOk given = true := by
  unfold checkArity arityOk
  rcases hmax : spec.max with _ | max
  · by_cases h : given < spec.min
    · simp [h]
    · simp [h]
      omega
  · simp only [Option.some.injEq, Option.all_some, Bool.and_eq_true, decide_eq_true_eq]
    split
    · simp; omega
    · split
      · simp; omega
      · split
        · simp; omega
        · split
          · simp; omega
          · simp; omega

end ArgSpec

end ObjectProtocol
