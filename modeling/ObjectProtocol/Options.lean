import ObjectProtocol.Decimal.Style

/-!
# Options

What a runtime is started with, and the ranges that its values have to keep.
-/

namespace ObjectProtocol

/-- Whether an operation that draws a fault detects it before it commits its change or after. -/
inductive MutationPolicy
  | validateThenMutate
  | mutateThenValidate
deriving DecidableEq, Repr

namespace MutationPolicy

def word : MutationPolicy → String
  | validateThenMutate => "validate_then_mutate"
  | mutateThenValidate => "mutate_then_validate"

def debugWord : MutationPolicy → String
  | validateThenMutate => "ValidateThenMutate"
  | mutateThenValidate => "MutateThenValidate"

def ofWord? (w : String) : Option MutationPolicy :=
  [validateThenMutate, mutateThenValidate].find? (·.word = w)

end MutationPolicy

structure Options where
  /-- The greatest number of calls that may be active at once. -/
  maxCallDepth : Nat := 1000
  mutationPolicy : MutationPolicy := .validateThenMutate
  /-- Decides all random draws. -/
  seed : UInt64 := 0
  /-- How often an operation that can be made to fail does fail. -/
  faultProbability : Float := 0.0

inductive ConfigError
  /-- The file could not be read. -/
  | io
  /-- The text does not describe options. -/
  | parse
  /-- A value is out of range. -/
  | invalid (field reason : String)
deriving DecidableEq, Repr

def ConfigError.invalidMessage (field reason : String) : String :=
  "invalid value for \x60" ++ field ++ "\x60: " ++ reason

namespace Options

instance : Inhabited Options := ⟨{}⟩

/-- The options, if `maxCallDepth` allows one call at least and `faultProbability` is a probability. -/
def validate (o : Options) : Except ConfigError Options :=
  if o.maxCallDepth = 0 then .error (.invalid "limits.max_call_depth" "must be at least 1")
  else if 0.0 ≤ o.faultProbability ∧ o.faultProbability ≤ 1.0 then .ok o
  else
    .error (.invalid "fault_probability"
      (NumberStyle.plain.write o.faultProbability ++ " is not in [0, 1]"))

end Options

end ObjectProtocol
