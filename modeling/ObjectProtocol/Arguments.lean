import ObjectProtocol.Store

/-!
# Parsed arguments

Parsing checks the number of arguments first and then each place from left to right.  What comes out
are the arguments themselves, with the native integer beside each one that stands at an integer place.
`values_of_parse` says that nothing is lost, and the accessors say what a routine may ask for.
-/

namespace ObjectProtocol

/-- Arguments that passed an `ArgSpec`, each with its native integer if a `Param.int` was asked for. -/
structure Args where
  items : List (Value × Option NativeInt) := []

namespace Args

def size (a : Args) : Nat := a.items.length

def isEmpty (a : Args) : Bool := a.items.isEmpty

def values (a : Args) : List Value := a.items.map (·.1)

def get? (a : Args) (i : Nat) : Option Value := a.items[i]?.map (·.1)

def get (a : Args) (i : Nat) : Except Failure Value :=
  match a.get? i with
  | some v => .ok v
  | none => .error (.because .invariantBroken ("missing argument " ++ toString (i + 1)))

def int? (a : Args) (i : Nat) : Option NativeInt := a.items[i]?.bind (·.2)

def int (a : Args) (i : Nat) : Except Failure NativeInt :=
  match a.int? i with
  | some n => .ok n
  | none =>
    .error (.because .invariantBroken
      ("argument " ++ toString (i + 1) ++ " was not parsed as int"))

def text (a : Args) (i : Nat) : Except Failure String := do
  match (← a.get i).asText? with
  | some s => .ok s
  | none =>
    .error (.because .invariantBroken
      ("argument " ++ toString (i + 1) ++ " was not parsed as str"))

def extract (s : Store) (a : Args) (i : Nat) : Except Failure NativeInt := do
  s.toNative (← a.get i)

end Args

namespace ArgSpec

/-- Checks the argument at place `i` against `spec.paramAt i` and narrows it where an integer is expected.
-/
def narrow (s : Store) (spec : ArgSpec) (i : Nat) (v : Value) :
    Except Failure (Option NativeInt) :=
  let p := spec.paramAt i
  let mismatch : Failure :=
    .because .typeMismatch
      (spec.argumentSubject ++ " " ++ toString (i + 1) ++ " must be " ++ p.expected ++ ", not "
        ++ s.typeName v)
  match p with
  | .any => .ok none
  | .int => if v.isInt then (s.toNative v).map some else .error mismatch
  | .str => if v.asText?.isSome then .ok none else .error mismatch

def narrowAll (s : Store) (spec : ArgSpec) (i : Nat) :
    List Value → Except Failure (List (Value × Option NativeInt))
  | [] => .ok []
  | v :: rest =>
    match spec.narrow s i v with
    | .error f => .error f
    | .ok n => (spec.narrowAll s (i + 1) rest).map ((v, n) :: ·)

/-- `ArgSpec.checkArity` on the number of arguments, then `narrowAll` on the arguments themselves. -/
def parse (s : Store) (spec : ArgSpec) (args : List Value) : Except Failure Args :=
  match spec.checkArity args.length with
  | .error f => .error f
  | .ok () => (spec.narrowAll s 0 args).map Args.mk

theorem map_fst_of_narrowAll {s : Store} {spec : ArgSpec} {i : Nat} {args : List Value}
    {items : List (Value × Option NativeInt)} (h : spec.narrowAll s i args = .ok items) :
    items.map (·.1) = args := by
  induction args generalizing i items with
  | nil => cases h; rfl
  | cons v rest ih =>
    unfold narrowAll at h
    split at h
    · contradiction
    · cases hr : spec.narrowAll s (i + 1) rest with
      | error f => rw [hr] at h; cases h
      | ok items' =>
        rw [hr] at h
        cases h
        simp [ih hr]

/-- `parse` keeps every argument as it is. -/
theorem values_of_parse {s : Store} {spec : ArgSpec} {args : List Value} {a : Args}
    (h : spec.parse s args = .ok a) : a.values = args := by
  unfold parse at h
  split at h
  · contradiction
  · cases hn : spec.narrowAll s 0 args with
    | error f => rw [hn] at h; cases h
    | ok items =>
      rw [hn] at h
      cases h
      exact map_fst_of_narrowAll hn

end ArgSpec

end ObjectProtocol
