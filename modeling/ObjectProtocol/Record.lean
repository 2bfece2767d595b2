import ObjectProtocol.Sketch

/-!
# Records

A record is a row of named values that native code has read once and then hands out in one of three
forms: as a tuple, as a mapping, or as a tuple whose places are converted to a format.
-/

namespace ObjectProtocol

structure Record where
  fields : List (String × Value) := []

namespace Record

def size (r : Record) : Nat := r.fields.length

def isEmpty (r : Record) : Bool := r.fields.isEmpty

def values (r : Record) : List Value := r.fields.map (·.2)

def toTuple (r : Record) : Sketch := .tupleOf r.values.toArray

def toDict (r : Record) : Sketch := .dict (r.fields.map fun (name, value) => (name, .given value))

def convert (s : Store) (name : String) (v : Value) (p : Param) : Except Failure Value :=
  match p with
  | .any => .ok v
  | .int => (s.toNative v).map .ofNative
  | .str =>
    if v.asText?.isSome then .ok v
    else
      .error (.because .typeMismatch
        ("field '" ++ name ++ "' must be " ++ p.expected ++ ", not " ++ s.typeName v))

def convertAll (s : Store) : List (String × Value) → List Param → Except Failure (List Value)
  | (name, v) :: fields, p :: format =>
    match convert s name v p with
    | .error f => .error f
    | .ok w => (convertAll s fields format).map (w :: ·)
  | _, _ => .ok []

/-- The values converted according to a `format` of the same length; the leftmost field that `convert`
refuses fails. -/
def typedValues (r : Record) (s : Store) (format : List Param) : Except Failure (List Value) :=
  if format.length = r.size then convertAll s r.fields format
  else
    .error (.because .invariantBroken
      ("tuple format expects " ++ toString format.length ++ " values, got " ++ toString r.size))

def typedTuple (r : Record) (s : Store) (format : List Param) : Except Failure Sketch :=
  (r.typedValues s format).map fun values => .tupleOf values.toArray

end Record

end ObjectProtocol
