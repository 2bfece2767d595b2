import ObjectProtocol.ArgSpec
import ObjectProtocol.Routine

/-!
# Declarations

What a type is declared with: the kinds of its fields, members that give names to fields, methods,
and slots.  Host methods have a body, so declarations are taken over the type of bodies.
-/

namespace ObjectProtocol

inductive FieldKind
  /-- A reference to a host object, absent until it is set. -/
  | object
  /-- A native integer. -/
  | int
deriving DecidableEq, Repr

inductive Access
  | readWrite
  | readOnly
deriving DecidableEq, Repr

/-- A name for the field at `offset`. -/
structure Member where
  name : String
  offset : Nat
  kind : FieldKind
  access : Access := .readWrite
deriving DecidableEq, Repr

/-- How a method is implemented: by host code or by a `MethodRoutine`. -/
inductive MethodBody (Code : Type)
  | host (code : Code)
  | native (routine : MethodRoutine)

/-- A method as declared. Its specification is always named after it, see `Method.spec`. -/
structure Method (Code : Type) where
  name : String
  signature : ArgSpec
  body : MethodBody Code

namespace Method

variable {Code : Type}

def spec (m : Method Code) : ArgSpec := m.signature.named m.name

def isNative (m : Method Code) : Bool :=
  match m.body with
  | .host _ => false
  | .native _ => true

end Method

inductive TypeKind
  | builtin
  | native
  | host
deriving DecidableEq, Repr

/-- The declaration of a type, without its base. -/
structure TypeDecl (Code : Type) where
  name : String
  kind : TypeKind
  doc : Option String := none
  layout : List FieldKind := []
  members : List Member := []
  methods : List (Method Code) := []
  slots : Slots := {}
  /-- Whether other types may derive from it; unless said otherwise, from host classes only. -/
  basetype : Option Bool := none

/-- Left open, `basetype` is true of host classes only. -/
def TypeDecl.isBasetype {Code : Type} (d : TypeDecl Code) : Bool :=
  d.basetype.getD (d.kind = .host)

end ObjectProtocol
