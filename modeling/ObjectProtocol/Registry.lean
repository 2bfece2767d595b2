import ObjectProtocol.TypeObject

/-!
# The type registry

A registry is a log of types, newest first.  A name stands for the newest type that bears it, and no
type that was registered is ever altered or removed.
-/

namespace ObjectProtocol

/-- The registered types, newest first. -/
structure Registry where
  log : List TypeObject := []

namespace Registry

instance : Inhabited Registry := ⟨{}⟩

def insert (r : Registry) (t : TypeObject) : Registry := ⟨t :: r.log⟩

def register (r : Registry) (id : Identity) (d : TypeDecl Code) (base : Option TypeObject) :
    Except Failure (TypeObject × Registry) :=
  (d.build id base).map fun t => (t, r.insert t)

def get? (r : Registry) (index : Nat) : Option TypeObject := r.log.reverse[index]?

/-- The newest type of that name; `get?` counts from the oldest. -/
def named? (r : Registry) (name : String) : Option TypeObject := r.log.find? (·.name = name)

def withId? (r : Registry) (id : Identity) : Option TypeObject := r.log.find? (·.id = id)

def size (r : Registry) : Nat := r.log.length

def names (r : Registry) : List String := r.log.reverse.map (·.name)

end Registry

end ObjectProtocol
