import ObjectProtocol.Options
import ObjectProtocol.Random.Generator
import ObjectProtocol.Registry
import ObjectProtocol.Store

/-!
# The host

A host is a runtime together with the objects it works on.  A runtime has its options, its own
built-in types, a registry that starts with those, the number of active calls, and a generator.
Built-in types are identified by their place after the first one, so that a value's type can be told
without a look-up that a registration could shadow.
-/

namespace ObjectProtocol

inductive Builtin
  | null
  | bool
  | int
  | float
  | str
  | tuple
  | list
  | dict
  | type
  | function
  | method
  | iterator
deriving DecidableEq, Repr

namespace Builtin

/-- The built-in types in registration order, the order of `Builtin.index`. -/
def all : List Builtin :=
  [null, bool, int, float, str, tuple, list, dict, type, function, method, iterator]

def name : Builtin → String
  | null => "NoneType"
  | bool => "bool"
  | int => "int"
  | float => "float"
  | str => "str"
  | tuple => "tuple"
  | list => "list"
  | dict => "dict"
  | type => "type"
  | function => "function"
  | method => "method"
  | iterator => "iterator"

def index : Builtin → Nat
  | null => 0
  | bool => 1
  | int => 2
  | float => 3
  | str => 4
  | tuple => 5
  | list => 6
  | dict => 7
  | type => 8
  | function => 9
  | method => 10
  | iterator => 11

def typeObject (b : Builtin) (first : Identity) : TypeObject := .builtin (first + b.index) b.name

end Builtin

structure Runtime where
  options : Options := {}
  /-- The identity of the first built-in type. -/
  firstBuiltin : Identity := 0
  registry : Registry := {}
  /-- The number of active calls. -/
  depth : Nat := 0
  generator : Random.Generator

namespace Runtime

instance : Inhabited Runtime := ⟨{ generator := default }⟩

def start (options : Options) (first : Identity) : Runtime :=
  { options
    firstBuiltin := first
    registry := Builtin.all.foldl (fun r b => r.insert (b.typeObject first)) {}
    generator := .ofSeed options.seed }

theorem log_start (options : Options) (first : Identity) :
    (start options first).registry.log = Builtin.all.reverse.map (·.typeObject first) := rfl

def builtin (rt : Runtime) (b : Builtin) : TypeObject := b.typeObject rt.firstBuiltin

/-- The exact type of a value. Instances and iterators may be of a type that is no longer `live`. -/
def typeOf (rt : Runtime) (s : Store) : Value → Except Exception TypeObject
  | .null => .ok (rt.builtin .null)
  | .bool _ => .ok (rt.builtin .bool)
  | .int _ => .ok (rt.builtin .int)
  | .float _ => .ok (rt.builtin .float)
  | .str .. => .ok (rt.builtin .str)
  | .tuple .. => .ok (rt.builtin .tuple)
  | .list _ => .ok (rt.builtin .list)
  | .dict _ => .ok (rt.builtin .dict)
  | .type _ => .ok (rt.builtin .type)
  | .function _ => .ok (rt.builtin .function)
  | .method .. => .ok (rt.builtin .method)
  | .object ref => s.live (s.instanceAt ref).type
  | .iterator ref => s.live (s.iteratorAt ref).type

def isInstance (rt : Runtime) (s : Store) (v : Value) (t : TypeObject) : Except Exception Bool :=
  (rt.typeOf s v).map (·.isSubtype t)

end Runtime

structure Host where
  runtime : Runtime
  store : Store := {}

instance : Inhabited Host := ⟨{ runtime := default }⟩

namespace Host

/-- `TypeDecl.build` over the base and `Registry.register`; a declaration at fault leaves the host as it
is. -/
def register (h : Host) (d : TypeDecl Code) (base : Option TypeObject) :
    Except Failure (TypeObject × Host) :=
  match h.runtime.registry.register h.store.nextId d base with
  | .error f => .error f
  | .ok (t, registry) =>
    .ok (t, { runtime := { h.runtime with registry }, store := h.store.fresh.2 })

def newNative (h : Host) (name : String) (spec : ArgSpec) (r : FunctionRoutine) : Value × Host :=
  let (v, s) := h.store.newFunction name (.native spec r)
  (v, { h with store := s })

end Host

end ObjectProtocol
