import ObjectProtocol.TypeObject

/-!
# Values

A value is what host code holds.  Scalars and immutable objects carry their content; a text, a tuple,
a function or a bound method also carries the identity that distinguishes it from another one with
the same content.  Lists, dictionaries, instances and iterators can change, so a value only refers to
them, by their place in the store.
-/

namespace ObjectProtocol

inductive FunctionBody
  | host (code : Code)
  | native (spec : ArgSpec) (routine : FunctionRoutine)

structure Function where
  id : Identity
  name : String
  body : FunctionBody

def Function.isNative (f : Function) : Bool :=
  match f.body with
  | .host _ => false
  | .native .. => true

/-- A place in the store. -/
abbrev Ref := Nat

inductive Value
  | null
  | bool (b : Bool)
  | int (i : HostInt)
  | float (x : Float)
  | str (id : Identity) (text : String)
  | tuple (id : Identity) (items : Array Value)
  | list (ref : Ref)
  | dict (ref : Ref)
  | object (ref : Ref)
  | type (t : TypeObject)
  | function (f : Function)
  | method (id : Identity) (receiver : Value) (descriptor : Descriptor)
  | iterator (ref : Ref)

namespace Value

instance : Inhabited Value := ⟨null⟩

def ofNative (n : NativeInt) : Value := int n.toHost

def asInt? : Value → Option HostInt
  | int i => some i
  | bool b => some (HostInt.ofBool b)
  | _ => none

def isInt (v : Value) : Bool := v.asInt?.isSome

def isNull : Value → Bool
  | null => true
  | _ => false

def asBool? : Value → Option Bool
  | bool b => some b
  | _ => none

def asText? : Value → Option String
  | str _ s => some s
  | _ => none

def asTuple? : Value → Option (Array Value)
  | tuple _ items => some items
  | _ => none

def asType? : Value → Option TypeObject
  | type t => some t
  | _ => none

def isObject : Value → Bool
  | object _ => true
  | _ => false

/-- Whether both are the same object. Scalars other than floats are the same when they are equal; a
`float` is not the same as anything. -/
def is : Value → Value → Bool
  | null, null => true
  | bool a, bool b => a = b
  | int a, int b => a = b
  | str a _, str b _ => a = b
  | tuple a _, tuple b _ => a = b
  | list a, list b => a = b
  | dict a, dict b => a = b
  | object a, object b => a = b
  | type a, type b => a.id = b.id
  | function a, function b => a.id = b.id
  | method a _ _, method b _ _ => a = b
  | iterator a, iterator b => a = b
  | _, _ => false

end Value

end ObjectProtocol
