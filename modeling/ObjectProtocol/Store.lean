import ObjectProtocol.Heap
import ObjectProtocol.Instance
import ObjectProtocol.Iterator
import ObjectProtocol.Mapping

/-!
# The store

The store holds everything that can change behind a value's back: lists, dictionaries, instances and
iterators.  It also hands out identities and remembers which types have been released; an instance
refers to its type without keeping it, so every operation on an instance first asks for its type with
`live`.  An operation that writes to an object that exists says so with a `Change`, which gives one
cell its new content; what a change does not name stays as it is.
-/

namespace ObjectProtocol

structure Store where
  /-- The next identity to hand out. -/
  nextId : Identity := 0
  lists : Heap (Array Value) := {}
  dicts : Heap Mapping := {}
  instances : Heap Instance := {}
  iterators : Heap Iterator := {}
  /-- The types that nothing owns any more. -/
  released : List Identity := []

/-- A write to at most one object that exists; `Store.apply` makes it. -/
inductive Change
  | nothing
  | object (ref : Ref) (content : Instance)
  | iterator (ref : Ref) (content : Iterator)

namespace Store

instance : Inhabited Store := ⟨{}⟩

/-! ## Looking at objects -/

def listAt (s : Store) (ref : Ref) : Array Value := (s.lists.get? ref).getD #[]

def dictAt (s : Store) (ref : Ref) : Mapping := (s.dicts.get? ref).getD {}

def instanceAt (s : Store) (ref : Ref) : Instance := (s.instances.get? ref).getD default

def iteratorAt (s : Store) (ref : Ref) : Iterator := (s.iterators.get? ref).getD default

def typeName (s : Store) : Value → String
  | .null => "NoneType"
  | .bool _ => "bool"
  | .int _ => "int"
  | .float _ => "float"
  | .str .. => "str"
  | .tuple .. => "tuple"
  | .list _ => "list"
  | .dict _ => "dict"
  | .object ref => (s.instanceAt ref).type.name
  | .type _ => "type"
  | .function _ => "function"
  | .method .. => "method"
  | .iterator ref => (s.iteratorAt ref).type.name

/-- The type itself, unless it is among the `released`. -/
def live (s : Store) (t : TypeObject) : Except Exception TypeObject :=
  if t.id ∈ s.released then .error ⟨.systemError, "type '" ++ t.name ++ "' was released"⟩
  else .ok t

/-- True of every `type`, even of those whose calls always raise. -/
def isCallable (s : Store) : Value → Bool
  | .function _ | .method .. | .type _ => true
  | .object ref =>
    match s.live (s.instanceAt ref).type with
    | .ok t => (t.findMethod? "__call__").isSome
    | .error _ => false
  | _ => false

def isTruthy (s : Store) : Value → Bool
  | .null => false
  | .bool b => b
  | .int i => i ≠ 0
  | .float x => x != 0.0
  | .str _ text => text ≠ ""
  | .tuple _ items => !items.isEmpty
  | .list ref => !(s.listAt ref).isEmpty
  | .dict ref => !(s.dictAt ref).isEmpty
  | _ => true

def toNative (s : Store) (v : Value) : Except Failure NativeInt :=
  match v.asInt? with
  | some i =>
    match i.toNative? with
    | some n => .ok n
    | none =>
      .error (.because .outOfRange
        (if 0 < i.val then "int too large to convert to native integer"
         else "int too small to convert to native integer"))
  | none =>
    .error (.because .typeMismatch ("an integer is required (got type " ++ s.typeName v ++ ")"))

/-! ## Making objects -/

def fresh (s : Store) : Identity × Store := (s.nextId, { s with nextId := s.nextId + 1 })

def newText (s : Store) (text : String) : Value × Store :=
  (.str s.nextId text, { s with nextId := s.nextId + 1 })

def newTuple (s : Store) (items : Array Value) : Value × Store :=
  (.tuple s.nextId items, { s with nextId := s.nextId + 1 })

def newMethod (s : Store) (receiver : Value) (d : Descriptor) : Value × Store :=
  (.method s.nextId receiver d, { s with nextId := s.nextId + 1 })

def newFunction (s : Store) (name : String) (body : FunctionBody) : Value × Store :=
  (.function ⟨s.nextId, name, body⟩, { s with nextId := s.nextId + 1 })

def newList (s : Store) (items : Array Value) : Value × Store :=
  (.list s.lists.size, { s with lists := s.lists.push items })

def newDict (s : Store) (m : Mapping) : Value × Store :=
  (.dict s.dicts.size, { s with dicts := s.dicts.push m })

def newInstance (s : Store) (i : Instance) : Ref × Store :=
  (s.instances.size, { s with instances := s.instances.push i })

def newIterator (s : Store) (it : Iterator) : Value × Store :=
  (.iterator s.iterators.size, { s with iterators := s.iterators.push it })

def newCharacters (s : Store) (text : String) : Array Value × Store :=
  let characters := text.toList.mapIdx fun i c => Value.str (s.nextId + i) (String.singleton c)
  (characters.toArray, { s with nextId := s.nextId + text.length })

/-! ## Changing objects -/

def appendItem (s : Store) (ref : Ref) (item : Value) : Store :=
  { s with lists := s.lists.modify ref (·.push item) }

def setDict (s : Store) (ref : Ref) (m : Mapping) : Store :=
  { s with dicts := s.dicts.set ref m }

def setInstance (s : Store) (ref : Ref) (i : Instance) : Store :=
  { s with instances := s.instances.set ref i }

def setIterator (s : Store) (ref : Ref) (it : Iterator) : Store :=
  { s with iterators := s.iterators.set ref it }

/-- Gives one cell its new content. -/
def apply (s : Store) : Change → Store
  | .nothing => s
  | .object ref content => s.setInstance ref content
  | .iterator ref content => s.setIterator ref content

/-! A change leaves lists, dictionaries and released types alone. -/

@[simp] theorem lists_apply (s : Store) (c : Change) : (s.apply c).lists = s.lists := by
  cases c <;> rfl

@[simp] theorem dicts_apply (s : Store) (c : Change) : (s.apply c).dicts = s.dicts := by
  cases c <;> rfl

@[simp] theorem released_apply (s : Store) (c : Change) : (s.apply c).released = s.released := by
  cases c <;> rfl

end Store

end ObjectProtocol
