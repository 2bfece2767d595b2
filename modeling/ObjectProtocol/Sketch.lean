import ObjectProtocol.Equality

/-!
# Sketches

A sketch describes the answer of an operation: a value that already exists, or one that is to be made
around existing values.  Operations that only read hand out sketches, so they cannot touch an object;
building one gives every new object an identity of its own and leaves the old ones as they are.
-/

namespace ObjectProtocol

inductive Sketch
  | given (v : Value)
  | text (s : String)
  | tuple (items : List Sketch)
  /-- A dictionary with texts as keys. -/
  | dict (entries : List (String × Sketch))
  /-- A tuple of existing values. -/
  | tupleOf (items : Array Value)
  /-- A list of existing values. -/
  | listOf (items : Array Value)
  | method (receiver : Value) (d : Descriptor)
  | iterator (it : Iterator)
  /-- An iterator of the given type over the characters of a text. -/
  | characters (t : TypeObject) (text : String)

namespace Sketch

def count (n : Nat) : Sketch := given (.ofNative (.ofCount n))

def bool (b : Bool) : Sketch := given (.bool b)

def null : Sketch := given .null

def optional {α : Type} (f : α → Sketch) : Option α → Sketch
  | some a => f a
  | none => null

mutual

/-- Makes the value that a sketch describes; what is `given` exists already. -/
def build : Sketch → Store → Value × Store
  | given v, s => (v, s)
  | text t, s => s.newText t
  | tuple items, s =>
    let (vs, s) := buildAll items s
    s.newTuple vs.toArray
  | dict entries, s =>
    let (m, s) := buildEntries entries {} s
    s.newDict m
  | tupleOf items, s => s.newTuple items
  | listOf items, s => s.newList items
  | method receiver d, s => s.newMethod receiver d
  | iterator it, s => s.newIterator it
  | characters t source, s =>
    let (items, s) := s.newCharacters source
    s.newIterator { type := t, source := .items items }

def buildAll : List Sketch → Store → List Value × Store
  | [], s => ([], s)
  | item :: rest, s =>
    let (v, s) := build item s
    let (vs, s) := buildAll rest s
    (v :: vs, s)

def buildEntries : List (String × Sketch) → Mapping → Store → Mapping × Store
  | [], m, s => (m, s)
  | (name, value) :: rest, m, s =>
    let (key, s) := s.newText name
    let (v, s) := build value s
    buildEntries rest (m.insert s.equal key v) s

end

end Sketch

end ObjectProtocol
