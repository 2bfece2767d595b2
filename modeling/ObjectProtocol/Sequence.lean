import ObjectProtocol.Slot
import ObjectProtocol.Text
import ObjectProtocol.View

/-!
# Sequences

The operations on things that have a length, contain items, can be walked or have places: built-in
containers directly, instances through the slots of their type.  They describe what they make and
what they change instead of doing it.  None of them runs host code; the length of an instance without
a slot is the exception, and is left to the caller as `byMethod`.
-/

namespace ObjectProtocol

inductive Length
  | known (n : NativeInt)
  /-- A method has to be run on the value; the type is the one that was asked. -/
  | byMethod (t : TypeObject) (d : Descriptor)

namespace Store

def notIterable (s : Store) (v : Value) : Exception :=
  ⟨.typeError, "'" ++ s.typeName v ++ "' object is not iterable"⟩

def notIterator (s : Store) (v : Value) : Exception :=
  ⟨.typeError, "'" ++ s.typeName v ++ "' object is not an iterator"⟩

/-- The length of a value; a negative native length reads as 0, and host code is a `Length.byMethod`. -/
def measure (s : Store) (v : Value) : Except Exception Length :=
  match v with
  | .str _ text => .ok (.known (.ofCount text.length))
  | .tuple _ items => .ok (.known (.ofCount items.size))
  | .list ref => .ok (.known (.ofCount (s.listAt ref).size))
  | .dict ref => .ok (.known (.ofCount (s.dictAt ref).size))
  | .object ref =>
    let i := s.instanceAt ref
    match s.live i.type with
    | .error e => .error e
    | .ok t =>
      match t.findSlot? (·.length) with
      | some slot =>
        match slot.run i with
        | .ok n => .ok (.known n.clampNonneg)
        | .error f => .error f.toException
      | none =>
        match t.findMethod? "__len__" with
        | some d => .ok (.byMethod t d)
        | none => .error (noLength v)
  | v => .error (noLength v)
where
  noLength (v : Value) : Exception :=
    ⟨.typeError, "object of type '" ++ s.typeName v ++ "' has no len()"⟩

def endless : Exception := ⟨.recursionError, "maximum recursion depth exceeded"⟩

/-- `contains`, handing the question on at most `n` times. -/
def containsWithin (s : Store) : Nat → Value → Value → Except Exception Bool
  | n, container, item =>
    match container with
    | .str _ text =>
      match item with
      | .str _ block => .ok (Text.hasBlock text block)
      | item =>
        .error ⟨.typeError,
          "'in <string>' requires string as left operand, not " ++ s.typeName item⟩
    | .tuple _ items => .ok (items.any fun v => s.equal v item)
    | .list ref => .ok ((s.listAt ref).any fun v => s.equal v item)
    | .dict ref => .ok ((s.dictAt ref).contains s.equal item)
    | .object ref =>
      let i := s.instanceAt ref
      match s.live i.type with
      | .error e => .error e
      | .ok t =>
        match t.findSlot? (·.contains) with
        | some slot =>
          (slot.run s i item fun inner =>
            match n with
            | 0 => .error endless
            | n + 1 => s.containsWithin n inner item).mapError NativeError.toException
        | none => .error (s.notIterable container)
    | container => .error (s.notIterable container)

/-- A question that is handed on more often than there are instances goes round in a circle and is
`endless`. -/
def contains (s : Store) (container item : Value) : Except Exception Bool :=
  s.containsWithin s.instances.size container item

def iterItems (rt : Runtime) (items : Array Value) : Sketch :=
  .iterator { type := rt.builtin .iterator, source := .items items }

/-- `iter`, handing the question on at most `n` times. -/
def iterWithin (s : Store) (rt : Runtime) : Nat → Value → Except Exception Sketch
  | n, v =>
    match v with
    | .iterator _ => .ok (.given v)
    | .tuple _ items => .ok (iterItems rt items)
    | .list ref => .ok (iterItems rt (s.listAt ref))
    | .dict ref => .ok (iterItems rt (s.dictAt ref).keys)
    | .str _ text => .ok (.characters (rt.builtin .iterator) text)
    | .object ref =>
      let i := s.instanceAt ref
      match s.live i.type with
      | .error e => .error e
      | .ok t =>
        match t.findSlot? (·.iter) with
        | some slot =>
          (slot.run rt i fun inner =>
            match n with
            | 0 => .error endless
            | n + 1 => s.iterWithin rt n inner).mapError NativeError.toException
        | none =>
          if (t.findSlot? (·.next)).isSome then .ok (.given v) else .error (s.notIterable v)
    | v => .error (s.notIterable v)

def iter (s : Store) (rt : Runtime) (v : Value) : Except Exception Sketch :=
  s.iterWithin rt s.instances.size v

/-- What advancing an iterator yields and changes; `none` means the end. -/
def next (s : Store) (v : Value) : Except Exception (Option Value × Change) :=
  match v with
  | .iterator ref =>
    let (it, yielded) := (s.iteratorAt ref).advance
    .ok (yielded, .iterator ref it)
  | .object ref =>
    let i := s.instanceAt ref
    match s.live i.type with
    | .error e => .error e
    | .ok t =>
      match t.findSlot? (·.next) with
      | some slot =>
        match slot.run i with
        | .ok (yielded, i) => .ok (yielded, .object ref i)
        | .error f => .error f.toException
      | none => .error (s.notIterator v)
  | v => .error (s.notIterator v)

/-- How many values an iterator has still to yield, at most: the fuel of `drain`. -/
def pending (s : Store) (v : Value) : Nat :=
  match v with
  | .iterator ref => (s.iteratorAt ref).remaining
  | .object ref =>
    let i := s.instanceAt ref
    match i.type.findSlot? (·.next) with
    | some slot => slot.pending i
    | none => 0
  | _ => 0

/-- Takes values until the end, or until the given number of advances is used up; `taken` holds what was
taken before. -/
def drain (s : Store) (iterator : Value) (taken : Array Value) :
    Nat → Except Exception (Array Value) × Store
  | 0 => (.ok taken, s)
  | n + 1 =>
    match s.next iterator with
    | .error e => (.error e, s)
    | .ok (none, change) => (.ok taken, s.apply change)
    | .ok (some v, change) => (s.apply change).drain iterator (taken.push v) n

/-- All values of an iterable, in order: `iter`, then `drain`. -/
def collect (s : Store) (rt : Runtime) (v : Value) : Except Exception (Array Value) × Store :=
  match s.iter rt v with
  | .error e => (.error e, s)
  | .ok sketch =>
    let (iterator, s) := sketch.build s
    s.drain iterator #[] (s.pending iterator + 1)

def itemAt (s : Store) (items : Array Value) (key : Value) (kind : String) :
    Except Exception Value :=
  match key.asInt? with
  | none =>
    .error ⟨.typeError, kind ++ " indices must be integers, not " ++ s.typeName key⟩
  | some index =>
    -- The sum is taken on unbounded integers, where it cannot leave the range.
    let position := if index.val < 0 then index.val + items.size else index.val
    match if position < 0 then none else items[position.toNat]? with
    | some v => .ok v
    | none => .error ⟨.indexError, kind ++ " index out of range"⟩

def getItem (s : Store) (container key : Value) : Except Exception Value :=
  match container with
  | .tuple _ items => s.itemAt items key "tuple"
  | .list ref => s.itemAt (s.listAt ref) key "list"
  | .dict ref =>
    match (s.dictAt ref).get? s.equal key with
    | some v => .ok v
    | none => .error ⟨.keyError, s.repr key⟩
  | container =>
    .error ⟨.typeError, "'" ++ s.typeName container ++ "' object is not subscriptable"⟩

/-- The sum of two numbers, or the concatenation of two texts, tuples or lists. -/
def add (s : Store) (v w : Value) : Except Exception Sketch :=
  match v.asInt?, w.asInt? with
  | some i, some j =>
    match i.add? j with
    | some k => .ok (.given (.int k))
    | none => .error ⟨.overflowError, "integer addition overflowed"⟩
  | i, j =>
    match v, w with
    | .float x, .float y => .ok (.given (.float (x + y)))
    | .float x, _ =>
      match j with
      | some j => .ok (.given (.float (x + j.toFloat)))
      | none => .error unsupported
    | _, .float y =>
      match i with
      | some i => .ok (.given (.float (y + i.toFloat)))
      | none => .error unsupported
    | .str _ a, .str _ b => .ok (.text (a ++ b))
    | .tuple _ xs, .tuple _ ys => .ok (.tupleOf (xs ++ ys))
    | .list r, .list r' => .ok (.listOf (s.listAt r ++ s.listAt r'))
    | _, _ => .error unsupported
where
  unsupported : Exception :=
    ⟨.typeError, "unsupported operand type(s) for +: '" ++ s.typeName v ++ "' and '"
      ++ s.typeName w ++ "'"⟩

end Store

end ObjectProtocol
