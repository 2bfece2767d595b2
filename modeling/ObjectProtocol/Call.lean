import ObjectProtocol.Construct

/-!
# Calls

How a call begins: native routines are run at once, host code is handed back together with the
arguments it is to be run with.  A native failure becomes an exception where the routine returns, and
nowhere else.
-/

namespace ObjectProtocol

inductive Entry
  | give (v : Value)
  | raise (e : Exception)
  | call (target : Value) (args : List Value)
  /-- A host body with its arguments. -/
  | run (code : Code) (args : List Value)

namespace Entry

/-- What follows from the answer of a native routine: its `Sketch` is built here, and its `NativeError`
becomes an `Exception` here. -/
def ofAnswer (r : Except NativeError Answer × Host) : Entry × Host :=
  match r with
  | (.ok (.value sketch), h) =>
    let (v, h) := h.build sketch
    (give v, h)
  | (.ok (.call target args), h) => (call target args, h)
  | (.error e, h) => (raise e.toException, h)

end Entry

namespace Host

/-- Runs a method on a receiver. A native method needs an instance and parses its arguments; a host method
only has them counted, and gets the receiver as its first one. -/
def runMethod (h : Host) (d : Descriptor) (receiver : Value) (args : List Value) : Entry × Host :=
  match d.method.body with
  | .native routine =>
    match receiver with
    | .object ref =>
      match d.method.spec.parse h.store args with
      | .ok a => Entry.ofAnswer (routine.run h ref a)
      | .error f => (.raise f.toException, h)
    | receiver =>
      (.raise ⟨.typeError, "descriptor '" ++ d.method.name ++ "' requires an instance, not '"
        ++ h.store.typeName receiver ++ "'"⟩, h)
  | .host code =>
    match d.method.spec.checkArity args.length with
    | .ok () => (.run code (receiver :: args), h)
    | .error f => (.raise f.toException, h)

def runFunction (h : Host) (f : Function) (args : List Value) : Entry × Host :=
  match f.body with
  | .host code => (.run code args, h)
  | .native spec routine =>
    match spec.parse h.store args with
    | .ok a => Entry.ofAnswer (routine.run h a)
    | .error f => (.raise f.toException, h)

def newInstance (h : Host) (t : TypeObject) : Ref × Host :=
  match h with
  | ⟨runtime, store⟩ =>
    let (ref, store) := store.newInstance (.alloc t)
    (ref, ⟨runtime, store⟩)

/-- What stands against `newInstance`: a built-in type has no instances, and a `NewSlot` may refuse the
arguments. -/
def refusal? (h : Host) (t : TypeObject) (args : List Value) : Option Exception :=
  if t.own.kind = .builtin then
    some ⟨.typeError, "cannot create '" ++ t.name ++ "' instances"⟩
  else
    match (t.findSlot? (·.new)).elim (.ok ()) (·.check h.store args) with
    | .error f => some f.toException
    | .ok () => none

/-- Initializes a fresh instance by its nearest `__init__` method, or else by its nearest `InitSlot`. With
neither, and no `NewSlot` to look at them, there may be no arguments. -/
def setUp (h : Host) (t : TypeObject) (ref : Ref) (args : List Value) : Entry × Host :=
  match t.findMethod? "__init__" with
  | some d => h.runMethod d (.object ref) args
  | none =>
    match t.findSlot? (·.init) with
    | some slot =>
      let (outcome, i) := slot.run h.store (h.store.instanceAt ref) args
      let h := h.apply (.object ref i)
      match outcome with
      | .ok () => (.give .null, h)
      | .error f => (.raise f.toException, h)
    | none =>
      if (t.findSlot? (·.new)).isNone && !args.isEmpty then
        (.raise ⟨.typeError, t.name ++ "() takes no arguments"⟩, h)
      else (.give .null, h)

end Host

end ObjectProtocol
