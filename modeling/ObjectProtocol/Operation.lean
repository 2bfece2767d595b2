import ObjectProtocol.Attribute
import ObjectProtocol.Description
import ObjectProtocol.Liveness
import ObjectProtocol.Native
import ObjectProtocol.Sample.Module
import ObjectProtocol.Sequence

/-!
# Operations

What each operation does with its evaluated operands.  An operation answers, raises, asks for a call,
or asks for the length of an instance to be taken by its method; it never runs host code itself.  The
groups of operations differ in what they are given to change: operations on objects change the store
only, draws the generator only, and declarations the registry.
-/

namespace ObjectProtocol

/-- What an operation asks for: its value, its exception, or a call of host code. -/
inductive Request
  | value (v : Value)
  | raise (e : Exception)
  /-- A call on a frame of its own, whose outcome is that of the operation. -/
  | call (target : Value) (args : List Value)
  /-- The method on the receiver, without a frame, for a length; the type is kept meanwhile. -/
  | measure (t : TypeObject) (d : Descriptor) (receiver : Value)
  /-- The operands do not fit the operation. -/
  | malformed

namespace Request

def ofResult (x : Except Exception Value) (s : Store) : Request × Store :=
  match x with
  | .ok v => (value v, s)
  | .error e => (raise e, s)

def ofSketch (sketch : Sketch) (s : Store) : Request × Store :=
  let (v, s) := sketch.build s
  (value v, s)

def ofMaking (x : Except Exception Sketch) (s : Store) : Request × Store :=
  match x with
  | .ok sketch => ofSketch sketch s
  | .error e => (raise e, s)

def ofChange (x : Except Exception Change) (s : Store) : Request × Store :=
  match x with
  | .ok change => (value .null, s.apply change)
  | .error e => (raise e, s)

def made (r : Value × Store) : Request × Store := (value r.1, r.2)

end Request

/-! ## Operations on objects -/

namespace ObjectOp

/-- A free-standing member applied to a value, which has to be an `instance`. -/
def onInstance (v : Value) (s : Store) (f : Ref → Instance → Request × Store) : Request × Store :=
  match v with
  | .object ref => f ref (s.instanceAt ref)
  | _ => (.malformed, s)

def run (op : ObjectOp) (operands : List Value) (rt : Runtime) (s : Store) : Request × Store :=
  match op, operands with
  | tuple, items => Request.made (s.newTuple items.toArray)
  | list, items => Request.made (s.newList items.toArray)
  | call, target :: args => (.call target args, s)
  | callMethod name, receiver :: args =>
    match s.getAttr receiver name with
    | .ok sketch =>
      let (m, s) := sketch.build s
      (.call m args, s)
    | .error e => (.raise e, s)
  | getAttr name, [target] => Request.ofMaking (s.getAttr target name) s
  | setAttr name, [target, v] => Request.ofChange (s.setAttr target name v) s
  | delAttr name, [target] => Request.ofChange (s.delAttr target name) s
  | callable, [v] => (.value (.bool (s.isCallable v)), s)
  | depth, [] => (.value (.ofNative (.ofCount rt.depth)), s)
  | bind name, [receiver, .type t] =>
    match t.findMethod? name with
    | some d => Request.made (s.newMethod receiver d)
    | none => (.malformed, s)
  | len, [v] =>
    match s.measure v with
    | .ok (.known n) => (.value (.ofNative n), s)
    | .ok (.byMethod t d) => (.measure t d v, s)
    | .error e => (.raise e, s)
  | contains, [container, v] => Request.ofResult ((s.contains container v).map .bool) s
  | iter, [v] => Request.ofMaking (s.iter rt v) s
  | next, [v] =>
    match s.next v with
    | .ok (some v, change) => Request.made ((s.apply change).newTuple #[v])
    | .ok (none, change) => (.value .null, s.apply change)
    | .error e => (.raise e, s)
  | nextOrRaise, [v] =>
    match s.next v with
    | .ok (some v, change) => (.value v, s.apply change)
    | .ok (none, change) => (.raise Failure.exhausted.toException, s.apply change)
    | .error e => (.raise e, s)
  | collect, [v] =>
    match s.collect rt v with
    | (.ok items, s) => Request.made (s.newList items)
    | (.error e, s) => (.raise e, s)
  | item, [container, key] => Request.ofResult (s.getItem container key) s
  | add, [v, w] => Request.ofMaking (s.add v w) s
  | iterBound bound, [.type t] =>
    Request.made (s.newIterator { type := t, source := .positions bound })
  | iterItems, .type t :: items =>
    Request.made (s.newIterator { type := t, source := .items items.toArray })
  | eq, [v, w] => (.value (.bool (s.equal v w)), s)
  | is, [v, w] => (.value (.bool (v.is w)), s)
  | repr, [v] => Request.ofSketch (.text (s.repr v)) s
  | str, [v] => Request.ofSketch (.text (s.display v)) s
  | truthy, [v] => (.value (.bool (s.isTruthy v)), s)
  | typeName, [v] => Request.ofSketch (.text (s.typeName v)) s
  | views, [v] => Request.ofSketch (.ofViews v) s
  | push, [.list ref, v] => (.value .null, s.appendItem ref v)
  | put, [.dict ref, key, v] =>
    let m := (s.dictAt ref).insert s.equal key v
    (.value .null, s.setDict ref m)
  | debug, [v] => Request.ofSketch (.text (Debug.value s v)) s
  | debugRuntime, [] => Request.ofSketch (.text (Debug.runtime rt)) s
  | typeOf, [v] => Request.ofResult ((rt.typeOf s v).map .type) s
  | isInstance, [v, .type t] => Request.ofResult ((rt.isInstance s v t).map .bool) s
  | subtype, [.type t, .type u] => (.value (.bool (t.isSubtype u)), s)
  | lookup name, [] => (.value ((rt.registry.named? name).elim .null .type), s)
  | typeCount, [] => (.value (.ofNative (.ofCount rt.registry.size)), s)
  | find name, [.type t] => Request.ofSketch (.ofFind t name) s
  | typeInfo, [.type t] => Request.ofSketch (.ofType t) s
  | memberGet m, [v] => onInstance v s fun _ i =>
    Request.ofResult ((m.get i).mapError Failure.toException) s
  | memberSet m, [v, w] => onInstance v s fun ref i =>
    Request.ofChange (((m.set s i w).map (.object ref)).mapError Failure.toException) s
  | memberDelete m, [v] => onInstance v s fun ref i =>
    Request.ofChange (((m.delete i).map (.object ref)).mapError Failure.toException) s
  | _, _ => (.malformed, s)

/-- Whether the operation itself may ask for the type of an instance or an iterator, see
`Config.asksForType`. -/
def asksForType : ObjectOp → Bool
  | callMethod _ | getAttr _ | setAttr _ | delAttr _ | callable | len | contains | iter | next
  | nextOrRaise | collect | typeOf | isInstance => true
  | _ => false

end ObjectOp

/-! ## Draws and declarations -/

namespace DrawOp

def run (op : DrawOp) (h : Host) : Value × Host :=
  match op with
  | coin =>
    let (hit, h) := h.coin
    (.bool hit, h)
  | injectFault =>
    let (hit, h) := h.injectFault
    (.bool hit, h)

end DrawOp

namespace Host

def declare (h : Host) (d : TypeDecl Code) (operands : List Value) : Request × Host :=
  let onto (base : Option TypeObject) : Request × Host :=
    match h.register d base with
    | .ok (t, h) => (.value (.type t), h)
    | .error f => (.raise f.toException, h)
  match operands with
  | [] => onto none
  | [.type base] => onto (some base)
  | _ => (.malformed, h)

end Host

/-! ## Operations on variables and modules -/

namespace Session

/-- Adds exports to a module in order, taking types and objects from the operands; `none` when their
numbers disagree. -/
def addExports (m : Module) (h : Host) : List ExportDecl → List Value → Option (Module × Host)
  | [], [] => some (m, h)
  | .function name spec r :: rest, operands =>
    let (v, h) := h.newNative name spec r
    addExports (m.add name v) h rest operands
  | .int name n :: rest, operands => addExports (m.add name (.ofNative n)) h rest operands
  | .type name :: rest, .type t :: operands => addExports (m.add name (.type t)) h rest operands
  | .object name :: rest, v :: operands => addExports (m.add name v) h rest operands
  | _, _ => none

def setModule (s : Session) (m : Module) : Session :=
  { s with modules := s.modules.insert m.name m }

def loadSample (s : Session) : Request × Session :=
  match Sample.load s.host with
  | .ok (m, host) => (.value .null, { s with host }.setModule m)
  | .error f => (.raise f.toException, s)

end Session

namespace SessionOp

def onModule (s : Session) (module : String) (f : Module → Request) : Request × Session :=
  match s.modules.get? module with
  | some m => (f m, s)
  | none => (.malformed, s)

def run (op : SessionOp) (operands : List Value) (s : Session) : Request × Session :=
  match op, operands with
  | getVariable name, [] =>
    match s.globals.get? name with
    | some v => (.value v, s)
    | none => (.malformed, s)
  | setVariable name, [v] => (.value v, { s with globals := s.globals.insert name v })
  | dropVariable name, [] =>
    (.value (.bool (s.globals.contains name)), { s with globals := s.globals.erase name })
  | moduleAttr module name, [] => onModule s module fun m =>
    match m.attr name with
    | .ok v => .value v
    | .error e => .raise e
  | moduleGet module name, [] => onModule s module fun m => .value ((m.get? name).getD .null)
  | moduleInfo module name, [] =>
    match s.modules.get? module with
    | some m =>
      let (v, store) := (Sketch.ofModule m name).build s.host.store
      (.value v, s.setStore store)
    | none => (.malformed, s)
  | makeModule name version exported, operands =>
    match Session.addExports { name, version } s.host exported operands with
    | some (m, host) => (.value .null, { s with host }.setModule m)
    | none => (.malformed, s)
  | loadSample, [] => s.loadSample
  | _, _ => (.malformed, s)

end SessionOp

def Op.run (op : Op Code) (operands : List Value) (s : Session) : Request × Session :=
  match op with
  | object op => s.onStore fun runtime store => op.run operands runtime store
  | draw op =>
    match operands with
    | [] =>
      let (v, host) := op.run s.host
      (.value v, { s with host })
    | _ => (.malformed, s)
  | declare d =>
    let (r, host) := s.host.declare d operands
    (r, { s with host })
  | closure name body => s.onStore fun _ store => Request.made (store.newFunction name (.host body))
  | session op => op.run operands s

end ObjectProtocol
