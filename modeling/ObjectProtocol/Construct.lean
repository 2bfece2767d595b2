import ObjectProtocol.Sample.Box
import ObjectProtocol.Sample.Counter

/-!
# Allocation, initialization and native methods

The slots that make an instance, and the routines that run on one.  An allocation slot checks what it
has to check and allocates last; an initialization slot may have stored some fields when it fails.
-/

namespace ObjectProtocol

namespace NewSlot

def check (slot : NewSlot) (s : Store) (args : List Value) : Except Failure Unit :=
  match slot with
  | alloc => .ok ()
  | noArguments => ((ArgSpec.empty.named "new").parse s args).map fun _ => ()
  | failSilently => .error (.silent .outOfRange)
  | fail => .error (.because .outOfRange "new refused")
  | box => Sample.Box.checkNew s args

end NewSlot

namespace InitSlot

/-- Stores the arguments in the fields from place `n` on. Where the layout has a `FieldKind.object`, and
everywhere if asked to, the argument itself is stored, elsewhere its `toNative`. -/
def storeFrom (s : Store) (i : Instance) (objects : Bool) (n : Nat) :
    List Value → Except Failure Unit × Instance
  | [] => (.ok (), i)
  | v :: rest =>
    let content : Except Failure Field :=
      if objects || i.type.own.layout[n]? = some .object then .ok (.object (some v))
      else (s.toNative v).map .int
    match content.bind (i.write n) with
    | .error f => (.error f, i)
    | .ok i => storeFrom s i objects (n + 1) rest

def atomic (i : Instance) (x : Except Failure Instance) : Except Failure Unit × Instance :=
  match x with
  | .ok i => (.ok (), i)
  | .error f => (.error f, i)

/-- The outcome of an `InitSlot`, and the instance after it: `storeFrom` may leave it half filled, the
sample's slots are `atomic`. -/
def run (slot : InitSlot) (s : Store) (i : Instance) (args : List Value) :
    Except Failure Unit × Instance :=
  match slot with
  | store => storeFrom s i false 0 args
  | storeObjects => storeFrom s i true 0 args
  | ignore => (.ok (), i)
  | fail => (.error (.because .readOnlyWrite "init refused"), i)
  | box => atomic i (Sample.Box.init s i args)
  | counter => atomic i (Sample.Counter.init s i args)

end InitSlot

def MethodRoutine.run (r : MethodRoutine) (h : Host) (ref : Ref) (a : Args) :
    Except NativeError Answer × Host :=
  let i := h.store.instanceAt ref
  match r with
  | stock r => (r.run h.store a, h)
  | onInstance r => h.answer (failing (r.run ref i a))
  | box m => m.run h ref a
  | rawLength => ((failing (Sample.Counter.rawLength i)).map .int, h)

end ObjectProtocol
