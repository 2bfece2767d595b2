import ObjectProtocol.Arguments
import ObjectProtocol.Slot

/-!
# Native routines at work

A native routine answers with a value or with a call that is to be made in its place; the call's
outcome, an exception included, is then the routine's own.  Most routines read the store and say what
they make and change.  Those that draw a random number or change a field before they fail leave that
behind, so they give the host's new state beside their outcome.
-/

namespace ObjectProtocol

/-- What a native routine hands back: something to build, or a call to make in its place. -/
inductive Answer
  | value (sketch : Sketch)
  /-- The outcome of calling the target is the answer. -/
  | call (target : Value) (args : List Value)

namespace Answer

def given (v : Value) : Answer := value (.given v)

def int (n : NativeInt) : Answer := given (.ofNative n)

def null : Answer := given .null

end Answer

namespace Host

def build (h : Host) (sketch : Sketch) : Value × Host :=
  match h with
  | ⟨runtime, store⟩ =>
    let (v, store) := sketch.build store
    (v, ⟨runtime, store⟩)

def apply (h : Host) (change : Change) : Host := { h with store := h.store.apply change }

/-- Answers and makes the `Change` that goes with the answer; a failure changes nothing. -/
def answer (h : Host) (x : Except NativeError (Answer × Change)) : Except NativeError Answer × Host :=
  match x with
  | .ok (a, change) => (.ok a, h.apply change)
  | .error e => (.error e, h)

def coin (h : Host) : Bool × Host :=
  let (hit, g) := h.runtime.generator.coin
  (hit, { h with runtime := { h.runtime with generator := g } })

/-- Whether an operation that can be made to fail fails this time, at `faultProbability`. -/
def injectFault (h : Host) : Bool × Host :=
  let (hit, g) := h.runtime.generator.chance h.runtime.options.faultProbability
  (hit, { h with runtime := { h.runtime with generator := g } })

end Host

def ensureCallable (s : Store) (target : Value) : Except Failure Unit :=
  if s.isCallable target then .ok ()
  else .error (.because .typeMismatch "Argument must be a callable")

def invoke (s : Store) (target : Value) (args : List Value) : Except NativeError Answer :=
  (failing (ensureCallable s target)).map fun () => .call target args

/-! ## Stock routines -/

def StockRoutine.run (r : StockRoutine) (s : Store) (a : Args) : Except NativeError Answer :=
  match r with
  | values => .ok (.value (.tupleOf a.values.toArray))
  | narrowed =>
    let items := a.items.map fun item => item.2.elim Value.null .ofNative
    .ok (.value (.tupleOf items.toArray))
  | first => failing do return .given (← a.get 0)
  | text => failing do return .value (.text (← a.text 0))
  | extract => failing do return .int (← a.extract s 0)
  | fail => failing do
    let code := (FailureCode.ofName? (← a.text 0)).getD .invariantBroken
    .error ⟨code, (a.get? 1).bind (·.asText?)⟩
  | raise => do
    let kind ← failing (a.text 0)
    let message ← failing (a.text 1)
    .error (.host ⟨(ExceptionKind.ofName? kind).getD .systemError, message⟩)
  | invoke => do
    let target ← failing (a.get 0)
    ObjectProtocol.invoke s target (a.values.drop 1)

def InstanceRoutine.run (r : InstanceRoutine) (ref : Ref) (i : Instance) (a : Args) :
    Except Failure (Answer × Change) :=
  match r with
  | receiver => .ok (.given (.object ref), .nothing)
  | info =>
    let count := Sketch.count i.fields.length
    .ok (.value (.tuple [.text i.type.name, count, .bool i.dict.isSome]), .nothing)
  | getInt => do
    let offset ← a.int 0
    return (.int (← i.readInt offset.toOffset), .nothing)
  | setInt => do
    let offset ← a.int 0
    let n ← a.int 1
    return (.null, .object ref (← i.write offset.toOffset (.int n)))
  | getObject => do
    let offset ← a.int 0
    return (.given ((← i.readObject offset.toOffset).getD .null), .nothing)
  | setObject => do
    let offset ← a.int 0
    return (.null, .object ref (← i.write offset.toOffset (.object (a.get? 1))))

/-! ## Functions of the sample module -/

namespace Sample

/-- The sum of native integers, refused as soon as a partial sum is out of range. -/
def checkedSum (total : NativeInt) : List NativeInt → Except Failure NativeInt
  | [] => .ok total
  | n :: rest =>
    match total.add? n with
    | some total => checkedSum total rest
    | none => .error (.because .outOfRange "sum does not fit in a native integer")

def extractAll (s : Store) : List Value → Except Failure (List NativeInt)
  | [] => .ok []
  | v :: rest =>
    match s.toNative v with
    | .error f => .error f
    | .ok n => (extractAll s rest).map (n :: ·)

def idCheck (a : Args) : Except Failure Value :=
  if a.size = 1 then a.get 0 else .error (.because .arityViolation "one argument expected")

def raiseExc : Failure := .because .missingAttribute "blaaa"

end Sample

def SampleFunction.run (f : SampleFunction) (h : Host) (a : Args) :
    Except NativeError Answer × Host :=
  match f with
  | typ =>
    let type : Except NativeError Answer := do
      let v ← failing (a.get 0)
      return .given (.type (← raising (h.runtime.typeOf h.store v)))
    (type, h)
  | raiseExc => (.error (.failure Sample.raiseExc), h)
  | forgetRaise => (.error (.failure (.silent .missingAttribute)), h)
  | idCheck => ((failing (Sample.idCheck a)).map .given, h)
  | randomFail =>
    let (hit, h) := h.coin
    if hit then ((failing (Sample.idCheck a)).map .given, h)
    else (.error (.failure Sample.raiseExc), h)
  | returnTrue => (.ok (.given (.bool true)), h)
  | returnFalse => (.ok (.given (.bool false)), h)
  | returnBool =>
    let (hit, h) := h.coin
    (.ok (.given (.bool hit)), h)
  | returnNone => (.ok .null, h)
  | vsum =>
    let sum := Sample.checkedSum 0 (a.items.filterMap (·.2))
    ((failing sum).map .int, h)
  | vsum2 =>
    let sum := (Sample.extractAll h.store a.values).bind (Sample.checkedSum 0)
    ((failing sum).map .int, h)

def FunctionRoutine.run (r : FunctionRoutine) (h : Host) (a : Args) :
    Except NativeError Answer × Host :=
  match r with
  | stock r => (r.run h.store a, h)
  | sample f => f.run h a

end ObjectProtocol
