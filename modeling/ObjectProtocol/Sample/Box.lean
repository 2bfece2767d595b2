import ObjectProtocol.Native
import ObjectProtocol.Record

/-!
# The sample box

A box holds one object and counts.  The object is put in by the constructor and cannot be replaced; a
text that is put in sets the counter to its length.  `incr` refuses to leave the native range, and
`maybeIncr` may be made to fail, before or after it has moved the counter, as the mutation policy says.
-/

namespace ObjectProtocol.Sample.Box

def contentsField : Nat := 0

def counterField : Nat := 1

/-- For a counter of this value `init` fails without a reason. -/
def errorCounter : NativeInt := .minusOne

def constructorSpec : ArgSpec := (ArgSpec.empty.required .any).required .int

/-- Checks the arguments against `constructorSpec` before anything is allocated. -/
def checkNew (s : Store) (args : List Value) : Except Failure Unit := do
  let a ← constructorSpec.parse s args
  if (← a.int 1) = errorCounter then .error (.silent .invariantBroken) else .ok ()

def initialCounter (a : Args) (contents : Value) : Except Failure NativeInt :=
  match contents.asText? with
  | some text =>
    match NativeInt.ofInt? text.length with
    | some n => .ok n
    | none => .error (.because .outOfRange "contents too long for the counter")
  | none => a.int 1

def init (s : Store) (i : Instance) (args : List Value) : Except Failure Instance := do
  let a ← constructorSpec.parse s args
  let contents ← a.get 0
  let counter ← initialCounter a contents
  let i ← i.write contentsField (.object (some contents))
  i.write counterField (.int counter)

def contents (i : Instance) : Except Failure Value :=
  (i.readObject contentsField).map (·.getD .null)

def counter (i : Instance) : Except Failure NativeInt := i.readInt counterField

def record (i : Instance) : Except Failure Record := do
  let c ← contents i
  let n ← counter i
  return ⟨[("contents", c), ("counter", .ofNative n)]⟩

def incr (i : Instance) : Except Failure Instance := do
  match (← counter i).add? 1 with
  | some n => i.write counterField (.int n)
  | none => .error (.because .outOfRange "counter overflow")

/-- Adds one to a counter that reads `n`, when an injected fault may come in between. -/
def settle (i : Instance) (policy : MutationPolicy) (n : NativeInt) (faulted : Bool) :
    Except Failure Unit × Instance :=
  let fault : Failure := .silent .invariantBroken
  let commit (m : NativeInt) (failed : Bool) : Except Failure Unit × Instance :=
    match i.write counterField (.int m) with
    | .error f => (.error f, i)
    | .ok i => (if failed then .error fault else .ok (), i)
  match policy, n.add? 1 with
  | .validateThenMutate, some m => if faulted then (.error fault, i) else commit m false
  | .validateThenMutate, none => (.error fault, i)
  | .mutateThenValidate, next => commit (n.wrappingAdd 1) (faulted || next.isNone)

/-- Adds one to the counter unless `injectFault` hits. Nothing is drawn when there is no counter. -/
def maybeIncr (h : Host) (ref : Ref) : Except NativeError Answer × Host :=
  let i := h.store.instanceAt ref
  match counter i with
  | .error f => (.error (.failure f), h)
  | .ok n =>
    -- The draw comes before the policy is asked, so both policies see the same draws.
    let (faulted, h) := h.injectFault
    let (outcome, i) := settle i h.runtime.options.mutationPolicy n faulted
    ((failing outcome).map fun () => .null, h.apply (.object ref i))

def callback (s : Store) (i : Instance) (a : Args) : Except NativeError Answer := do
  let target ← failing (a.get 0)
  failing (ensureCallable s target)
  let c ← failing (contents i)
  let n ← failing (counter i)
  invoke s target [c, .ofNative n]

end ObjectProtocol.Sample.Box

namespace ObjectProtocol

open Sample in
def BoxMethod.run (m : BoxMethod) (h : Host) (ref : Ref) (a : Args) :
    Except NativeError Answer × Host :=
  let i := h.store.instanceAt ref
  match m with
  | getContents => ((failing (Box.contents i)).map .given, h)
  | getCounter => ((failing (Box.counter i)).map .int, h)
  | getData => ((failing (Box.record i)).map fun r => .value r.toTuple, h)
  | brokenGetData =>
    let data := (Box.record i).bind fun r => r.typedTuple h.store [.int, .int]
    ((failing data).map .value, h)
  | getDataDict => ((failing (Box.record i)).map fun r => .value r.toDict, h)
  | incr => h.answer ((failing (Box.incr i)).map fun i => (.null, .object ref i))
  | maybeIncr => Box.maybeIncr h ref
  | callback => (Box.callback h.store i a, h)

end ObjectProtocol
