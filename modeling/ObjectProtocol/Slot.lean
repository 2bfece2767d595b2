import ObjectProtocol.Host
import ObjectProtocol.Sample.Bound
import ObjectProtocol.Sketch

/-!
# Slots at work

What each native slot does with an instance.  A slot only reads the store: what it makes it describes,
and what it changes is the content of its own instance, which it gives back.  A slot that hands the
question on to the object in field 0 takes the operation to hand it to as an argument; the operations
themselves are in `ObjectProtocol.Sequence`.
-/

namespace ObjectProtocol

/-- A `Failure` of native code, as the error of a routine. -/
abbrev failing {α : Type} (x : Except Failure α) : Except NativeError α := x.mapError .failure

/-- An `Exception` of the host that passes through a routine. -/
abbrev raising {α : Type} (x : Except Exception α) : Except NativeError α := x.mapError .host

namespace LengthSlot

def run : LengthSlot → Instance → Except Failure NativeInt
  | int offset, i => i.readInt offset
  | fail, _ => .error (.because .typeMismatch "no length")

end LengthSlot

namespace ContainsSlot

def run (slot : ContainsSlot) (s : Store) (i : Instance) (item : Value)
    (inside : Value → Except Exception Bool) : Except NativeError Bool :=
  match slot with
  | equalsObject => failing do
    let content ← i.readObject 0
    return s.equal (content.getD .null) item
  | equalsInt => failing do
    let n ← i.readInt 0
    let m ← s.toNative item
    return n = m
  | inObject => do
    let content ← failing (i.readObject 0)
    raising (inside (content.getD .null))
  | counter => failing do
    let n ← s.toNative item
    let bound ← i.readInt 0
    return Sample.boundContains bound n

end ContainsSlot

namespace IterSlot

def run (slot : IterSlot) (rt : Runtime) (i : Instance)
    (inside : Value → Except Exception Sketch) : Except NativeError Sketch :=
  match slot with
  | positions => failing do
    let bound ← i.readInt 0
    return .iterator { type := rt.builtin .iterator, source := .positions bound }
  | ofObject => do
    let content ← failing (i.readObject 0)
    raising (inside (content.getD .null))
  | rawObject => failing do
    let content ← i.readObject 0
    return .given (content.getD .null)
  | counter => failing do
    match rt.registry.named? Sample.counterIteratorName with
    | none =>
      .error (.because .invariantBroken ("'" ++ Sample.counterIteratorName ++ "' is not registered"))
    | some t =>
      let bound ← i.readInt 0
      return .iterator { type := t, source := .positions bound }

end IterSlot

namespace NextSlot

/-- The next value, if there is one, and the instance after the advance. -/
def run (slot : NextSlot) (i : Instance) : Except Failure (Option Value × Instance) :=
  match slot with
  | countdown => do
    let n ← i.readInt 0
    if h : 0 < n.val then
      let i ← i.write 0 (.int (n.pred h))
      return (some (.ofNative n), i)
    else return (none, i)
  | exhausted => .error .exhausted
  | drained => .error (.because .sequenceExhausted "drained")

def pending (slot : NextSlot) (i : Instance) : Nat :=
  match slot, i.readInt 0 with
  | countdown, .ok n => n.val.toNat
  | _, _ => 0

end NextSlot

end ObjectProtocol
