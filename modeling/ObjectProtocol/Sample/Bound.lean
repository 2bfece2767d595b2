import ObjectProtocol.Integer

/-!
# Containment below a bound

The sample counter is a sequence given by one integer, its bound.  A bound of zero or more contains
itself only; a negative bound contains the integers from itself up to minus one.
-/

namespace ObjectProtocol.Sample

def boundContains (bound n : NativeInt) : Bool :=
  if bound.val < 0 then bound.val ≤ n.val && n.val < 0 else n.val = bound.val

def uninitialized : NativeInt := .minusOne

def counterIteratorName : String := "basic.CounterIterator"

end ObjectProtocol.Sample
