import ObjectProtocol.Native

/-!
# The sample counter

A counter is a sequence given by one integer, its bound.  The generic length reads a negative bound
as 0, while `rawLength` shows the bound as it is and refuses the value of a counter that was not
given one.
-/

namespace ObjectProtocol.Sample.Counter

def boundField : Nat := 0

/-- Any object; that it is an integer is checked afterwards, by `init`. -/
def constructorSpec : ArgSpec := ArgSpec.empty.required .any

def init (s : Store) (i : Instance) (args : List Value) : Except Failure Instance := do
  let a ← constructorSpec.parse s args
  if (← a.get 0).isInt then i.write boundField (.int (← a.extract s 0))
  else .error (.because .typeMismatch "integer required")

def rawLength (i : Instance) : Except Failure NativeInt := do
  let bound ← i.readInt boundField
  if bound = uninitialized then .error (.because .typeMismatch "uninitialized") else .ok bound

end ObjectProtocol.Sample.Counter
