import ObjectProtocol.Store

/-!
# Equality

Values are compared by content where they have any.  Numbers are compared as numbers, an integer with
a float after rounding the integer to a double.  A list or dictionary equals itself and everything
with equal content, which has to be looked up in the store; the look-ups are counted, so that the
comparison ends on every store, and no chain of containers without a cycle is longer than the number
of containers there are.  Rows are compared only when they have the same number of places.
-/

namespace ObjectProtocol

namespace Value

/-- Whether a number equals a float: `toFloat` rounds an integer to a double first. -/
def equalsFloat (v : Value) (x : Float) : Bool :=
  match v with
  | .float y => y == x
  | v => v.asInt?.any (·.toFloat == x)

def equalPlain : Value → Value → Bool
  | .int i, .int j => i = j
  | .str _ s, .str _ t => s = t
  | .float x, w => w.equalsFloat x
  | v, .float y => v.equalsFloat y
  | .null, .null => true
  | .bool b, .bool c => b = c
  | .bool b, .int j => HostInt.ofBool b = j
  | .int i, .bool c => i = HostInt.ofBool c
  | .object r, .object r' => r = r'
  | .type t, .type u => t.id = u.id
  | .function f, .function g => f.id = g.id
  | .method _ r d, .method _ r' d' => r.is r' && d.same d'
  | .iterator r, .iterator r' => r = r'
  | _, _ => false

mutual

/-- Equality, given that of two different lists and of two different dictionaries. -/
def equalWith (lists dicts : Ref → Ref → Bool) : Value → Value → Bool
  | .tuple _ xs, .tuple _ ys => xs.size = ys.size && equalRowWith lists dicts xs ys.toList
  | .list r, .list r' => r = r' || lists r r'
  | .dict r, .dict r' => r = r' || dicts r r'
  | v, w => v.equalPlain w

def equalRowWith (lists dicts : Ref → Ref → Bool) : Array Value → List Value → Bool
  | ⟨vs⟩, ws => equalAllWith lists dicts vs ws

def equalAllWith (lists dicts : Ref → Ref → Bool) : List Value → List Value → Bool
  | [], [] => true
  | v :: vs, w :: ws => equalWith lists dicts v w && equalAllWith lists dicts vs ws
  | _, _ => false

end

end Value

namespace Store

/-- `equalWith` after at most the given number of look-ups along any path. -/
def equalWithin (s : Store) : Nat → Value → Value → Bool
  | 0, v, w => v.equalWith (fun _ _ => false) (fun _ _ => false) w
  | n + 1, v, w =>
    v.equalWith
      (fun r r' => (s.listAt r).isEqv (s.listAt r') (s.equalWithin n))
      (fun r r' =>
        (s.dictAt r).entries.isEqv (s.dictAt r').entries fun x y =>
          s.equalWithin n x.1 y.1 && s.equalWithin n x.2 y.2)
      w

/-- `equalWithin` with a look-up for every list and dictionary of the store. -/
def equal (s : Store) (v w : Value) : Bool :=
  match v with
  | .tuple .. | .list _ | .dict _ => s.equalWithin (s.lists.size + s.dicts.size) v w
  | v => v.equalPlain w

/-- `equal` looks nothing up for a value that is not looked into. -/
theorem equal_eq (s : Store) (v w : Value) :
    s.equal v w = s.equalWithin (s.lists.size + s.dicts.size) v w := by
  unfold equal
  split
  · rfl
  · rfl
  · rfl
  · cases s.lists.size + s.dicts.size <;> cases v <;> simp_all [equalWithin, Value.equalWith]

end Store

end ObjectProtocol
