import ObjectProtocol.Value

/-!
# Iterators

An iterator walks the positions below a bound.  Over a bound alone it yields the positions
themselves, over a snapshot the items at them.  A cursor is either at a position or past the end,
where it stays.
-/

namespace ObjectProtocol

inductive Cursor
  /-- The next position to yield. -/
  | active (position : NativeInt)
  | exhausted
deriving DecidableEq, Repr

namespace Cursor

/-- The next cursor and the position to yield, if there is one. A position below `bound` has a successor
that is still a native integer. -/
def step (c : Cursor) (bound : NativeInt) : Cursor × Option NativeInt :=
  match c with
  | active p =>
    if h : p.val < bound.val then
      (active ⟨p.val + 1, by have := p.lower; omega, by have := bound.upper; omega⟩, some p)
    else (exhausted, none)
  | exhausted => (exhausted, none)

theorem step_exhausted (bound : NativeInt) : exhausted.step bound = (exhausted, none) := rfl

theorem step_of_le {p bound : NativeInt} (h : bound.val ≤ p.val) :
    (active p).step bound = (exhausted, none) := by
  simp [step, Int.not_lt.2 h]

end Cursor

inductive Source
  | positions (bound : NativeInt)
  | items (snapshot : Array Value)

structure Iterator where
  type : TypeObject
  source : Source
  cursor : Cursor := .active 0

namespace Iterator

instance : Inhabited Iterator := ⟨{ type := default, source := .items #[] }⟩

def bound (it : Iterator) : NativeInt :=
  match it.source with
  | .positions bound => bound
  | .items snapshot => NativeInt.ofCount snapshot.size

/-- How many values `advance` has still to yield. -/
def remaining (it : Iterator) : Nat :=
  match it.cursor with
  | .active p => (it.bound.saturatingSub p).val.toNat
  | .exhausted => 0

def valueAt (it : Iterator) (position : NativeInt) : Option Value :=
  match it.source with
  | .positions _ => some (.ofNative position)
  | .items snapshot => if position.val < 0 then none else snapshot[position.val.toNat]?

/-- The iterator after one advance, and the value it yields; `none` at the end. -/
def advance (it : Iterator) : Iterator × Option Value :=
  let (cursor, position) := it.cursor.step it.bound
  ({ it with cursor }, position.bind it.valueAt)

end Iterator

end ObjectProtocol
