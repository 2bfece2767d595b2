/-!
# Heaps

A heap is a row of cells that only grows; a cell is found by its number.  The lemmas give the view
`get?` after each operation.
-/

namespace ObjectProtocol

/-- Numbered cells; a `Ref` is the number of one. -/
structure Heap (α : Type) where
  cells : Array α := #[]

namespace Heap

variable {α : Type}

instance : Inhabited (Heap α) := ⟨{}⟩

def size (h : Heap α) : Nat := h.cells.size

def get? (h : Heap α) (ref : Nat) : Option α := h.cells[ref]?

/-- Adds a cell; its number is the `size` of the heap before. -/
def push (h : Heap α) (a : α) : Heap α := ⟨h.cells.push a⟩

/-- Overwrites a cell that exists; beyond the `size` nothing happens. -/
def set (h : Heap α) (ref : Nat) (a : α) : Heap α := ⟨h.cells.setIfInBounds ref a⟩

def modify (h : Heap α) (ref : Nat) (f : α → α) : Heap α := ⟨h.cells.modify ref f⟩

@[simp] theorem size_push (h : Heap α) (a : α) : (h.push a).size = h.size + 1 :=
  Array.size_push a

@[simp] theorem size_set (h : Heap α) (ref : Nat) (a : α) : (h.set ref a).size = h.size :=
  Array.size_setIfInBounds

theorem get?_push (h : Heap α) (a : α) (ref : Nat) :
    (h.push a).get? ref = if ref = h.size then some a else h.get? ref :=
  Array.getElem?_push

/-- `push` leaves the cells that exist. -/
theorem get?_push_of_some {h : Heap α} {ref : Nat} {a : α} (hat : h.get? ref = some a) (b : α) :
    (h.push b).get? ref = some a := by
  have hlt : ref < h.size := (Array.getElem?_eq_some_iff.1 hat).1
  rw [get?_push, if_neg (Nat.ne_of_lt hlt)]
  exact hat

/-- `set` on a new cell is `push` of the last content. -/
theorem set_push (h : Heap α) (a b : α) : (h.push a).set h.size b = h.push b := by
  refine congrArg Heap.mk (Array.ext' ?_)
  simp [size, push]

theorem get?_set (h : Heap α) (ref other : Nat) (a : α) :
    (h.set ref a).get? other
      = if ref = other then (if other < h.size then some a else none) else h.get? other := by
  simp only [get?, set, size, Array.getElem?_setIfInBounds]
  split
  · rename_i he
    subst he
    rfl
  · rfl

theorem get?_modify (h : Heap α) (ref other : Nat) (f : α → α) :
    (h.modify ref f).get? other = if ref = other then (h.get? other).map f else h.get? other :=
  Array.getElem?_modify

end Heap

end ObjectProtocol
