/-!
# Integers of the two sides

Host integers have 128 bits and native integers 64, both signed.  A value of either type carries the
proof that it lies in its range, so an operation that could leave the range has to say what happens
there: `add?` refuses, `wrappingAdd` reduces modulo the size of the range, and `NativeInt.toHost`
never has to decide.  `HostInt.toNative?` answers exactly on the native range.
-/

namespace ObjectProtocol

/-- A signed 64-bit integer, from `-2 ^ 63` below `2 ^ 63`: the range native code computes in. -/
structure NativeInt where
  val : Int
  lower : -0x8000000000000000 ≤ val
  upper : val < 0x8000000000000000
deriving DecidableEq, Repr

/-- A signed 128-bit integer, from `-2 ^ 127` below `2 ^ 127`: the range of the host's own integers. -/
structure HostInt where
  val : Int
  lower : -0x80000000000000000000000000000000 ≤ val
  upper : val < 0x80000000000000000000000000000000
deriving DecidableEq, Repr

namespace NativeInt

@[ext] theorem ext {a b : NativeInt} (h : a.val = b.val) : a = b := by
  cases a; cases b; simp_all

def ofInt? (i : Int) : Option NativeInt :=
  if h : -0x8000000000000000 ≤ i ∧ i < 0x8000000000000000 then some ⟨i, h.1, h.2⟩ else none

/-- The native integer congruent to `i` modulo `2 ^ 64`. -/
def wrap (i : Int) : NativeInt :=
  ⟨i.bmod 0x10000000000000000, by
    have := Int.le_bmod (x := i) (m := 0x10000000000000000) (by decide)
    omega, by
    have := Int.bmod_lt (x := i) (m := 0x10000000000000000) (by decide)
    omega⟩

def largest : NativeInt := ⟨0x7fffffffffffffff, by decide, by decide⟩

/-- A count as a native integer; one that does not fit reads as `largest`. -/
def ofCount (n : Nat) : NativeInt := (ofInt? n).getD largest

instance : OfNat NativeInt 0 := ⟨⟨0, by decide, by decide⟩⟩
instance : OfNat NativeInt 1 := ⟨⟨1, by decide, by decide⟩⟩
instance : Inhabited NativeInt := ⟨0⟩

def minusOne : NativeInt := ⟨-1, by decide, by decide⟩

def pred (a : NativeInt) (h : 0 < a.val) : NativeInt :=
  ⟨a.val - 1, by omega, by have := a.upper; omega⟩

def add? (a b : NativeInt) : Option NativeInt := ofInt? (a.val + b.val)

def wrappingAdd (a b : NativeInt) : NativeInt := wrap (a.val + b.val)

def saturate (i : Int) : NativeInt :=
  ⟨max (-0x8000000000000000) (min i 0x7fffffffffffffff), by omega, by omega⟩

/-- The difference, or the end of the range that is nearest to it, see `saturate`. -/
def saturatingSub (a b : NativeInt) : NativeInt := saturate (a.val - b.val)

def clampNonneg (a : NativeInt) : NativeInt := if a.val < 0 then 0 else a

def toHost (a : NativeInt) : HostInt := ⟨a.val, by have := a.lower; omega, by have := a.upper; omega⟩

/-- The place of a field that the integer names. A negative one names the last place of a 64-bit row,
which no layout reaches. -/
def toOffset (a : NativeInt) : Nat := if a.val < 0 then 0xffffffffffffffff else a.val.toNat

instance : LT NativeInt := ⟨fun a b => a.val < b.val⟩
instance : LE NativeInt := ⟨fun a b => a.val ≤ b.val⟩
instance (a b : NativeInt) : Decidable (a < b) := inferInstanceAs (Decidable (a.val < b.val))
instance (a b : NativeInt) : Decidable (a ≤ b) := inferInstanceAs (Decidable (a.val ≤ b.val))

@[simp] theorem val_zero : (0 : NativeInt).val = 0 := rfl
@[simp] theorem val_one : (1 : NativeInt).val = 1 := rfl

theorem ofInt?_eq_some_iff {i : Int} {a : NativeInt} : ofInt? i = some a ↔ a.val = i := by
  have hl := a.lower
  have hu := a.upper
  unfold ofInt?
  split
  · rw [Option.some.injEq, NativeInt.ext_iff]
    exact eq_comm
  · rename_i h
    simp only [reduceCtorEq, false_iff]
    omega

def InRange (i : Int) : Prop := -0x8000000000000000 ≤ i ∧ i < 0x8000000000000000

instance (i : Int) : Decidable (InRange i) := inferInstanceAs (Decidable (_ ∧ _))

theorem inRange_val (a : NativeInt) : InRange a.val := ⟨a.lower, a.upper⟩

theorem ofInt?_eq_none_iff {i : Int} : ofInt? i = none ↔ ¬ InRange i := by
  unfold ofInt? InRange
  split <;> simp_all

theorem val_ofCount_of_lt {n : Nat} (h : (n : Int) < 0x8000000000000000) :
    (ofCount n).val = n := by
  have hn : ofInt? (n : Int) = some ⟨n, by omega, h⟩ := ofInt?_eq_some_iff.2 rfl
  rw [ofCount, hn, Option.getD_some]

end NativeInt

namespace HostInt

@[ext] theorem ext {a b : HostInt} (h : a.val = b.val) : a = b := by
  cases a; cases b; simp_all

def ofInt? (i : Int) : Option HostInt :=
  if h : -0x80000000000000000000000000000000 ≤ i ∧ i < 0x80000000000000000000000000000000 then
    some ⟨i, h.1, h.2⟩
  else none

instance : OfNat HostInt 0 := ⟨⟨0, by decide, by decide⟩⟩
instance : OfNat HostInt 1 := ⟨⟨1, by decide, by decide⟩⟩
instance : Inhabited HostInt := ⟨0⟩

def InRange (i : Int) : Prop :=
  -0x80000000000000000000000000000000 ≤ i ∧ i < 0x80000000000000000000000000000000

def add? (a b : HostInt) : Option HostInt := ofInt? (a.val + b.val)

def toNative? (a : HostInt) : Option NativeInt := NativeInt.ofInt? a.val

def ofBool (b : Bool) : HostInt := if b then 1 else 0

/-- The double nearest to the integer; a tie goes to the even one. -/
def toFloat (a : HostInt) : Float := Float.ofInt a.val

def text (a : HostInt) : String := toString a.val

@[simp] theorem val_zero : (0 : HostInt).val = 0 := rfl
@[simp] theorem val_one : (1 : HostInt).val = 1 := rfl

theorem ofInt?_eq_some_iff {i : Int} {a : HostInt} : ofInt? i = some a ↔ a.val = i := by
  have hl := a.lower
  have hu := a.upper
  unfold ofInt?
  split
  · rw [Option.some.injEq, HostInt.ext_iff]
    exact eq_comm
  · rename_i h
    simp only [reduceCtorEq, false_iff]
    omega

theorem inRange_val (a : HostInt) : InRange a.val := ⟨a.lower, a.upper⟩

theorem ofInt?_eq_none_iff {i : Int} : ofInt? i = none ↔ ¬ InRange i := by
  unfold ofInt? InRange
  split <;> simp_all

theorem toNative?_eq_some_iff {a : HostInt} {n : NativeInt} :
    a.toNative? = some n ↔ n.val = a.val := NativeInt.ofInt?_eq_some_iff

theorem toNative?_toHost (n : NativeInt) : n.toHost.toNative? = some n :=
  toNative?_eq_some_iff.2 rfl

end HostInt

end ObjectProtocol
