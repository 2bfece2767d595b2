import ObjectProtocol.Table
import ObjectProtocol.Value

/-!
# Instances

An instance has the fields that the layout of its type prescribes and, where the type grants one, a
dictionary of further attributes.  Reading and writing a field check that it is there and of the
right kind; a write that is refused changes nothing, and one that succeeds changes that field alone.
-/

namespace ObjectProtocol

/-- The content of a native field; `none` is the absent reference. -/
inductive Field
  | object (value : Option Value)
  | int (n : NativeInt)

namespace Field

def zero : FieldKind → Field
  | .object => object none
  | .int => int 0

def kind : Field → FieldKind
  | object _ => .object
  | int _ => .int

@[simp] theorem kind_zero (k : FieldKind) : (zero k).kind = k := by cases k <;> rfl

end Field

def FieldKind.word : FieldKind → String
  | .object => "Object"
  | .int => "Int"

structure Instance where
  type : TypeObject
  fields : List Field := []
  /-- Attributes that the type does not declare, if it lets instances have them. -/
  dict : Option (Table Value) := none

namespace Instance

instance : Inhabited Instance := ⟨{ type := default }⟩

/-- A fresh instance: `Field.zero` everywhere, and an empty dictionary if the type grants one. -/
def alloc (t : TypeObject) : Instance :=
  { type := t
    fields := t.own.layout.map Field.zero
    dict := if t.own.hasDict then some {} else none }

def outOfBounds (i : Instance) (offset : Nat) : Failure :=
  .because .invariantBroken
    ("field offset " ++ toString offset ++ " out of bounds for '" ++ i.type.name ++ "'")

def read (i : Instance) (offset : Nat) : Except Failure Field :=
  match i.fields[offset]? with
  | some field => .ok field
  | none => .error (i.outOfBounds offset)

/-- Replaces a field by content of the same kind. -/
def write (i : Instance) (offset : Nat) (content : Field) : Except Failure Instance :=
  match i.fields[offset]? with
  | some field =>
    if field.kind = content.kind then .ok { i with fields := i.fields.set offset content }
    else
      .error (.because .invariantBroken
        ("field " ++ toString offset ++ " of '" ++ i.type.name ++ "' holds " ++ field.kind.word
          ++ ", not " ++ content.kind.word))
  | none => .error (i.outOfBounds offset)

def readInt (i : Instance) (offset : Nat) : Except Failure NativeInt :=
  match i.read offset with
  | .ok (.int n) => .ok n
  | .ok (.object _) =>
    .error (.because .invariantBroken
      ("field " ++ toString offset ++ " of '" ++ i.type.name ++ "' is not an int field"))
  | .error f => .error f

def readObject (i : Instance) (offset : Nat) : Except Failure (Option Value) :=
  match i.read offset with
  | .ok (.object value) => .ok value
  | .ok (.int _) =>
    .error (.because .invariantBroken
      ("field " ++ toString offset ++ " of '" ++ i.type.name ++ "' is not an object field"))
  | .error f => .error f

def kinds (i : Instance) : List FieldKind := i.fields.map Field.kind

@[simp] theorem kinds_alloc (t : TypeObject) : (alloc t).kinds = t.own.layout := by
  simp [kinds, alloc, Function.comp_def]

theorem write_eq_ok_iff {i j : Instance} {offset : Nat} {content : Field} :
    i.write offset content = .ok j ↔
      i.kinds[offset]? = some content.kind ∧ j = { i with fields := i.fields.set offset content } := by
  unfold write kinds
  rw [List.getElem?_map]
  rcases i.fields[offset]? with _ | field
  · simp
  · by_cases h : field.kind = content.kind
    · simpa [h] using eq_comm
    · simp [h]

theorem kinds_write {i j : Instance} {offset : Nat} {content : Field}
    (h : i.write offset content = .ok j) : j.kinds = i.kinds := by
  obtain ⟨hk, rfl⟩ := write_eq_ok_iff.1 h
  unfold kinds at hk ⊢
  rw [List.map_set]
  apply List.ext_getElem?
  intro n
  rw [List.getElem?_set]
  split
  · rename_i hn
    subst hn
    rw [hk]
    split
    · rfl
    · rename_i hlt
      rw [List.getElem?_eq_none (Nat.le_of_not_lt hlt)] at hk
      contradiction
  · rfl

end Instance

end ObjectProtocol
