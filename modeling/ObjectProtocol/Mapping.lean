import ObjectProtocol.Value

/-!
# Mappings

A mapping keeps its entries in the order in which their keys were first inserted.  When keys count as
equal is up to the caller, because equality of values looks into the store: every operation takes the
test, with a stored key on its left.
-/

namespace ObjectProtocol

structure Mapping where
  entries : Array (Value × Value) := #[]

namespace Mapping

instance : Inhabited Mapping := ⟨{}⟩

/-- The place of the first entry whose key is the `same` as the given one. -/
def place? (m : Mapping) (same : Value → Value → Bool) (key : Value) : Option Nat :=
  m.entries.findIdx? fun entry => same entry.1 key

/-- Adds an entry at the end. A key that is the `same` as an earlier one leaves that key in its place;
only the value is replaced. -/
def insert (m : Mapping) (same : Value → Value → Bool) (key value : Value) : Mapping :=
  match m.place? same key with
  | some i => ⟨m.entries.modify i fun entry => (entry.1, value)⟩
  | none => ⟨m.entries.push (key, value)⟩

def get? (m : Mapping) (same : Value → Value → Bool) (key : Value) : Option Value :=
  (m.entries.find? fun entry => same entry.1 key).map (·.2)

def getText? (m : Mapping) (text : String) : Option Value :=
  (m.entries.find? fun entry => entry.1.asText? = some text).map (·.2)

def contains (m : Mapping) (same : Value → Value → Bool) (key : Value) : Bool :=
  (m.get? same key).isSome

def keys (m : Mapping) : Array Value := m.entries.map (·.1)

def size (m : Mapping) : Nat := m.entries.size

def isEmpty (m : Mapping) : Bool := m.entries.isEmpty

/-- `insert` adds the new key only when no equal key is there. -/
theorem keys_insert (m : Mapping) (same : Value → Value → Bool) (key value : Value) :
    (m.insert same key value).keys
      = if m.keys.any (same · key) then m.keys else m.keys.push key := by
  have hany : m.keys.any (same · key) = (m.place? same key).isSome := by
    simp [keys, place?]
  rw [hany]
  unfold insert
  cases m.place? same key with
  | none => simp [keys]
  | some i =>
    simp only [keys, Option.isSome_some, if_true]
    apply Array.ext_getElem?
    intro j
    rw [Array.getElem?_map, Array.getElem?_modify, Array.getElem?_map]
    split <;> simp [Function.comp_def]

theorem get?_eq_none_iff (m : Mapping) (same : Value → Value → Bool) (key : Value) :
    m.get? same key = none ↔ ∀ k ∈ m.keys, same k key = false := by
  simp [get?, keys]

end Mapping

end ObjectProtocol
