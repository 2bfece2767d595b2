/-!
# Tables of names

A table maps names to values and keeps its entries sorted by name, so that two tables with the same
entries are the same list and the names come out in order.  Names are compared code point by code
point, which is also the order of their UTF-8 bytes.  `get?_insert` and `get?_erase` say what the two
writing operations do to look-ups.
-/

namespace ObjectProtocol

/-- Names with values, sorted by name. -/
structure Table (α : Type) where
  entries : List (String × α) := []

namespace Table

variable {α : Type}

instance : Inhabited (Table α) := ⟨{}⟩

/-- Places an entry before the first greater name, replacing an entry of the same name. -/
def place (name : String) (value : α) : List (String × α) → List (String × α)
  | [] => [(name, value)]
  | entry :: rest =>
    if name = entry.1 then (name, value) :: rest
    else if name < entry.1 then (name, value) :: entry :: rest
    else entry :: place name value rest

def insert (t : Table α) (name : String) (value : α) : Table α := ⟨place name value t.entries⟩

def erase (t : Table α) (name : String) : Table α := ⟨t.entries.filter (·.1 ≠ name)⟩

def get? (t : Table α) (name : String) : Option α :=
  (t.entries.find? (·.1 = name)).map (·.2)

def contains (t : Table α) (name : String) : Bool := (t.get? name).isSome

def names (t : Table α) : List String := t.entries.map (·.1)

def values (t : Table α) : List α := t.entries.map (·.2)

def size (t : Table α) : Nat := t.entries.length

@[simp] theorem get?_empty (name : String) : ({} : Table α).get? name = none := rfl

theorem find?_place (name other : String) (value : α) (entries : List (String × α)) :
    (place name value entries).find? (·.1 = other)
      = if other = name then some (name, value) else entries.find? (·.1 = other) := by
  induction entries with
  | nil => by_cases h : other = name <;> simp [place, h, eq_comm]
  | cons entry rest ih =>
    unfold place
    split
    · rename_i h
      by_cases ho : other = name
      · simp [ho]
      · simp [ho, Ne.symm ho, ← h]
    · rename_i hne
      split
      · by_cases ho : other = name
        · simp [ho]
        · simp [ho, Ne.symm ho, List.find?_cons]
      · rw [List.find?_cons, List.find?_cons, ih]
        by_cases ho : other = name
        · simp [ho, Ne.symm hne]
        · simp [ho]

theorem get?_insert (t : Table α) (name other : String) (value : α) :
    (t.insert name value).get? other = if other = name then some value else t.get? other := by
  unfold get? insert
  rw [find?_place]
  split <;> simp

theorem get?_erase (t : Table α) (name other : String) :
    (t.erase name).get? other = if other = name then none else t.get? other := by
  unfold get? erase
  rw [List.find?_filter]
  by_cases h : other = name
  · subst h
    simp
  · rw [if_neg h]
    congr 2
    funext entry
    by_cases he : entry.1 = other <;> simp [he, h]

end Table

end ObjectProtocol
