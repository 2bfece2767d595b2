import Mathlib.Data.Finset.Dedup
import Mathlib.Data.Finset.Card
import ObjectProtocol.Operation
import ObjectProtocol.Proofs.Attributes.Stability
import ObjectProtocol.Proofs.Modules.ByteOrder

/-!
# The exports of a module

A module is made by adding exports to an empty one: functions, types, constants and other values, in any
order and under any names, a later export replacing an earlier one of its name.  Its table is then the
map of the last additions, and its names are a sorted view of that map: each name once, in the order of
the bytes.  The entries are kept in the order of the names throughout, so the view leaves nothing out and
repeats nothing.
-/

namespace ObjectProtocol

/-! ## Tables that are inserted into -/

namespace Table

variable {α : Type} {t : Table α} {name : String} {value : α}

def lastAdded? (added : List (String × α)) (name : String) : Option α :=
  (added.reverse.find? (·.1 = name)).map (·.2)

theorem lastAdded?_cons (entry : String × α) (added : List (String × α)) (name : String) :
    lastAdded? (entry :: added) name
      = (lastAdded? added name).or (if name = entry.1 then some entry.2 else none) := by
  unfold lastAdded?
  rw [List.reverse_cons, List.find?_append, Option.map_or, List.find?_singleton]
  by_cases h : name = entry.1 <;> simp [h, eq_comm]

theorem isSome_lastAdded? {added : List (String × α)} :
    (lastAdded? added name).isSome = true ↔ name ∈ added.map (·.1) := by
  simp [lastAdded?]

def insertAll (t : Table α) (added : List (String × α)) : Table α :=
  added.foldl (fun t entry => t.insert entry.1 entry.2) t

theorem insertAll_cons (t : Table α) (entry : String × α) (added : List (String × α)) :
    t.insertAll (entry :: added) = (t.insert entry.1 entry.2).insertAll added := rfl

theorem get?_insertAll (t : Table α) (added : List (String × α)) (name : String) :
    (t.insertAll added).get? name = (lastAdded? added name).or (t.get? name) := by
  induction added generalizing t with
  | nil => rfl
  | cons entry rest ih =>
    rw [insertAll_cons, ih, get?_insert, lastAdded?_cons, Option.or_assoc]
    split <;> rfl

theorem mem_names_iff : name ∈ t.names ↔ (t.get? name).isSome = true := by
  constructor
  · intro h
    obtain ⟨a, ha⟩ := exists_get?_of_mem_names h
    rw [ha]
    rfl
  · intro h
    obtain ⟨a, ha⟩ := Option.isSome_iff_exists.1 h
    obtain ⟨entry, hfound, -⟩ := Option.map_eq_some_iff.1 ha
    have hname : entry.1 = name := by simpa using List.find?_some hfound
    exact hname ▸ List.mem_map_of_mem (List.mem_of_find?_eq_some hfound)

/-- `Table.names` strictly increase. -/
def Increasing (t : Table α) : Prop := t.names.Pairwise (· < ·)

theorem mem_names_place {other : String} {entries : List (String × α)}
    (h : other ∈ (place name value entries).map (·.1)) :
    other = name ∨ other ∈ entries.map (·.1) := by
  obtain ⟨entry, hentry, rfl⟩ := List.mem_map.1 h
  rcases mem_place hentry with rfl | hentry
  · exact .inl rfl
  · exact .inr (List.mem_map_of_mem hentry)

theorem Increasing.insert (h : t.Increasing) (name : String) (value : α) :
    (t.insert name value).Increasing := by
  obtain ⟨entries⟩ := t
  change (entries.map (·.1)).Pairwise (· < ·) at h
  change ((place name value entries).map (·.1)).Pairwise (· < ·)
  induction entries with
  | nil => exact List.pairwise_singleton _ _
  | cons entry rest ih =>
    obtain ⟨hfirst, hrest⟩ := List.pairwise_cons.1 h
    unfold place
    split
    · rename_i hsame
      exact List.pairwise_cons.2 ⟨hsame ▸ hfirst, hrest⟩
    · rename_i hne
      split
      · rename_i hlt
        refine List.pairwise_cons.2 ⟨?_, h⟩
        intro other hother
        rcases List.mem_cons.1 hother with rfl | hother
        · exact hlt
        · exact hlt.trans (hfirst other hother)
      · -- The entry stays the first, as the new name is neither its own nor smaller.
        rename_i hge
        have hlt : entry.1 < name := lt_of_le_of_ne (not_lt.1 hge) (Ne.symm hne)
        refine List.pairwise_cons.2 ⟨?_, ih hrest⟩
        intro other hother
        rcases mem_names_place hother with rfl | hother
        · exact hlt
        · exact hfirst other hother

theorem Increasing.insertAll (h : t.Increasing) (added : List (String × α)) :
    (t.insertAll added).Increasing := by
  induction added generalizing t with
  | nil => exact h
  | cons entry rest ih => exact ih (h.insert entry.1 entry.2)

theorem Increasing.nodup (h : t.Increasing) : t.names.Nodup := List.Pairwise.imp ne_of_lt h

theorem increasing_empty : ({} : Table α).Increasing := List.Pairwise.nil

end Table

/-! ## Modules that are added to -/

namespace Module

/-- What can be added to a module. -/
inductive Addition
  | function (name : String) (spec : ArgSpec) (routine : FunctionRoutine)
  | type (name : String) (t : TypeObject)
  | int (name : String) (n : NativeInt)
  | object (name : String) (v : Value)

namespace Addition

def decl : Addition → ExportDecl
  | function name spec r => .function name spec r
  | type name _ => .type name
  | int name n => .int name n
  | object name _ => .object name

def operands : Addition → List Value
  | function .. => []
  | type _ t => [.type t]
  | int .. => []
  | object _ v => [v]

def name : Addition → String
  | function name .. => name
  | type name _ => name
  | int name _ => name
  | object name _ => name

/-- The exported value. A function comes about with the addition and is given the identity. -/
def value (id : Identity) : Addition → Value
  | function name spec r => .function ⟨id, name, .native spec r⟩
  | type _ t => .type t
  | int _ n => .ofNative n
  | object _ v => v

def after (id : Identity) : Addition → Identity
  | function .. => id + 1
  | _ => id

def entries : Identity → List Addition → List (String × Value)
  | _, [] => []
  | id, a :: rest => (a.name, a.value id) :: entries (a.after id) rest

theorem names_entries (id : Identity) (additions : List Addition) :
    (entries id additions).map (·.1) = additions.map (·.name) := by
  induction additions generalizing id with
  | nil => rfl
  | cons a rest ih => rw [entries, List.map_cons, List.map_cons, ih]

end Addition

open Addition

/-- `get?` of the module is the last of the additions, the first of which is made at the identity, with a
sorted view of the names. -/
structure IsTableOf (m : Module) (id : Identity) (additions : List Addition) : Prop where
  get?_eq (n : String) : m.get? n = Table.lastAdded? (entries id additions) n
  has_iff (n : String) : m.has n = true ↔ ∃ v, m.get? n = some v
  attr_eq_ok_iff (n : String) (v : Value) : m.attr n = .ok v ↔ m.get? n = some v
  mem_names_iff (n : String) : n ∈ m.names ↔ ∃ v, m.get? n = some v
  names_increasing : m.names.Pairwise ByteLt
  size_eq_length : m.size = m.names.length
  size_eq_card : m.size = (additions.map (·.name)).toFinset.card
  isEmpty_iff : m.isEmpty = true ↔ additions = []

theorem attr_eq_ok_iff {m : Module} {n : String} {v : Value} : m.attr n = .ok v ↔ m.get? n = some v := by
  unfold attr
  cases m.get? n <;> simp

def addAll (m : Module) (added : List (String × Value)) : Module :=
  { m with exported := m.exported.insertAll added }

theorem addAll_cons (m : Module) (entry : String × Value) (added : List (String × Value)) :
    m.addAll (entry :: added) = (m.add entry.1 entry.2).addAll added := rfl

theorem isTableOf_of_exported {m : Module} {id : Identity} {additions : List Addition}
    (h : m.exported = ({} : Table Value).insertAll (entries id additions)) :
    m.IsTableOf id additions := by
  have hget : ∀ n, m.get? n = Table.lastAdded? (entries id additions) n := by
    intro n
    rw [get?, h, Table.get?_insertAll, Table.get?_empty, Option.or_none]
  have hmem : ∀ n, n ∈ m.names ↔ (m.get? n).isSome = true := fun _ => Table.mem_names_iff
  have hincreasing : m.exported.Increasing := h ▸ Table.increasing_empty.insertAll _
  -- Every name that is added stays, and no other gets in.
  have hset : m.names.toFinset = (additions.map (·.name)).toFinset := by
    ext n
    rw [List.mem_toFinset, List.mem_toFinset, hmem, hget, Table.isSome_lastAdded?, names_entries]
  have hsize : m.size = m.names.length := (List.length_map _).symm
  have hcard : m.size = (additions.map (·.name)).toFinset.card := by
    rw [hsize, ← hset]
    exact (List.toFinset_card_of_nodup hincreasing.nodup).symm
  exact {
    get?_eq := hget
    has_iff := fun n => Option.isSome_iff_exists
    attr_eq_ok_iff := fun n v => attr_eq_ok_iff
    mem_names_iff := fun n => (hmem n).trans Option.isSome_iff_exists
    names_increasing := List.Pairwise.imp byteLt_of_lt hincreasing
    size_eq_length := hsize
    size_eq_card := hcard
    isEmpty_iff := by
      have hempty : m.isEmpty = true ↔ m.size = 0 := by
        rw [isEmpty, List.isEmpty_iff]
        exact List.length_eq_zero_iff.symm
      rw [hempty, hcard, Finset.card_eq_zero, List.toFinset_eq_empty_iff, List.map_eq_nil_iff] }

example : (addAll { name := "m", version := "1" }
    [("é", .null), ("b", .null), ("é", .bool true)]).names = ["b", "é"] := by decide

/-- An `Addition` makes no more than the value that it exports. -/
theorem addExports_cons (m : Module) (h : Host) (a : Addition) (decls : List ExportDecl)
    (operands : List Value) :
    ∃ h' : Host, h'.store.nextId = a.after h.store.nextId
      ∧ Session.addExports m h (a.decl :: decls) (a.operands ++ operands)
        = Session.addExports (m.add a.name (a.value h.store.nextId)) h' decls operands := by
  cases a with
  | function name spec r => exact ⟨(h.newNative name spec r).2, rfl, rfl⟩
  | type name t => exact ⟨h, rfl, rfl⟩
  | int name n => exact ⟨h, rfl, rfl⟩
  | object name v => exact ⟨h, rfl, rfl⟩

theorem exists_addExports (m : Module) (h : Host) (additions : List Addition) :
    ∃ h' : Host, Session.addExports m h (additions.map decl) (additions.flatMap operands)
      = some (m.addAll (entries h.store.nextId additions), h') := by
  induction additions generalizing m h with
  | nil => exact ⟨h, rfl⟩
  | cons a rest ih =>
    obtain ⟨h₁, hid, hfirst⟩ := addExports_cons m h a (rest.map decl) (rest.flatMap operands)
    obtain ⟨h', hrest⟩ := ih (m.add a.name (a.value h.store.nextId)) h₁
    refine ⟨h', ?_⟩
    rw [List.map_cons, List.flatMap_cons, hfirst, hrest, hid, entries, addAll_cons]

/-- `addExports` never fails on additions with their operands, and what it leaves `IsTableOf` them:
`get?`, `has` and `attr` go by the value added last, `names` strictly increase in their UTF-8 bytes, and
there is one for each distinct name. -/
theorem addExports_isTableOf (name version : String) (h : Host) (additions : List Addition) :
    ∃ m h', Session.addExports { name, version } h (additions.map decl) (additions.flatMap operands)
        = some (m, h')
      ∧ m.name = name ∧ m.version = version ∧ m.IsTableOf h.store.nextId additions := by
  obtain ⟨h', hadded⟩ := exists_addExports { name, version } h additions
  exact ⟨_, h', hadded, rfl, rfl, isTableOf_of_exported rfl⟩

end Module

end ObjectProtocol
