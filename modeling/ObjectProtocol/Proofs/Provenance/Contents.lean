import ObjectProtocol.Attribute

/-!
# What values and objects are made of

A value holds types: as itself, as an item of a tuple, or in the receiver of a bound method.  `Within`
says of everything that holds values that they stay within a realm, which says what types there may be
in it, what functions, and what methods bound to what receivers; of an instance it says besides that the
instance is sound, which no operation changes.  Making and changing objects out of what is within the
realm stays within it.
-/

namespace ObjectProtocol

/-- The result satisfies `Q`, if there is one. -/
def Yields {ε α : Type} (Q : α → Prop) (x : Except ε α) : Prop := ∀ a, x = .ok a → Q a

namespace Yields

variable {ε ε' α β : Type} {Q : α → Prop} {R : β → Prop} {x : Except ε α}

theorem ok {a : α} (h : Q a) : Yields Q (.ok a : Except ε α) := by
  intro b heq
  cases heq
  exact h

theorem error (e : ε) : Yields Q (.error e : Except ε α) := by
  intro b heq
  contradiction

theorem map {f : α → β} (h : Yields (fun a => R (f a)) x) : Yields R (x.map f) := by
  cases x with
  | ok a => exact ok (h a rfl)
  | error e => exact error e

theorem mapError {f : ε → ε'} (h : Yields Q x) : Yields Q (x.mapError f) := by
  cases x with
  | ok a => exact ok (h a rfl)
  | error e => exact error (f e)

theorem bind {f : α → Except ε β} (h : Yields Q x) (hf : ∀ a, Q a → Yields R (f a)) :
    Yields R (x >>= f) := by
  cases x with
  | ok a => exact hf a (h a rfl)
  | error e => exact error e

theorem any (x : Except ε α) : Yields (fun _ => True) x := fun _ _ => trivial

end Yields

/-! ## Realms -/

/-- What values may be made of: types, functions and methods. -/
structure Realm where
  type : TypeObject → Prop
  function : Function → Prop := fun _ => True
  /-- The method may be bound to the receiver. -/
  method : Value → Descriptor → Prop := fun _ _ => True

instance : Coe (TypeObject → Prop) Realm where
  coe P := { type := P }

/-- Bases are in the realm with the types derived from them, and so is the `default` type, which is read
where there is no object. -/
structure Hereditary (P : Realm) : Prop where
  absent : P.type default
  base : ∀ t b : TypeObject, P.type t → t.base? = some b → P.type b

/-! ## Values -/

/-- The value is neither type, function nor method and holds none. -/
def Value.isPlain : Value → Bool
  | .tuple .. | .method .. | .type _ | .function _ => false
  | _ => true

/-- The value is made of what is in the realm. Lists, dictionaries, instances and iterators only refer to
what they hold. -/
inductive Value.Within (P : Realm) : Value → Prop
  | type {t : TypeObject} : P.type t → Within P (.type t)
  | function {f : Function} : P.function f → Within P (.function f)
  | tuple {id : Identity} {items : Array Value} :
    (∀ v ∈ items, Within P v) → Within P (.tuple id items)
  | method {id : Identity} {receiver : Value} {d : Descriptor} :
    Within P receiver → P.method receiver d → Within P (.method id receiver d)
  | plain {v : Value} : v.isPlain = true → Within P v

variable {P : Realm}

namespace Value

theorem Within.of_type {t : TypeObject} (h : (Value.type t).Within P) : P.type t := by
  cases h with
  | type h => exact h
  | plain h => contradiction

theorem Within.of_function {f : Function} (h : (Value.function f).Within P) : P.function f := by
  cases h with
  | function h => exact h
  | plain h => contradiction

theorem Within.of_tuple {id : Identity} {items : Array Value}
    (h : (Value.tuple id items).Within P) : ∀ v ∈ items, v.Within P := by
  cases h with
  | tuple h => exact h
  | plain h => contradiction

theorem Within.of_method {id : Identity} {receiver : Value} {d : Descriptor}
    (h : (Value.method id receiver d).Within P) : receiver.Within P ∧ P.method receiver d := by
  cases h with
  | method hreceiver hmethod => exact ⟨hreceiver, hmethod⟩
  | plain h => contradiction

theorem within_ofNative (n : NativeInt) : (ofNative n).Within P := .plain rfl

theorem within_getD_null {v : Option Value} (h : ∀ w, v = some w → w.Within P) :
    (v.getD .null).Within P := by
  cases v with
  | none => exact .plain rfl
  | some w => exact h w rfl

end Value

/-! ## Tables and mappings -/

namespace Table

section Values

variable {α : Type} {t : Table α} {name : String} {a b : α}

theorem mem_place {entry : String × α} {entries : List (String × α)}
    (h : entry ∈ place name a entries) : entry = (name, a) ∨ entry ∈ entries := by
  induction entries with
  | nil => exact Or.inl (List.mem_singleton.1 h)
  | cons first rest ih =>
    -- The entry replaces the first one, goes before it or comes later.
    unfold place at h
    split at h
    · exact (List.mem_cons.1 h).imp id (List.mem_cons_of_mem _)
    · split at h
      · exact List.mem_cons.1 h
      · rcases List.mem_cons.1 h with rfl | h
        · exact Or.inr List.mem_cons_self
        · exact (ih h).imp id (List.mem_cons_of_mem _)

theorem mem_values_insert (h : b ∈ (t.insert name a).values) : b = a ∨ b ∈ t.values := by
  obtain ⟨entry, hentry, rfl⟩ := List.mem_map.1 h
  rcases mem_place hentry with rfl | hentry
  · exact Or.inl rfl
  · exact Or.inr (List.mem_map_of_mem hentry)

theorem mem_values_erase (h : a ∈ (t.erase name).values) : a ∈ t.values := by
  obtain ⟨entry, hentry, rfl⟩ := List.mem_map.1 h
  exact List.mem_map_of_mem (List.mem_filter.1 hentry).1

theorem mem_values_of_get? (h : t.get? name = some a) : a ∈ t.values := by
  obtain ⟨entry, hentry, rfl⟩ := Option.map_eq_some_iff.1 h
  exact List.mem_map_of_mem (List.mem_of_find?_eq_some hentry)

end Values

def Within (P : Realm) (t : Table Value) : Prop := ∀ v ∈ t.values, v.Within P

variable {t : Table Value} {name : String} {v : Value}

theorem within_empty : ({} : Table Value).Within P := by
  intro v hv
  contradiction

theorem Within.insert (h : t.Within P) (hv : v.Within P) : (t.insert name v).Within P := by
  intro w hw
  rcases mem_values_insert hw with rfl | hw
  · exact hv
  · exact h w hw

theorem Within.erase (h : t.Within P) : (t.erase name).Within P :=
  fun w hw => h w (mem_values_erase hw)

theorem Within.of_get? (h : t.Within P) (hv : t.get? name = some v) : v.Within P :=
  h v (mem_values_of_get? hv)

end Table

def Mapping.Within (P : Realm) (m : Mapping) : Prop :=
  ∀ entry ∈ m.entries, entry.1.Within P ∧ entry.2.Within P

namespace Mapping

variable {m : Mapping} {same : Value → Value → Bool} {key v : Value}

theorem within_empty : ({} : Mapping).Within P := by
  intro entry h
  exact absurd h (Array.not_mem_empty entry)

theorem Within.insert (h : m.Within P) (hkey : key.Within P) (hv : v.Within P) :
    (m.insert same key v).Within P := by
  unfold Mapping.insert
  split
  · -- The key is there: it stays, with the new value.
    rename_i i _
    intro entry hentry
    obtain ⟨j, hj⟩ := Array.mem_iff_getElem?.1 hentry
    rw [Array.getElem?_modify] at hj
    split at hj
    · obtain ⟨old, hold, rfl⟩ := Option.map_eq_some_iff.1 hj
      exact ⟨(h old (Array.mem_of_getElem? hold)).1, hv⟩
    · exact h entry (Array.mem_of_getElem? hj)
  · intro entry hentry
    rcases Array.mem_push.1 hentry with hentry | rfl
    · exact h entry hentry
    · exact ⟨hkey, hv⟩

theorem Within.of_get? (h : m.Within P) (hv : m.get? same key = some v) : v.Within P := by
  obtain ⟨entry, hentry, rfl⟩ := Option.map_eq_some_iff.1 hv
  exact (h entry (Array.mem_of_find?_eq_some hentry)).2

theorem Within.keys (h : m.Within P) : ∀ k ∈ m.keys, k.Within P := by
  intro k hk
  obtain ⟨entry, hentry, rfl⟩ := Array.mem_map.1 hk
  exact (h entry hentry).1

theorem within_iff : m.Within P ↔
    ∀ v ∈ m.entries.toList.flatMap fun pair => [pair.1, pair.2], v.Within P := by
  constructor
  · intro h v hv
    obtain ⟨entry, hentry, hv⟩ := List.mem_flatMap.1 hv
    have hboth := h entry (Array.mem_toList_iff.1 hentry)
    rcases List.mem_cons.1 hv with rfl | hv
    · exact hboth.1
    · rw [List.mem_singleton.1 hv]
      exact hboth.2
  · intro h entry hentry
    have hmem {v : Value} (hv : v ∈ [entry.1, entry.2]) :
        v ∈ m.entries.toList.flatMap fun pair => [pair.1, pair.2] :=
      List.mem_flatMap.2 ⟨entry, Array.mem_toList_iff.2 hentry, hv⟩
    exact ⟨h _ (hmem (by simp)), h _ (hmem (by simp))⟩

end Mapping

end ObjectProtocol
