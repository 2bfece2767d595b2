import ObjectProtocol.Proofs.Provenance.Contents

/-!
# What the objects of a store are made of

An instance is sound: it has the fields that its type prescribes, and its dictionary has no name that
a type of its chain declares.  A store is within a realm when its objects hold nothing else and its
instances are sound.  The look-ups of a store also answer, with an empty object, for places where there
is none, so the type of such an instance is taken to be in the realm.
-/

namespace ObjectProtocol

variable {P : Realm}

/-! ## Instances -/

def Field.Within (P : Realm) (f : Field) : Prop :=
  ∀ v, f = .object (some v) → v.Within P

namespace Field

theorem within_int (n : NativeInt) : (int n).Within P := by
  intro v h
  contradiction

theorem within_absent : (object none).Within P := by
  intro v h
  cases h

theorem within_object {v : Value} (h : v.Within P) : (object (some v)).Within P := by
  intro w heq
  cases heq
  exact h

theorem within_object_of {v : Option Value} (h : ∀ w, v = some w → w.Within P) :
    (object v).Within P := by
  cases v with
  | none => exact within_absent
  | some w => exact within_object (h w rfl)

theorem within_zero (k : FieldKind) : (zero k).Within P := by
  cases k with
  | object => exact within_absent
  | int => exact within_int 0

end Field

namespace Instance

/-- The fields are those of the `layout`, and no dictionary entry has a name the chain declares. -/
structure Sound (i : Instance) : Prop where
  kinds_eq : i.kinds = i.type.own.layout
  undeclared : ∀ name v, i.dict.bind (·.get? name) = some v →
    i.type.findMember? name = none ∧ i.type.findMethod? name = none

structure Within (P : Realm) (i : Instance) : Prop where
  type : P.type i.type
  fields : ∀ f ∈ i.fields, f.Within P
  dict : ∀ table, i.dict = some table → table.Within P
  sound : i.Sound

variable {i : Instance}

theorem sound_alloc (t : TypeObject) : (alloc t).Sound where
  kinds_eq := kinds_alloc t
  undeclared name v h := by
    -- A new dictionary has no entries.
    have hempty : (alloc t).dict.bind (·.get? name) = none := by
      unfold alloc
      dsimp only
      split <;> rfl
    rw [hempty] at h
    contradiction

theorem within_alloc {t : TypeObject} (h : P.type t) : (alloc t).Within P where
  type := h
  fields f hf := by
    obtain ⟨k, -, rfl⟩ := List.mem_map.1 hf
    exact Field.within_zero k
  dict table heq := by
    unfold alloc at heq
    dsimp only at heq
    split at heq
    · cases heq
      exact Table.within_empty
    · contradiction
  sound := sound_alloc t

theorem within_default (h : Hereditary P) : (default : Instance).Within P := within_alloc h.absent

theorem type_write (i : Instance) (offset : Nat) (content : Field) :
    Yields (fun j => j.type = i.type) (i.write offset content) := by
  intro j hj
  obtain ⟨-, rfl⟩ := write_eq_ok_iff.1 hj
  rfl

theorem Sound.write (h : i.Sound) (offset : Nat) (content : Field) :
    Yields Sound (i.write offset content) := by
  intro j hj
  have hkinds := kinds_write hj
  obtain ⟨-, rfl⟩ := write_eq_ok_iff.1 hj
  exact ⟨hkinds.trans h.kinds_eq, h.undeclared⟩

theorem Within.write (h : i.Within P) (offset : Nat) {content : Field} (hc : content.Within P) :
    Yields (Within P) (i.write offset content) := by
  intro j hj
  have hsound := h.sound.write offset content j hj
  obtain ⟨-, rfl⟩ := write_eq_ok_iff.1 hj
  refine ⟨h.type, ?_, h.dict, hsound⟩
  intro f hf
  rcases List.mem_or_eq_of_mem_set hf with hf | rfl
  · exact h.fields f hf
  · exact hc

theorem Within.read (h : i.Within P) (offset : Nat) : Yields (Field.Within P) (i.read offset) := by
  unfold Instance.read
  split
  · rename_i f hf
    exact .ok (h.fields f (List.mem_of_getElem? hf))
  · exact .error _

theorem Within.readObject (h : i.Within P) (offset : Nat) :
    Yields (fun v => ∀ w, v = some w → w.Within P) (i.readObject offset) := by
  unfold Instance.readObject
  split
  · rename_i v hread
    refine .ok fun w hw => ?_
    exact h.read offset _ hread w (congrArg Field.object hw)
  · exact .error _
  · exact .error _

theorem Sound.insertEntry (h : i.Sound) {table : Table Value} (hdict : i.dict = some table)
    {name : String} (hmember : i.type.findMember? name = none)
    (hmethod : i.type.findMethod? name = none) (v : Value) :
    Sound { i with dict := some (table.insert name v) } where
  kinds_eq := h.kinds_eq
  undeclared other w hw := by
    rw [Option.bind_some, Table.get?_insert] at hw
    split at hw
    · rename_i heq
      rw [heq]
      exact ⟨hmember, hmethod⟩
    · exact h.undeclared other w (by rw [hdict, Option.bind_some, hw])

theorem Sound.eraseEntry (h : i.Sound) (name : String) :
    Sound { i with dict := i.dict.map (·.erase name) } where
  kinds_eq := h.kinds_eq
  undeclared other w hw := by
    cases hdict : i.dict with
    | none =>
      rw [hdict] at hw
      contradiction
    | some table =>
      rw [hdict, Option.map_some, Option.bind_some, Table.get?_erase] at hw
      split at hw
      · contradiction
      · exact h.undeclared other w (by rw [hdict, Option.bind_some, hw])

end Instance

/-! ## Iterators -/

namespace Iterator

structure Within (P : Realm) (it : Iterator) : Prop where
  type : P.type it.type
  items : ∀ snapshot, it.source = .items snapshot → ∀ v ∈ snapshot, v.Within P

theorem within_positions {t : TypeObject} (h : P.type t) (bound : NativeInt) :
    Within P { type := t, source := .positions bound } :=
  ⟨h, fun _ heq => by contradiction⟩

theorem within_items {t : TypeObject} (h : P.type t) {items : Array Value}
    (hitems : ∀ v ∈ items, v.Within P) : Within P { type := t, source := .items items } where
  type := h
  items snapshot heq := by
    cases heq
    exact hitems

theorem within_default (h : Hereditary P) : (default : Iterator).Within P :=
  within_items h.absent fun v hv => absurd hv (Array.not_mem_empty v)

variable {it : Iterator}

theorem Within.advance (h : it.Within P) :
    it.advance.1.Within P ∧ ∀ v, it.advance.2 = some v → v.Within P := by
  refine ⟨⟨h.type, h.items⟩, ?_⟩
  intro v hv
  obtain ⟨position, -, hv⟩ := Option.bind_eq_some_iff.1 hv
  -- A position is a value itself; else it is one of an item.
  unfold valueAt at hv
  split at hv
  · cases hv
    exact Value.within_ofNative position
  · rename_i snapshot hsource
    split at hv
    · contradiction
    · exact h.items snapshot hsource v (Array.mem_of_getElem? hv)

end Iterator

/-! ## Stores -/

namespace Heap

variable {α : Type} {Q : α → Prop} {h : Heap α} {a d : α}

/-! What holds of every cell, and of what is read where there is none. -/

theorem forall_push (hall : ∀ ref, Q ((h.get? ref).getD d)) (ha : Q a) (ref : Nat) :
    Q (((h.push a).get? ref).getD d) := by
  rw [get?_push]
  split
  · exact ha
  · exact hall ref

theorem forall_set (hall : ∀ ref, Q ((h.get? ref).getD d)) (ha : Q a) (place ref : Nat) :
    Q (((h.set place a).get? ref).getD d) := by
  rw [get?_set]
  split
  · split
    · exact ha
    · -- Past the end nothing is set.
      rename_i hlt
      have hnone : h.get? ref = none := Array.getElem?_eq_none (Nat.le_of_not_lt hlt)
      have hd := hall ref
      rw [hnone] at hd
      exact hd
  · exact hall ref

theorem forall_modify {f : α → α} (hall : ∀ ref, Q ((h.get? ref).getD d))
    (hf : ∀ a, Q a → Q (f a)) (place ref : Nat) : Q (((h.modify place f).get? ref).getD d) := by
  rw [get?_modify]
  have ha := hall ref
  split
  · cases hcell : h.get? ref with
    | none =>
      rw [hcell] at ha
      exact ha
    | some a =>
      rw [hcell] at ha
      exact hf a ha
  · exact ha

end Heap

def Change.Within (P : Realm) : Change → Prop
  | .nothing => True
  | .object _ i => i.Within P
  | .iterator _ it => it.Within P

namespace Store

structure Within (P : Realm) (s : Store) : Prop where
  lists : ∀ ref, ∀ v ∈ s.listAt ref, v.Within P
  dicts : ∀ ref, (s.dictAt ref).Within P
  instances : ∀ ref, (s.instanceAt ref).Within P
  iterators : ∀ ref, (s.iteratorAt ref).Within P

theorem within_of_empty (h : Hereditary P) (nextId : Identity) : Within P { nextId } where
  lists _ v hv := absurd hv (Array.not_mem_empty v)
  dicts _ := Mapping.within_empty
  instances _ := Instance.within_default h
  iterators _ := Iterator.within_default h

/-- What was just made, and the store that has it, are within the realm. -/
structure Made (P : Realm) (r : Value × Store) : Prop where
  value : r.1.Within P
  store : r.2.Within P

variable {s : Store}

theorem Within.with (h : s.Within P) (nextId : Identity) (released : List Identity) :
    Within P { s with nextId, released } := ⟨h.lists, h.dicts, h.instances, h.iterators⟩

theorem Within.fresh (h : s.Within P) : s.fresh.2.Within P := h.with _ _

theorem Within.newText (h : s.Within P) (text : String) : Made P (s.newText text) :=
  ⟨.plain rfl, h.with _ _⟩

theorem Within.newTuple (h : s.Within P) {items : Array Value} (hv : ∀ v ∈ items, v.Within P) :
    Made P (s.newTuple items) := ⟨.tuple hv, h.with _ _⟩

theorem Within.newMethod (h : s.Within P) {receiver : Value} (hv : receiver.Within P)
    {d : Descriptor} (hd : P.method receiver d) : Made P (s.newMethod receiver d) :=
  ⟨.method hv hd, h.with _ _⟩

theorem Within.newFunction (h : s.Within P) {name : String} {body : FunctionBody}
    (hf : ∀ id, P.function ⟨id, name, body⟩) : Made P (s.newFunction name body) :=
  ⟨.function (hf _), h.with _ _⟩

theorem Within.newList (h : s.Within P) {items : Array Value} (hv : ∀ v ∈ items, v.Within P) :
    Made P (s.newList items) where
  value := .plain rfl
  store :=
    ⟨Heap.forall_push (Q := fun row : Array Value => ∀ v ∈ row, v.Within P) h.lists hv, h.dicts,
      h.instances, h.iterators⟩

theorem Within.newDict (h : s.Within P) {m : Mapping} (hm : m.Within P) : Made P (s.newDict m) where
  value := .plain rfl
  store := ⟨h.lists, Heap.forall_push h.dicts hm, h.instances, h.iterators⟩

theorem Within.newInstance (h : s.Within P) {i : Instance} (hi : i.Within P) :
    (s.newInstance i).2.Within P :=
  ⟨h.lists, h.dicts, Heap.forall_push h.instances hi, h.iterators⟩

theorem Within.newIterator (h : s.Within P) {it : Iterator} (hit : it.Within P) :
    Made P (s.newIterator it) where
  value := .plain rfl
  store := ⟨h.lists, h.dicts, h.instances, Heap.forall_push h.iterators hit⟩

theorem Within.newCharacters (h : s.Within P) (text : String) :
    (∀ v ∈ (s.newCharacters text).1, v.Within P) ∧ (s.newCharacters text).2.Within P := by
  refine ⟨?_, h.with _ _⟩
  intro v hv
  obtain ⟨i, c, rfl⟩ := List.mem_mapIdx.1 (List.mem_toArray.1 hv)
  exact .plain rfl

theorem Within.appendItem (h : s.Within P) (ref : Ref) {v : Value} (hv : v.Within P) :
    (s.appendItem ref v).Within P := by
  refine ⟨Heap.forall_modify (Q := fun row : Array Value => ∀ v ∈ row, v.Within P) h.lists ?_ ref,
    h.dicts, h.instances, h.iterators⟩
  intro row hrow w hw
  rcases Array.mem_push.1 hw with hw | rfl
  · exact hrow w hw
  · exact hv

theorem Within.setDict (h : s.Within P) (ref : Ref) {m : Mapping} (hm : m.Within P) :
    (s.setDict ref m).Within P :=
  ⟨h.lists, Heap.forall_set h.dicts hm ref, h.instances, h.iterators⟩

theorem Within.setInstance (h : s.Within P) (ref : Ref) {i : Instance} (hi : i.Within P) :
    (s.setInstance ref i).Within P :=
  ⟨h.lists, h.dicts, Heap.forall_set h.instances hi ref, h.iterators⟩

theorem Within.setIterator (h : s.Within P) (ref : Ref) {it : Iterator} (hit : it.Within P) :
    (s.setIterator ref it).Within P :=
  ⟨h.lists, h.dicts, h.instances, Heap.forall_set h.iterators hit ref⟩

theorem Within.apply (h : s.Within P) {change : Change} (hc : change.Within P) :
    (s.apply change).Within P := by
  cases change with
  | nothing => exact h
  | object ref i => exact h.setInstance ref hc
  | iterator ref it => exact h.setIterator ref hc

theorem lt_size_of_get? {ref : Ref} {i : Instance} (h : s.instances.get? ref = some i) :
    ref < s.instances.size := (Array.getElem?_eq_some_iff.1 h).1

theorem instanceAt_eq {ref : Ref} {i : Instance} (h : s.instances.get? ref = some i) :
    s.instanceAt ref = i := by
  unfold instanceAt
  rw [h]
  rfl

theorem get?_instanceAt {ref : Ref} (h : ref < s.instances.size) :
    s.instances.get? ref = some (s.instanceAt ref) := by
  have hi : s.instances.get? ref = some _ := Array.getElem?_eq_getElem h
  rw [instanceAt_eq hi]
  exact hi

/-- `Store.live` answers with the type itself, if at all. -/
theorem live_yields (s : Store) (t : TypeObject) : Yields (fun t' => t' = t) (s.live t) := by
  unfold live
  split
  · exact .error _
  · exact .ok rfl

end Store

end ObjectProtocol
