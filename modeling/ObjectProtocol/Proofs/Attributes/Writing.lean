import ObjectProtocol.Proofs.Attributes.Agreement

/-!
# A write touches one cell

An attribute is written under a name, or through a member apart from any type.  Everything that can
stand against the write is looked at before the instance is changed: what is refused leaves the whole
session as it was, and what succeeds gives new content to one field or to one entry of the target's
dictionary.  Which cell that is depends on the type of the target alone.
-/

namespace ObjectProtocol

/-- An assignment or a deletion, by name or through a free-standing `Member`. -/
inductive Writing
  | assign (name : String) (v : Value)
  | delete (name : String)
  /-- Through a member that need not belong to the target's type. -/
  | assignMember (m : Member) (v : Value)
  | deleteMember (m : Member)

inductive Cell
  | field (offset : Nat)
  | entry (name : String)
deriving DecidableEq, Repr

/-- The one instance is the other with new content in the `Cell`: a field keeps its kind, and a dictionary
its other entries. -/
inductive Instance.DiffersAt (i : Instance) : Cell → Instance → Prop
  | field {offset : Nat} {content : Field} : i.kinds[offset]? = some content.kind →
    DiffersAt i (.field offset) { i with fields := i.fields.set offset content }
  | entry {name : String} {table table' : Table Value} : i.dict = some table →
    (∀ other, other ≠ name → table'.get? other = table.get? other) →
    DiffersAt i (.entry name) { i with dict := some table' }

namespace Instance.DiffersAt

variable {i j : Instance} {cell : Cell}

theorem type_eq (h : i.DiffersAt cell j) : j.type = i.type := by
  cases h <;> rfl

theorem field_eq (h : i.DiffersAt cell j) {offset : Nat} (hne : cell ≠ .field offset) :
    j.fields[offset]? = i.fields[offset]? := by
  cases h with
  | field hkind =>
    rw [List.getElem?_set_ne]
    intro heq
    exact hne (congrArg Cell.field heq)
  | entry hdict hother => rfl

theorem ne_default (h : i.DiffersAt cell j) : i ≠ default := by
  intro hdefault
  rw [hdefault] at h
  cases h with
  | field hkind => contradiction
  | entry hdict hother => contradiction

theorem of_write {offset : Nat} {content : Field} (h : i.write offset content = .ok j) :
    i.DiffersAt (.field offset) j := by
  obtain ⟨hkind, rfl⟩ := write_eq_ok_iff.1 h
  exact .field hkind

end Instance.DiffersAt

namespace Member

variable {m : Member} {s : Store} {i j : Instance} {v : Value}

def writes? (m : Member) : Option Cell :=
  match m.access with
  | .readWrite => some (.field m.offset)
  | .readOnly => none

theorem writes?_eq (h : m.access = .readWrite) : m.writes? = some (.field m.offset) := by
  unfold writes?
  rw [h]

theorem writes?_eq_some_iff {offset : Nat} :
    m.writes? = some (.field offset) ↔ m.offset = offset ∧ m.access = .readWrite := by
  unfold writes?
  cases m.access <;> simp

theorem differsAt_of_set (h : m.set s i v = .ok j) :
    ∃ cell, m.writes? = some cell ∧ i.DiffersAt cell j := by
  have haccess : m.access = .readWrite := by
    unfold set at h
    split at h
    · contradiction
    · assumption
  obtain ⟨content, -, hwrite⟩ := write_of_set h
  exact ⟨_, writes?_eq haccess, .of_write hwrite⟩

theorem differsAt_of_delete (h : m.delete i = .ok j) :
    ∃ cell, m.writes? = some cell ∧ i.DiffersAt cell j := by
  have haccess : m.access = .readWrite := by
    unfold delete at h
    split at h
    · contradiction
    · assumption
  obtain ⟨-, hwrite⟩ := write_of_delete h
  exact ⟨_, writes?_eq haccess, .of_write hwrite⟩

end Member

namespace TypeObject

variable {t : TypeObject} {name : String}

/-- The cell that the name lets write to on instances of the type. A name that stands for no member is one
of the dictionary. -/
def cell? (t : TypeObject) (name : String) : Option Cell :=
  match t.findMember? name with
  | some m => m.writes?
  | none => some (.entry name)

theorem cell?_of_member {m : Member} (h : t.findMember? name = some m) :
    t.cell? name = m.writes? := by
  unfold cell?
  rw [h]

theorem cell?_of_none (h : t.findMember? name = none) : t.cell? name = some (.entry name) := by
  unfold cell?
  rw [h]

end TypeObject

namespace Writing

def op : Writing → ObjectOp
  | assign name _ => .setAttr name
  | delete name => .delAttr name
  | assignMember m _ => .memberSet m
  | deleteMember m => .memberDelete m

def operands : Writing → List Value
  | assign _ v | assignMember _ v => [v]
  | delete _ | deleteMember _ => []

def run (w : Writing) (target : Value) (s : Session) : Request × Session :=
  (Op.object w.op).run (target :: w.operands) s

def isNamed : Writing → Bool
  | assign .. | delete _ => true
  | assignMember .. | deleteMember _ => false

/-- The cell that a `Writing` goes to on an instance of the type, if any. -/
def cell? (t : TypeObject) : Writing → Option Cell
  | assign name _ | delete name => t.cell? name
  | assignMember m _ | deleteMember m => m.writes?

/-! ## What succeeds -/

def Touches (w : Writing) (s : Store) (target : Value) (change : Change) : Prop :=
  ∃ ref cell j, target = .object ref ∧ w.cell? (s.instanceAt ref).type = some cell ∧
    (s.instanceAt ref).DiffersAt cell j ∧ change = .object ref j

variable {s : Store} {target v : Value} {name : String} {m : Member} {change : Change}

theorem touches_of_setAttr (h : s.setAttr target name v = .ok change) :
    (assign name v).Touches s target change := by
  cases target with
  | object ref =>
    rcases Store.cases_of_setAttr h with ⟨m, j, hm, hset, rfl⟩ | ⟨table, hmember, -, htable, rfl⟩
    · obtain ⟨cell, hcell, hdiffers⟩ := Member.differsAt_of_set hset
      exact ⟨ref, cell, j, rfl, (TypeObject.cell?_of_member hm).trans hcell, hdiffers, rfl⟩
    · refine ⟨ref, .entry name, _, rfl, TypeObject.cell?_of_none hmember, ?_, rfl⟩
      refine .entry htable fun other hother => ?_
      rw [Table.get?_insert, if_neg hother]
  | _ => contradiction

theorem touches_of_delAttr (h : s.delAttr target name = .ok change) :
    (delete name).Touches s target change := by
  cases target with
  | object ref =>
    rcases Store.cases_of_delAttr h with ⟨m, j, hm, hdelete, rfl⟩ | ⟨table, w, hmember, htable, -, rfl⟩
    · obtain ⟨cell, hcell, hdiffers⟩ := Member.differsAt_of_delete hdelete
      exact ⟨ref, cell, j, rfl, (TypeObject.cell?_of_member hm).trans hcell, hdiffers, rfl⟩
    · refine ⟨ref, .entry name, _, rfl, TypeObject.cell?_of_none hmember, ?_, rfl⟩
      refine .entry htable fun other hother => ?_
      rw [Table.get?_erase, if_neg hother]
  | _ => contradiction

theorem touches_of_set {ref : Ref}
    (h : ((m.set s (s.instanceAt ref) v).map (Change.object ref)).mapError Failure.toException =
      .ok change) : (assignMember m v).Touches s (.object ref) change := by
  cases hset : m.set s (s.instanceAt ref) v with
  | error f =>
    rw [hset] at h
    contradiction
  | ok j =>
    rw [hset] at h
    cases h
    obtain ⟨cell, hcell, hdiffers⟩ := Member.differsAt_of_set hset
    exact ⟨ref, cell, j, rfl, hcell, hdiffers, rfl⟩

theorem touches_of_delete {ref : Ref}
    (h : ((m.delete (s.instanceAt ref)).map (Change.object ref)).mapError Failure.toException =
      .ok change) : (deleteMember m).Touches s (.object ref) change := by
  cases hdelete : m.delete (s.instanceAt ref) with
  | error f =>
    rw [hdelete] at h
    contradiction
  | ok j =>
    rw [hdelete] at h
    cases h
    obtain ⟨cell, hcell, hdiffers⟩ := Member.differsAt_of_delete hdelete
    exact ⟨ref, cell, j, rfl, hcell, hdiffers, rfl⟩

theorem get?_of_differsAt {ref : Ref} {cell : Cell} {j : Instance}
    (h : (s.instanceAt ref).DiffersAt cell j) :
    s.instances.get? ref = some (s.instanceAt ref) :=
  Store.get?_instanceAt (Store.lt_size_of_instanceAt_ne h.ne_default)

/-! ## The three ways a write can end -/

def Refused (w : Writing) (target : Value) (s : Session) : Prop :=
  ∃ e, w.run target s = (.raise e, s)

/-- A free-standing member on something that is no instance: the operation is `malformed`. -/
def Misplaced (w : Writing) (target : Value) (s : Session) : Prop :=
  w.isNamed = false ∧ target.isObject = false ∧ w.run target s = (.malformed, s)

/-- One `Cell` of the target has new content, and all else is as it was. -/
def Done (w : Writing) (target : Value) (s : Session) : Prop :=
  ∃ ref i cell j, target = .object ref ∧ s.host.store.instances.get? ref = some i ∧
    w.cell? i.type = some cell ∧ i.DiffersAt cell j ∧
    w.run target s = (.value .null, s.setStore (s.host.store.setInstance ref j))

theorem refused_or_done {w : Writing} {s : Session} {x : Except Exception Change}
    (hrun : w.run target s =
      ((Request.ofChange x s.host.store).1, s.setStore (Request.ofChange x s.host.store).2))
    (hok : ∀ change, x = .ok change → w.Touches s.host.store target change) :
    w.Refused target s ∨ w.Done target s := by
  cases x with
  | error e => exact Or.inl ⟨e, hrun⟩
  | ok change =>
    obtain ⟨ref, cell, j, rfl, hcell, hdiffers, rfl⟩ := hok change rfl
    exact Or.inr ⟨ref, _, cell, j, rfl, get?_of_differsAt hdiffers, hcell, hdiffers, hrun⟩

theorem refused_or_done_of_isNamed (w : Writing) (target : Value) (s : Session)
    (h : w.isNamed = true) : w.Refused target s ∨ w.Done target s := by
  cases w with
  | assign name v =>
    exact refused_or_done (x := s.host.store.setAttr target name v) rfl
      fun change => touches_of_setAttr
  | delete name =>
    exact refused_or_done (x := s.host.store.delAttr target name) rfl
      fun change => touches_of_delAttr
  | assignMember m v => contradiction
  | deleteMember m => contradiction

theorem refused_or_done_of_object (w : Writing) (ref : Ref) (s : Session)
    (h : w.isNamed = false) : w.Refused (.object ref) s ∨ w.Done (.object ref) s := by
  cases w with
  | assign name v => contradiction
  | delete name => contradiction
  | assignMember m v =>
    exact refused_or_done
      (x := ((m.set s.host.store (s.host.store.instanceAt ref) v).map
        (Change.object ref)).mapError Failure.toException) rfl fun change => touches_of_set
  | deleteMember m =>
    exact refused_or_done
      (x := ((m.delete (s.host.store.instanceAt ref)).map
        (Change.object ref)).mapError Failure.toException) rfl fun change => touches_of_delete

theorem misplaced_of_isObject (w : Writing) {target : Value} (s : Session)
    (h : w.isNamed = false) (htarget : target.isObject = false) : w.Misplaced target s := by
  refine ⟨h, htarget, ?_⟩
  cases w with
  | assign name v => contradiction
  | delete name => contradiction
  | assignMember m v =>
    cases target with
    | object ref => contradiction
    | _ => rfl
  | deleteMember m =>
    cases target with
    | object ref => contradiction
    | _ => rfl

/-- Every `Writing` to every target in every session either raises or is malformed, with the whole session
as it was, or it succeeds and gives one `Cell` of one instance new content and changes nothing else. -/
theorem touches_one_cell (w : Writing) (target : Value) (s : Session) :
    w.Refused target s ∨ w.Misplaced target s ∨ w.Done target s := by
  cases hnamed : w.isNamed with
  | true => exact (w.refused_or_done_of_isNamed target s hnamed).imp_right Or.inr
  | false =>
    -- A free-standing member asks for an instance before anything else.
    cases hobject : target.isObject with
    | false => exact Or.inr (Or.inl (w.misplaced_of_isObject s hnamed hobject))
    | true =>
      obtain ⟨ref, rfl⟩ : ∃ ref, target = .object ref := by
        cases target with
        | object ref => exact ⟨ref, rfl⟩
        | _ => contradiction
      exact (w.refused_or_done_of_object ref s hnamed).imp_right Or.inr

end Writing

end ObjectProtocol
