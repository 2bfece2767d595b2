import ObjectProtocol.Proofs.Operations.Writes

/-!
# What stays of objects

No operation takes an object away or gives an instance another type: it makes new objects, and where it
writes to an instance, what it writes is of the type that the instance has, with a dictionary if the
instance has one.  `Store.GrowsTo` says so of stores.  It follows from `Store.EditedBy` once every write
keeps shapes, and the lemmas named `keepsShape` say that all of them do.
-/

namespace ObjectProtocol

namespace Instance

/-- The second instance has the type of the first, and a dictionary iff the first has one. -/
structure SameShape (i j : Instance) : Prop where
  type_eq : j.type = i.type
  isSome_eq : j.dict.isSome = i.dict.isSome

variable {i j k : Instance}

theorem SameShape.refl (i : Instance) : i.SameShape i := ⟨rfl, rfl⟩

theorem SameShape.trans (h : i.SameShape j) (h' : j.SameShape k) : i.SameShape k :=
  ⟨h'.type_eq.trans h.type_eq, h'.isSome_eq.trans h.isSome_eq⟩

theorem sameShape_write (i : Instance) (offset : Nat) (content : Field) :
    Yields i.SameShape (i.write offset content) := by
  intro j hj
  obtain ⟨-, rfl⟩ := write_eq_ok_iff.1 hj
  exact ⟨rfl, rfl⟩

end Instance

namespace Store

def KeepsTypes (s s' : Store) : Prop :=
  ∀ ref i, s.instances.get? ref = some i →
    ∃ j, s'.instances.get? ref = some j ∧ j.type = i.type

/-- Every instance is still there, in the `SameShape`. -/
def KeepsShapes (s s' : Store) : Prop :=
  ∀ ref i, s.instances.get? ref = some i →
    ∃ j, s'.instances.get? ref = some j ∧ i.SameShape j

/-- An instance of the store has the shape of this one, or this one has that of `Instance.alloc`. -/
def Accounted (s : Store) (ref : Ref) (i : Instance) : Prop :=
  (∃ j, s.instances.get? ref = some j ∧ j.SameShape i) ∨ (Instance.alloc i.type).SameShape i

/-- No object goes, no type is released, and new instances have the shape of `Instance.alloc`. -/
structure GrowsTo (s s' : Store) : Prop where
  shapes : s.KeepsShapes s'
  accounted : ∀ ref i, s'.instances.get? ref = some i → s.Accounted ref i
  released_eq : s'.released = s.released
  nextId_le : s.nextId ≤ s'.nextId

variable {s s' s'' : Store}

theorem KeepsTypes.of_instances_eq (h : s'.instances = s.instances) : s.KeepsTypes s' := by
  intro ref i hi
  exact ⟨i, h ▸ hi, rfl⟩

theorem KeepsTypes.trans (h : s.KeepsTypes s') (h' : s'.KeepsTypes s'') : s.KeepsTypes s'' := by
  intro ref i hi
  obtain ⟨j, hj, hij⟩ := h ref i hi
  obtain ⟨k, hk, hjk⟩ := h' ref j hj
  exact ⟨k, hk, hjk.trans hij⟩

theorem KeepsShapes.types (h : s.KeepsShapes s') : s.KeepsTypes s' := by
  intro ref i hi
  obtain ⟨j, hj, hij⟩ := h ref i hi
  exact ⟨j, hj, hij.type_eq⟩

theorem GrowsTo.types (h : s.GrowsTo s') : s.KeepsTypes s' := h.shapes.types

theorem KeepsShapes.of_instances_eq (h : s'.instances = s.instances) : s.KeepsShapes s' := by
  intro ref i hi
  exact ⟨i, h ▸ hi, .refl i⟩

theorem KeepsShapes.trans (h : s.KeepsShapes s') (h' : s'.KeepsShapes s'') : s.KeepsShapes s'' := by
  intro ref i hi
  obtain ⟨j, hj, hij⟩ := h ref i hi
  obtain ⟨k, hk, hjk⟩ := h' ref j hj
  exact ⟨k, hk, hij.trans hjk⟩

theorem KeepsTypes.type_eq (h : s.KeepsTypes s') {ref : Ref} {i : Instance}
    (hi : s.instances.get? ref = some i) : (s'.instanceAt ref).type = i.type := by
  obtain ⟨j, hj, htype⟩ := h ref i hi
  rw [instanceAt_eq hj]
  exact htype

theorem GrowsTo.of_le (hnextId : s.nextId ≤ s'.nextId) (hinstances : s'.instances = s.instances)
    (hreleased : s'.released = s.released) : s.GrowsTo s' :=
  ⟨.of_instances_eq hinstances, fun _ i hi => Or.inl ⟨i, hinstances ▸ hi, .refl i⟩, hreleased, hnextId⟩

theorem GrowsTo.of_eq (hnextId : s'.nextId = s.nextId) (hinstances : s'.instances = s.instances)
    (hreleased : s'.released = s.released) : s.GrowsTo s' :=
  .of_le (Nat.le_of_eq hnextId.symm) hinstances hreleased

theorem GrowsTo.refl (s : Store) : s.GrowsTo s := .of_eq rfl rfl rfl

theorem GrowsTo.trans (h : s.GrowsTo s') (h' : s'.GrowsTo s'') : s.GrowsTo s'' := by
  refine ⟨h.shapes.trans h'.shapes, fun ref i hi => ?_, h'.released_eq.trans h.released_eq,
    Nat.le_trans h.nextId_le h'.nextId_le⟩
  rcases h'.accounted ref i hi with ⟨j, hj, hji⟩ | hfresh
  · rcases h.accounted ref j hj with ⟨k, hk, hkj⟩ | hfresh
    · exact Or.inl ⟨k, hk, hkj.trans hji⟩
    · rw [← hji.type_eq] at hfresh
      exact Or.inr (hfresh.trans hji)
  · exact Or.inr hfresh

theorem growsTo_newInstance (s : Store) (t : TypeObject) : s.GrowsTo (s.newInstance (.alloc t)).2 := by
  refine ⟨fun ref j hj => ⟨j, Heap.get?_push_of_some hj _, .refl j⟩, fun ref i hi => ?_, rfl,
    Nat.le_refl _⟩
  have hpushed : (s.instances.push (.alloc t)).get? ref = some i := hi
  rw [Heap.get?_push] at hpushed
  split at hpushed
  · cases hpushed
    exact Or.inr (.refl _)
  · exact Or.inl ⟨i, hpushed, .refl i⟩

end Store

/-! ## Changes -/

def Change.KeepsShape (s : Store) : Change → Prop
  | .object ref i => (s.instanceAt ref).SameShape i
  | .nothing | .iterator .. => True

theorem Store.growsTo_apply {s : Store} {c : Change} (h : c.KeepsShape s) :
    s.GrowsTo (s.apply c) := by
  cases c with
  | nothing | iterator => exact .of_eq rfl rfl rfl
  | object place content =>
    -- What was at the place has the shape of what is put there.
    have hat {ref : Ref} {i : Instance} (hi : s.instances.get? ref = some i) (heq : place = ref) :
        i.SameShape content := by
      subst heq
      have hsame : s.instanceAt place = i := instanceAt_eq hi
      exact hsame ▸ h
    have hset (ref : Ref) : (s.apply (.object place content)).instances.get? ref =
        if place = ref then if ref < s.instances.size then some content else none
        else s.instances.get? ref := Heap.get?_set ..
    refine ⟨fun ref i hi => ?_, fun ref i hi => ?_, rfl, Nat.le_refl _⟩
    · rw [hset]
      split
      · rename_i heq
        rw [if_pos (lt_size_of_get? hi)]
        exact ⟨content, rfl, hat hi heq⟩
      · exact ⟨i, hi, .refl i⟩
    · rw [hset] at hi
      split at hi
      · rename_i heq
        split at hi
        · rename_i hlt
          cases hi
          exact Or.inl ⟨_, get?_instanceAt hlt, hat (get?_instanceAt hlt) heq⟩
        · contradiction
      · exact Or.inl ⟨i, hi, .refl i⟩

section Instances

variable {i : Instance}

theorem Member.sameShape_set (m : Member) (s : Store) (i : Instance) (v : Value) :
    Yields i.SameShape (m.set s i v) := by
  unfold Member.set
  split
  · exact .error _
  · split
    · exact .error _
    · exact i.sameShape_write _ _

theorem Member.sameShape_delete (m : Member) (i : Instance) :
    Yields i.SameShape (m.delete i) := by
  unfold Member.delete
  split
  · exact .error _
  · split
    · exact i.sameShape_write _ _
    · exact .error _

theorem NextSlot.sameShape_run (slot : NextSlot) (i : Instance) :
    Yields (fun r => i.SameShape r.2) (slot.run i) := by
  cases slot with
  | countdown =>
    refine .bind (.any _) fun n _ => ?_
    split
    · exact .bind (i.sameShape_write _ _) fun j hj => .ok hj
    · exact .ok (.refl i)
  | exhausted => exact .error _
  | drained => exact .error _

end Instances

namespace Store

variable {target v : Value}

theorem keepsShape_setAttr (s : Store) (target : Value) (name : String) (v : Value) :
    Yields (Change.KeepsShape s) (s.setAttr target name v) := by
  unfold setAttr
  split
  · dsimp only
    split
    · exact .error _
    · split
      · rename_i m _
        exact .mapError (.map (m.sameShape_set s _ v))
      · split
        · exact .error _
        · split
          · -- An entry is added to a dictionary that was there.
            rename_i table hdict
            exact .ok ⟨rfl, (congrArg Option.isSome hdict).symm⟩
          · exact .error _
  · exact .error _

theorem keepsShape_delAttr (s : Store) (target : Value) (name : String) :
    Yields (Change.KeepsShape s) (s.delAttr target name) := by
  unfold delAttr
  split
  · dsimp only
    split
    · exact .error _
    · split
      · rename_i m _
        exact .mapError (.map (m.sameShape_delete _))
      · split
        · exact .ok ⟨rfl, Option.isSome_map⟩
        · exact .error _
  · exact .error _

theorem keepsShape_next (s : Store) (v : Value) :
    Yields (fun r => r.2.KeepsShape s) (s.next v) := by
  unfold next
  split
  · exact .ok trivial
  · dsimp only
    split
    · exact .error _
    · split
      · rename_i slot _
        split
        · rename_i yielded j hrun
          refine .ok ?_
          exact slot.sameShape_run _ _ hrun
        · exact .error _
      · exact .error _
  · exact .error _

end Store

/-! ## Routines -/

section Routines

variable {i : Instance} {ref : Ref} {a : Args} {s : Store}

theorem InstanceRoutine.keepsShape_run (r : InstanceRoutine) (s : Store) (ref : Ref) (a : Args) :
    Yields (fun r => r.2.KeepsShape s) (r.run ref (s.instanceAt ref) a) := by
  cases r with
  | receiver | info => exact .ok trivial
  | getInt => exact .bind (.any _) fun _ _ => .bind (.any _) fun _ _ => .ok trivial
  | getObject => exact .bind (.any _) fun _ _ => .bind (.any _) fun _ _ => .ok trivial
  | setInt =>
    exact .bind (.any _) fun _ _ => .bind (.any _) fun _ _ =>
      .bind (Instance.sameShape_write _ _ _) fun _ hj => .ok hj
  | setObject =>
    exact .bind (.any _) fun _ _ => .bind (Instance.sameShape_write _ _ _) fun _ hj => .ok hj

namespace Sample

theorem Box.sameShape_init (s : Store) (i : Instance) (args : List Value) :
    Yields i.SameShape (init s i args) :=
  .bind (.any _) fun _ _ => .bind (.any _) fun _ _ => .bind (.any _) fun _ _ =>
    .bind (i.sameShape_write _ _) fun j hj k hk => hj.trans (j.sameShape_write _ _ k hk)

theorem Box.sameShape_incr (i : Instance) : Yields i.SameShape (incr i) := by
  refine .bind (.any _) fun n _ => ?_
  split
  · exact i.sameShape_write _ _
  · exact .error _

theorem Box.sameShape_settle (i : Instance) (policy : MutationPolicy) (n : NativeInt) (faulted : Bool) :
    i.SameShape (settle i policy n faulted).2 := by
  unfold settle
  dsimp only
  split
  · split
    · exact .refl i
    · split
      · exact .refl i
      · exact i.sameShape_write _ _ _ ‹_›
  · exact .refl i
  · split
    · exact .refl i
    · exact i.sameShape_write _ _ _ ‹_›

theorem Counter.sameShape_init (s : Store) (i : Instance) (args : List Value) :
    Yields i.SameShape (init s i args) := by
  refine .bind (.any _) fun a _ => .bind (.any _) fun v _ => ?_
  split
  · exact .bind (.any _) fun n _ => i.sameShape_write _ _
  · exact .error _

end Sample

namespace InitSlot

theorem sameShape_storeFrom (s : Store) (i : Instance) (objects : Bool) (n : Nat) (args : List Value) :
    i.SameShape (storeFrom s i objects n args).2 := by
  induction args generalizing i n with
  | nil => exact .refl i
  | cons v rest ih =>
    unfold storeFrom
    dsimp only
    split
    · exact .refl i
    · rename_i j hj
      refine Instance.SameShape.trans ?_ (ih j (n + 1))
      exact Yields.bind (.any _) (fun content _ => i.sameShape_write n content) j hj

theorem sameShape_atomic {x : Except Failure Instance} (h : Yields i.SameShape x) :
    i.SameShape (atomic i x).2 := by
  cases x with
  | ok j => exact h j rfl
  | error f => exact .refl i

theorem sameShape_run (slot : InitSlot) (s : Store) (i : Instance) (args : List Value) :
    i.SameShape (slot.run s i args).2 := by
  cases slot with
  | store => exact sameShape_storeFrom s i false 0 args
  | storeObjects => exact sameShape_storeFrom s i true 0 args
  | ignore | fail => exact .refl i
  | box => exact sameShape_atomic (Sample.Box.sameShape_init s i args)
  | counter => exact sameShape_atomic (Sample.Counter.sameShape_init s i args)

end InitSlot

end Routines

/-! ## Edits -/

def Edit.KeepsShape (s : Store) : Edit → Prop
  | change c => c.KeepsShape s
  | append .. | put .. => True

theorem Store.EditedBy.growsTo {W : Store → Edit → Prop} {s s' : Store} (h : s.EditedBy W s')
    (hW : ∀ s e, W s e → e.KeepsShape s) : s.GrowsTo s' := by
  induction h with
  | refl => exact .refl s
  | identities _ hid ih => exact ih.trans (.of_le hid rfl rfl)
  | list _ _ ih | dict _ _ ih | iterator _ _ ih => exact ih.trans (.of_eq rfl rfl rfl)
  | @write s' e _ he ih =>
    have hkeeps := hW s' e he
    cases e with
    | change c => exact ih.trans (growsTo_apply hkeeps)
    | append | put => exact ih.trans (.of_eq rfl rfl rfl)

theorem ObjectOp.Changes.keepsShape {op : ObjectOp} {s : Store} {operands : List Value} {c : Change}
    (h : op.Changes s operands c) : c.KeepsShape s := by
  cases h with
  | setAttr h => exact s.keepsShape_setAttr _ _ _ _ h
  | delAttr h => exact s.keepsShape_delAttr _ _ _ h
  | @memberSet m ref v i h => exact m.sameShape_set s _ v i h
  | @memberDelete m ref i h => exact m.sameShape_delete _ i h

theorem Op.Edits.keepsShape {op : Op Code} {s : Store} {operands : List Value} {e : Edit}
    (h : op.Edits s operands e) : e.KeepsShape s := by
  obtain ⟨h⟩ := h
  cases h with
  | changes h => exact h.keepsShape
  | advance _ h => exact s.keepsShape_next _ _ h
  | push | put => exact trivial

theorem Descriptor.Writes.keepsShape {d : Descriptor} {s : Store} {receiver : Value} {e : Edit}
    (h : d.Writes s receiver e) : e.KeepsShape s := by
  obtain ⟨-, h⟩ := h
  cases h with
  | @onInstance r a answer h => exact r.keepsShape_run s _ a answer h
  | incr h => exact Sample.Box.sameShape_incr _ _ h
  | maybeIncr policy n faulted => exact Sample.Box.sameShape_settle _ policy n faulted

theorem TypeObject.Initializes.keepsShape {t : TypeObject} {s : Store} {ref : Ref} {e : Edit}
    (h : t.Initializes ref s e) : e.KeepsShape s := by
  cases h with
  | method _ h => exact h.keepsShape
  | slot slot args => exact slot.sameShape_run s _ args

end ObjectProtocol
