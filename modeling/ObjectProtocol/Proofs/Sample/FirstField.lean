import ObjectProtocol.Proofs.Attributes.Protection
import ObjectProtocol.Proofs.Operations.Steps
import ObjectProtocol.Proofs.Sample.Runs

/-!
# What leaves the first field alone

A box keeps its contents in the first field, and a counter its bound.  An assignment or a deletion only
writes to a first field that the type opens, the native methods of the sample module write to the second
field, and an advance writes to an instance if its type has a slot for that.  What is left are members
apart from types, and native methods that write to the fields of whatever they are bound to;
`Config.Overwrites` says that a step puts one of these to an instance.  `Config.keepsAt_advance` is about
one instance, whatever happens to others.
-/

namespace ObjectProtocol

/-! ## Instances -/

namespace Instance

/-- The instance keeps its type, and its first field unless the type `Opens` it. -/
structure KeepsFirst (i j : Instance) : Prop where
  type_eq : j.type = i.type
  field_eq : ¬ i.type.Opens 0 → j.fields[0]? = i.fields[0]?

variable {i j k : Instance}

theorem KeepsFirst.refl (i : Instance) : i.KeepsFirst i := ⟨rfl, fun _ => rfl⟩

theorem KeepsFirst.trans (h : i.KeepsFirst j) (h' : j.KeepsFirst k) : i.KeepsFirst k where
  type_eq := h'.type_eq.trans h.type_eq
  field_eq hclosed := (h'.field_eq (by rw [h.type_eq]; exact hclosed)).trans (h.field_eq hclosed)

theorem DiffersAt.keepsFirst {cell : Cell} (h : i.DiffersAt cell j)
    (hcell : ¬ i.type.Opens 0 → cell ≠ .field 0) : i.KeepsFirst j :=
  ⟨h.type_eq, fun hclosed => h.field_eq (hcell hclosed)⟩

theorem keepsFirst_write (i : Instance) {offset : Nat} (hoffset : offset ≠ 0) (content : Field) :
    Yields i.KeepsFirst (i.write offset content) := by
  intro j hj
  refine (DiffersAt.of_write hj).keepsFirst fun _ heq => ?_
  cases heq
  exact hoffset rfl

end Instance

/-! ## Stores -/

namespace Store

/-- If there is an instance at `ref`, it is still there and keeps its first field. -/
def KeepsAt (s : Store) (ref : Ref) (s' : Store) : Prop :=
  ∀ i, s.instances.get? ref = some i → ∃ j, s'.instances.get? ref = some j ∧ i.KeepsFirst j

def Keeps (s s' : Store) : Prop :=
  ∀ ref i, s.instances.get? ref = some i → ∃ j, s'.instances.get? ref = some j ∧ i.KeepsFirst j

variable {s s' s'' : Store} {ref : Ref}

theorem KeepsAt.of_eq (h : s'.instances = s.instances) : s.KeepsAt ref s' :=
  fun i hi => ⟨i, h ▸ hi, .refl i⟩

theorem KeepsAt.refl (s : Store) : s.KeepsAt ref s := .of_eq rfl

theorem KeepsAt.trans (h : s.KeepsAt ref s') (h' : s'.KeepsAt ref s'') : s.KeepsAt ref s'' := by
  intro i hi
  obtain ⟨j, hj, hij⟩ := h i hi
  obtain ⟨k, hk, hjk⟩ := h' j hj
  exact ⟨k, hk, hij.trans hjk⟩

theorem Keeps.refl (s : Store) : s.Keeps s := fun _ => KeepsAt.refl s

theorem Keeps.trans (h : s.Keeps s') (h' : s'.Keeps s'') : s.Keeps s'' :=
  fun ref => KeepsAt.trans (h ref) (h' ref)

/-- There are the same instances, and each `KeepsFirst`. -/
structure KeepsFirst (s s' : Store) : Prop where
  size_eq : s'.instances.size = s.instances.size
  kept : s.Keeps s'

/-- There is one instance more, of type `t`; the others keep their first field. -/
structure Adds (s : Store) (t : TypeObject) (s' : Store) : Prop where
  size_eq : s'.instances.size = s.instances.size + 1
  added : ∃ j, s'.instances.get? s.instances.size = some j ∧ j.type = t
  kept : s.Keeps s'

end Store

/-! ## Edits -/

def Change.KeepsFirst (ref : Ref) (s : Store) : Change → Prop
  | .object place j => place = ref → (s.instanceAt ref).KeepsFirst j
  | .nothing | .iterator .. => True

def Edit.KeepsFirst (ref : Ref) (s : Store) : Edit → Prop
  | change c => c.KeepsFirst ref s
  | append .. | put .. => True

namespace Store

variable {W : Store → Edit → Prop} {s s' : Store} {ref : Ref}

theorem keepsAt_run {e : Edit} (h : e.KeepsFirst ref s) : s.KeepsAt ref (e.run s) := by
  cases e with
  | append | put => exact .of_eq rfl
  | change c =>
    cases c with
    | nothing | iterator => exact .of_eq rfl
    | object place j =>
      intro i hi
      show ∃ k, (s.instances.set place j).get? ref = some k ∧ i.KeepsFirst k
      rw [Heap.get?_set]
      split
      · rename_i heq
        rw [if_pos (lt_size_of_get? hi)]
        exact ⟨j, rfl, instanceAt_eq hi ▸ h heq⟩
      · exact ⟨i, hi, .refl i⟩

/-- The induction is on the edits: each finds an instance of the type that was there at the beginning. -/
theorem EditedBy.keepsAt (h : s.EditedBy W s') (hW : ∀ s' e, W s' e →
    (s'.instanceAt ref).type = (s.instanceAt ref).type → e.KeepsFirst ref s') : s.KeepsAt ref s' := by
  induction h with
  | refl => exact .refl s
  | identities _ _ ih | list _ _ ih | dict _ _ ih | iterator _ _ ih => exact ih.trans (.of_eq rfl)
  | @write s' e _ he ih =>
    intro i hi
    obtain ⟨j, hj, hij⟩ := ih i hi
    have htype : (s'.instanceAt ref).type = (s.instanceAt ref).type := by
      rw [instanceAt_eq hj, instanceAt_eq hi, hij.type_eq]
    obtain ⟨k, hk, hjk⟩ := keepsAt_run (hW s' e he htype) j hj
    exact ⟨k, hk, hij.trans hjk⟩

end Store

/-! ## Routines of the sample module -/

def MethodRoutine.isSample : MethodRoutine → Bool
  | box _ | rawLength => true
  | stock _ | onInstance _ => false

def Method.SampleOnly (m : Method Code) : Prop := ∀ r, m.body = .native r → r.isSample = true

namespace Sample

theorem isSample_of_mem_nativeDecls {d : TypeDecl Code} (hd : d ∈ nativeDecls) {m : Method Code}
    (hm : m ∈ d.methods) : m.SampleOnly := by
  intro r hbody
  rcases cases_of_mem_nativeDecls hd with rfl | rfl
  · obtain ⟨b, hb, -⟩ := exists_of_mem_boxDecl hm
    rw [hbody] at hb
    cases hb
    rfl
  · rw [body_of_mem_counterDecl hm] at hbody
    cases hbody
    rfl

namespace Box

theorem counterField_ne : counterField ≠ 0 := by decide

theorem keepsFirst_incr (i : Instance) : Yields i.KeepsFirst (incr i) := by
  refine .bind (.any _) fun n _ => ?_
  split
  · exact i.keepsFirst_write counterField_ne _
  · exact .error _

theorem keepsFirst_settle (i : Instance) (policy : MutationPolicy) (n : NativeInt)
    (faulted : Bool) : i.KeepsFirst (settle i policy n faulted).2 := by
  unfold settle
  dsimp only
  split
  · split
    · exact .refl i
    · split
      · exact .refl i
      · exact i.keepsFirst_write counterField_ne _ _ ‹_›
  · exact .refl i
  · split
    · exact .refl i
    · exact i.keepsFirst_write counterField_ne _ _ ‹_›

end Box

end Sample

/-- No `NextSlot` writes to an instance of the type, and its native methods are those of the sample
module. -/
structure TypeObject.Guarded (t : TypeObject) : Prop where
  noNext : t.findSlot? (·.next) = none
  sampleOnly : ∀ name d, t.findMethod? name = some d → d.method.SampleOnly

/-! ## Who overwrites instances -/

def InstanceRoutine.overwrites : InstanceRoutine → Bool
  | setInt | setObject => true
  | receiver | info | getInt | getObject => false

def MethodRoutine.overwrites : MethodRoutine → Bool
  | onInstance r => r.overwrites
  | stock _ | box _ | rawLength => false

theorem MethodRoutine.overwrites_of_isSample {r : MethodRoutine} (h : r.isSample = true) :
    r.overwrites = false := by
  cases r with
  | box | rawLength => rfl
  | stock | onInstance => contradiction

/-- The operation writes to the instance at `ref` by a free-standing member. -/
def ObjectOp.Overwrites (ref : Ref) (operands : List Value) : ObjectOp → Prop
  | memberSet _ | memberDelete _ => operands.head? = some (.object ref)
  | _ => False

/-- The next step puts native code to the instance at `ref` that writes to its fields whatever its type
is. -/
inductive Config.Overwrites (c : Config) (ref : Ref) : Prop
  | member {op : ObjectOp} {operands : List Value} {rest : List Frame} :
    c.Performs (.object op) operands rest → op.Overwrites ref operands → Overwrites c ref
  | method {id : Identity} {d : Descriptor} {args : List Value} {r : MethodRoutine} :
    c.control = .call (.method id (.object ref) d) args → d.method.body = .native r →
      r.overwrites = true → Overwrites c ref

section

variable {s : Store} {ref place : Ref} {e : Edit}

theorem Writing.Touches.keepsFirst {w : Writing} {target : Value} {change : Change}
    (h : w.Touches s target change) (hnamed : w.isNamed = true) : change.KeepsFirst ref s := by
  obtain ⟨ref, cell, j, rfl, hcell, hdiffers, rfl⟩ := h
  rintro rfl
  refine hdiffers.keepsFirst fun hclosed heq => ?_
  rw [heq] at hcell
  exact Writing.cell?_ne_of_not_opens hnamed hclosed hcell

theorem ObjectOp.Changes.keepsFirst {op : ObjectOp} {operands : List Value} {c : Change}
    (h : op.Changes s operands c) (hop : ¬ op.Overwrites ref operands) : c.KeepsFirst ref s := by
  cases h with
  | setAttr h => exact (Writing.touches_of_setAttr h).keepsFirst rfl
  | delAttr h => exact (Writing.touches_of_delAttr h).keepsFirst rfl
  | memberSet | memberDelete =>
    rintro rfl
    exact absurd rfl hop

theorem Store.keepsFirst_next (s : Store) (hslot : (s.instanceAt ref).type.findSlot? (·.next) = none)
    (v : Value) : Yields (fun r => r.2.KeepsFirst ref s) (s.next v) := by
  unfold next
  split
  · exact .ok trivial
  · dsimp only
    split
    · exact .error _
    · rename_i t hlive
      obtain rfl := s.live_yields _ t hlive
      split
      · rename_i slot hfound
        split
        · refine .ok ?_
          -- The instance has no next slot, so the one that advances is another.
          rintro rfl
          rw [hslot] at hfound
          contradiction
        · exact .error _
      · exact .error _
  · exact .error _

theorem Op.Edits.keepsFirst {op : Op Code} {operands : List Value} (h : op.Edits s operands e)
    (hop : ∀ objectOp, op = .object objectOp → ¬ objectOp.Overwrites ref operands)
    (hslot : (s.instanceAt ref).type.findSlot? (·.next) = none) : e.KeepsFirst ref s := by
  obtain ⟨h⟩ := h
  cases h with
  | changes h => exact h.keepsFirst (hop _ rfl)
  | advance _ h => exact s.keepsFirst_next hslot _ _ h
  | push | put => exact trivial

theorem InstanceRoutine.keepsFirst_run {r : InstanceRoutine} (hr : place = ref → r.overwrites = false)
    (s : Store) (i : Instance) (a : Args) :
    Yields (fun r => r.2.KeepsFirst ref s) (r.run place i a) := by
  have hplace {Q : Prop} (hwrites : r.overwrites = true) (heq : place = ref) : Q := by
    rw [hr heq] at hwrites
    contradiction
  cases r with
  | receiver | info => exact .ok trivial
  | getInt | getObject =>
    exact .bind (.any _) fun _ _ => .bind (.any _) fun _ _ => .ok trivial
  | setInt =>
    exact .bind (.any _) fun _ _ => .bind (.any _) fun _ _ => .bind (.any _) fun _ _ => .ok (hplace rfl)
  | setObject => exact .bind (.any _) fun _ _ => .bind (.any _) fun _ _ => .ok (hplace rfl)

theorem Descriptor.Writes.keepsFirst {d : Descriptor} {receiver : Value} (h : d.Writes s receiver e)
    (hd : receiver = .object ref → ∀ r, d.method.body = .native r → r.overwrites = false) :
    e.KeepsFirst ref s := by
  obtain ⟨hbody, h⟩ := h
  cases h with
  | onInstance h =>
    exact InstanceRoutine.keepsFirst_run (fun heq => hd (congrArg _ heq) _ hbody) s _ _ _ h
  | incr h =>
    rintro rfl
    exact Sample.Box.keepsFirst_incr _ _ h
  | maybeIncr policy n faulted =>
    rintro rfl
    exact Sample.Box.keepsFirst_settle _ policy n faulted

theorem TypeObject.Initializes.keepsFirst {t : TypeObject} (h : t.Initializes place s e)
    (hne : place ≠ ref) : e.KeepsFirst ref s := by
  cases h with
  | method _ h => exact h.keepsFirst fun heq => absurd (Value.object.inj heq) hne
  | slot => exact fun heq => absurd heq hne

end

namespace Config

variable {c : Config} {s : Store} {ref : Ref} {e : Edit}

theorem Edits.keepsFirst (h : c.Edits s e) (hno : ¬ c.Overwrites ref)
    (hguarded : (c.session.host.store.instanceAt ref).type.Guarded)
    (htype : (s.instanceAt ref).type = (c.session.host.store.instanceAt ref).type) :
    e.KeepsFirst ref s := by
  -- A routine found on the instance's own type is one of the sample's.
  have hfound {name : String} {d : Descriptor} {place : Ref}
      (hd : (c.session.host.store.instanceAt place).type.findMethod? name = some d)
      (heq : Value.object place = .object ref) (r : MethodRoutine) (hbody : d.method.body = .native r) :
      r.overwrites = false := by
    obtain rfl := Value.object.inj heq
    exact MethodRoutine.overwrites_of_isSample (hguarded.sampleOnly name d hd r hbody)
  cases h with
  | operation hperforms h =>
    refine h.keepsFirst (fun objectOp heq hwrites => ?_) (htype ▸ hguarded.noNext)
    subst heq
    exact hno (.member hperforms hwrites)
  | length _ hd h | object _ hd h => exact h.keepsFirst (hfound hd)
  -- A bound method may come from anywhere, and `hno` excludes the foreign ones that overwrite.
  | method hcontrol h =>
    refine h.keepsFirst ?_
    rintro rfl r hbody
    exact Bool.eq_false_iff.2 fun hr => hno (.method hcontrol hbody hr)

/-- `advance` leaves the first field of a `Guarded` instance alone, unless it `Overwrites` this very
instance. -/
theorem keepsAt_advance (hguarded : (c.session.host.store.instanceAt ref).type.Guarded)
    (hno : ¬ c.Overwrites ref) : c.session.host.store.KeepsAt ref c.advance.session.host.store := by
  rcases c.edits_advance with hedited | ⟨t, args, -, hedited⟩
  · exact hedited.keepsAt fun s e he htype => he.keepsFirst hno hguarded htype
  · intro i hi
    -- What is made is another instance, and only this one is initialized.
    have hother : c.session.host.store.instances.size ≠ ref := Nat.ne_of_gt (Store.lt_size_of_get? hi)
    exact hedited.keepsAt (fun s e he _ => he.keepsFirst hother) i (Heap.get?_push_of_some hi _)

end Config

end ObjectProtocol
