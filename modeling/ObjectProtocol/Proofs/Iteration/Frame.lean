import ObjectProtocol.Proofs.Operations.Steps

/-!
# What leaves iterators alone

An iterator is a cell of the store, and only an advance writes to such a cell.  Slots, routines and
attributes write to instances, registrations hand out identities, and what is made is made in a place of
its own; so after any of them every iterator is where it was.
-/

namespace ObjectProtocol

namespace Store

def KeepsIterators (s s' : Store) : Prop :=
  ∀ ref it, s.iterators.get? ref = some it → s'.iterators.get? ref = some it

variable {s s' s'' : Store}

theorem KeepsIterators.of_eq (h : s'.iterators = s.iterators) : s.KeepsIterators s' := by
  intro ref it hit
  rw [h]
  exact hit

theorem KeepsIterators.refl (s : Store) : s.KeepsIterators s := .of_eq rfl

theorem KeepsIterators.trans (h : s.KeepsIterators s') (h' : s'.KeepsIterators s'') :
    s.KeepsIterators s'' := fun ref it hit => h' ref it (h ref it hit)

theorem lt_size_of_iterator {ref : Ref} {it : Iterator} (h : s.iterators.get? ref = some it) :
    ref < s.iterators.size := (Array.getElem?_eq_some_iff.1 h).1

theorem iteratorAt_eq {ref : Ref} {it : Iterator} (h : s.iterators.get? ref = some it) :
    s.iteratorAt ref = it := by
  rw [iteratorAt, h, Option.getD_some]

end Store

/-! ## Edits -/

/-- `Store.apply` leaves the iterators as they are. -/
def Change.SparesIterators : Change → Prop
  | .nothing | .object .. => True
  | .iterator .. => False

def Edit.SparesIterators : Edit → Prop
  | change c => c.SparesIterators
  | append .. | put .. => True

namespace Store

variable {W : Store → Edit → Prop} {s s' : Store} {ref : Ref}

theorem iterators_apply {c : Change} (h : c.SparesIterators) :
    (s.apply c).iterators = s.iterators := by
  cases c with
  | nothing | object => rfl
  | iterator => exact h.elim

theorem iterators_run {e : Edit} (h : e.SparesIterators) : (e.run s).iterators = s.iterators := by
  cases e with
  | change c => exact iterators_apply h
  | append | put => rfl

theorem EditedBy.keepsIterators (h : s.EditedBy W s') (hW : ∀ s e, W s e → e.SparesIterators) :
    s.KeepsIterators s' := by
  induction h with
  | refl => exact .refl s
  | identities _ _ ih | list _ _ ih | dict _ _ ih => exact ih
  | @iterator s' it _ _ ih => exact ih.trans fun _ _ hit => Heap.get?_push_of_some hit it
  | write _ he ih => exact ih.trans (.of_eq (iterators_run (hW _ _ he)))

end Store

namespace Sketch

variable {sketch : Sketch} {s : Store}

theorem Fresh.keepsIterators_build (h : sketch.Fresh) (s : Store) :
    s.KeepsIterators (sketch.build s).2 :=
  (h.editedBy (W := fun _ _ => False) s).keepsIterators fun _ _ => False.elim

theorem eq_given_of_build {ref : Ref} (h : (sketch.build s).1 = .iterator ref)
    (hlt : ref < s.iterators.size) : sketch = .given (.iterator ref) := by
  cases sketch with
  | given v => exact congrArg given h
  | iterator it =>
    have hnew : s.iterators.size = ref := Value.iterator.inj h
    exact absurd hnew (Nat.ne_of_gt hlt)
  | characters t source =>
    have hnew : s.iterators.size = ref := Value.iterator.inj h
    exact absurd hnew (Nat.ne_of_gt hlt)
  | text | tuple | dict | tupleOf | listOf | method =>
    unfold build at h
    cases h

end Sketch

/-! ## Who writes to no iterator -/

section

variable {s : Store} {e : Edit}

namespace Store

theorem spares_setAttr (s : Store) (target : Value) (name : String) (v : Value) :
    Yields Change.SparesIterators (s.setAttr target name v) := by
  unfold setAttr
  split
  · dsimp only
    split
    · exact .error _
    · split
      · exact .mapError (.map fun _ _ => trivial)
      · split
        · exact .error _
        · split
          · exact .ok trivial
          · exact .error _
  · exact .error _

theorem spares_delAttr (s : Store) (target : Value) (name : String) :
    Yields Change.SparesIterators (s.delAttr target name) := by
  unfold delAttr
  split
  · dsimp only
    split
    · exact .error _
    · split
      · exact .mapError (.map fun _ _ => trivial)
      · split
        · exact .ok trivial
        · exact .error _
  · exact .error _

theorem spares_next (s : Store) {v : Value} (hv : ∀ ref, v ≠ .iterator ref) :
    Yields (fun r => r.2.SparesIterators) (s.next v) := by
  unfold next
  split
  · exact absurd rfl (hv _)
  · dsimp only
    split
    · exact .error _
    · split
      · split
        · exact .ok trivial
        · exact .error _
      · exact .error _
  · exact .error _

end Store

theorem ObjectOp.Changes.sparesIterators {op : ObjectOp} {operands : List Value} {c : Change}
    (h : op.Changes s operands c) : c.SparesIterators := by
  cases h with
  | setAttr h => exact s.spares_setAttr _ _ _ _ h
  | delAttr h => exact s.spares_delAttr _ _ _ h
  | memberSet | memberDelete => exact trivial

theorem ObjectOp.Edits.sparesIterators {op : ObjectOp} {operands : List Value}
    (hop : op.isAdvance = false) (h : op.Edits s operands e) : e.SparesIterators := by
  cases h with
  | changes h => exact h.sparesIterators
  | advance hadvance => exact absurd (hadvance.symm.trans hop) Bool.true_eq_false.mp
  | push | put => exact trivial

theorem InstanceRoutine.spares_run (r : InstanceRoutine) (ref : Ref) (i : Instance) (a : Args) :
    Yields (fun r => r.2.SparesIterators) (r.run ref i a) := by
  cases r with
  | receiver | info => exact .ok trivial
  | getInt | getObject =>
    exact .bind (.any _) fun _ _ => .bind (.any _) fun _ _ => .ok trivial
  | setInt =>
    exact .bind (.any _) fun _ _ => .bind (.any _) fun _ _ => .bind (.any _) fun _ _ => .ok trivial
  | setObject => exact .bind (.any _) fun _ _ => .bind (.any _) fun _ _ => .ok trivial

theorem Descriptor.Writes.sparesIterators {d : Descriptor} {receiver : Value}
    (h : d.Writes s receiver e) : e.SparesIterators := by
  obtain ⟨-, h⟩ := h
  cases h with
  | @onInstance r a answer h => exact r.spares_run _ _ a answer h
  | incr | maybeIncr => exact trivial

theorem TypeObject.Initializes.sparesIterators {t : TypeObject} {ref : Ref}
    (h : t.Initializes ref s e) : e.SparesIterators := by
  cases h with
  | method _ h => exact h.sparesIterators
  | slot => exact trivial

theorem Config.Edits.sparesIterators {c : Config} (hnone : ∀ op operands rest, ¬ c.Performs op operands rest)
    (h : c.Edits s e) : e.SparesIterators := by
  cases h with
  | operation hperforms _ | length hperforms _ _ => exact absurd hperforms (hnone _ _ _)
  | method _ h | object _ _ h => exact h.sparesIterators

end

/-! ## Steps and restarts -/

theorem Op.keepsIterators_run {op : Op Code} (hop : ∀ objectOp, op ≠ .object objectOp)
    (operands : List Value) (s : Session) :
    s.host.store.KeepsIterators (op.run operands s).2.host.store := by
  refine (op.editedBy_run operands s).keepsIterators fun _ _ hedits => ?_
  cases hedits
  exact absurd rfl (hop _)

theorem Session.keepsIterators_restart (s : Session) (setup : Setup) :
    s.host.store.KeepsIterators ((s.restart setup.options).equip setup).host.store := by
  obtain ⟨nextId, released, hrestart⟩ := s.exists_store_restart setup.options
  have hequip := ((s.restart setup.options).provided_equip setup).editedBy (W := fun _ _ => False)
  have hkeeps := hequip.keepsIterators fun _ _ => False.elim
  rw [hrestart] at hkeeps
  exact hkeeps

namespace Config

theorem keepsIterators_ready (c : Config) :
    c.session.host.store.KeepsIterators c.ready.session.host.store := by
  obtain ⟨released, hready⟩ := c.exists_store_ready
  rw [hready]
  exact .of_eq rfl

/-- An `advance` that runs no operation leaves the iterators alone. -/
theorem keepsIterators_advance {c : Config} (h : ∀ op operands rest, ¬ c.Performs op operands rest) :
    c.session.host.store.KeepsIterators c.advance.session.host.store := by
  rcases c.edits_advance with hedited | ⟨t, args, -, hedited⟩
  · exact hedited.keepsIterators fun s e he => he.sparesIterators h
  · have hnew : c.session.host.store.KeepsIterators
        (c.session.host.store.newInstance (.alloc t)).2 := .of_eq rfl
    exact hnew.trans (hedited.keepsIterators fun s e he => he.sparesIterators)

end Config

end ObjectProtocol
