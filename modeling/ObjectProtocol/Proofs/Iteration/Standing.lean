import ObjectProtocol.Proofs.Iteration.Taking

/-!
# Where iterators stand

Iterators are made at their beginning, by whoever makes them, and what moves them are advances.  So in
whatever scripts come to, an iterator stands where some number of advances have taken it: at 0, at a
position that its bound has let it come to, or past the end.
-/

namespace ObjectProtocol

/-- Every iterator is `At` some number of advances. -/
def Store.Advanced (s : Store) : Prop := ∀ ref, ∃ n, (s.iteratorAt ref).At n

/-- What is written to an iterator is that iterator after one more `advance`. -/
inductive Edit.Moves (s : Store) : Edit → Prop
  | spares {e : Edit} : e.SparesIterators → Moves s e
  | advance (ref : Ref) : Moves s (.change (.iterator ref (s.iteratorAt ref).advance.1))

namespace Store

variable {W : Store → Edit → Prop} {s s' : Store} {it : Iterator} {e : Edit}

theorem Advanced.of_eq (h : s.Advanced) (heq : s'.iterators = s.iterators) : s'.Advanced := by
  intro ref
  unfold iteratorAt
  rw [heq]
  exact h ref

theorem advanced_of_empty (nextId : Identity) : Advanced { nextId } := fun _ => ⟨0, Iterator.at_zero rfl⟩

theorem Advanced.newIterator (h : s.Advanced) (hit : it.cursor = .active 0) :
    (s.newIterator it).2.Advanced :=
  Heap.forall_push (Q := fun it : Iterator => ∃ n, it.At n) h ⟨0, Iterator.at_zero hit⟩

theorem Advanced.run (h : s.Advanced) (he : e.Moves s) : (e.run s).Advanced := by
  cases he with
  | spares hspares => exact h.of_eq (iterators_run hspares)
  | advance ref =>
    obtain ⟨n, hn⟩ := h ref
    exact Heap.forall_set (Q := fun it : Iterator => ∃ n, it.At n) h ⟨n + 1, hn.advance_eq.1⟩ ref

theorem EditedBy.advanced (hs : s.EditedBy W s') (hW : ∀ s e, W s e → e.Moves s) (h : s.Advanced) :
    s'.Advanced := by
  induction hs with
  | refl => exact h
  | identities _ _ ih | list _ _ ih | dict _ _ ih => exact ih.of_eq rfl
  | iterator _ hit ih => exact ih.newIterator hit
  | write _ he ih => exact ih.run (hW _ _ he)

theorem moves_next (s : Store) (v : Value) :
    Yields (fun r => (Edit.change r.2).Moves s) (s.next v) := by
  by_cases hiterator : ∃ ref, v = .iterator ref
  · obtain ⟨ref, rfl⟩ := hiterator
    exact .ok (.advance ref)
  · have hspares := s.spares_next (v := v) fun ref heq => hiterator ⟨ref, heq⟩
    exact fun r hr => .spares (hspares r hr)

end Store

/-! ## Runs -/

theorem Op.Edits.moves {op : Op Code} {operands : List Value} {s : Store} {e : Edit}
    (h : op.Edits s operands e) : e.Moves s := by
  obtain ⟨h⟩ := h
  cases h with
  | changes h => exact .spares h.sparesIterators
  | advance _ h => exact s.moves_next _ _ h
  | push | put => exact .spares trivial

theorem Session.advanced_equip {s : Session} (h : s.host.store.Advanced) (setup : Setup) :
    (s.equip setup).host.store.Advanced := by
  have hequip := (s.provided_equip setup).editedBy (W := fun _ _ => False)
  exact hequip.advanced (fun _ _ => False.elim) h

namespace Config

variable {c : Config}

theorem Edits.moves {s : Store} {e : Edit} (h : c.Edits s e) : e.Moves s := by
  cases h with
  | operation _ h => exact h.moves
  | length _ _ h | method _ h | object _ _ h => exact .spares h.sparesIterators

theorem advanced_advance (h : c.session.host.store.Advanced) : c.advance.session.host.store.Advanced := by
  rcases c.edits_advance with hedited | ⟨t, args, -, hedited⟩
  · exact hedited.advanced (fun _ _ he => he.moves) h
  · exact hedited.advanced (fun _ _ he => .spares he.sparesIterators) (h.of_eq rfl)

/-- In every `Reachable` configuration every iterator stands where advances have taken it. -/
theorem Reachable.advanced (h : c.Reachable) : c.session.host.store.Advanced := by
  induction h with
  | start setup e => exact Session.advanced_equip (Store.advanced_of_empty _) setup
  | @step c _ ih =>
    obtain ⟨released, hready⟩ := c.exists_store_ready
    have hadvanced : c.ready.session.host.store.Advanced := by
      rw [hready]
      exact ih.of_eq rfl
    rw [step_eq_advance]
    exact advanced_advance hadvanced
  | next e _ _ ih => exact ih
  | @restart c setup e _ _ ih =>
    obtain ⟨nextId, released, hrestart⟩ := c.session.exists_store_restart setup.options
    refine Session.advanced_equip ?_ setup
    rw [hrestart]
    exact ih.of_eq rfl

end Config

end ObjectProtocol
