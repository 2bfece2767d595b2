import ObjectProtocol.Proofs.Sequences.Reading

/-!
# Pushing

A push adds one value at the end of one list, and nothing else writes to a list.  So a list always holds
what it held at an earlier time and, after that, what has been pushed to it since; what happens to other
lists is not seen in it, even if one of them was made from it.
-/

namespace ObjectProtocol

def Store.KeepsLists (s s' : Store) : Prop :=
  ∀ ref items, s.lists.get? ref = some items → s'.lists.get? ref = some items

namespace Store

variable {s s' s'' : Store}

theorem KeepsLists.of_eq (h : s'.lists = s.lists) : s.KeepsLists s' := fun _ _ hat => h ▸ hat

theorem KeepsLists.refl (s : Store) : s.KeepsLists s := .of_eq rfl

theorem KeepsLists.trans (h : s.KeepsLists s') (h' : s'.KeepsLists s'') : s.KeepsLists s'' :=
  fun ref items hat => h' ref items (h ref items hat)

theorem EditedBy.keepsLists {W : Store → Edit → Prop} (h : s.EditedBy W s')
    (hW : ∀ s e, W s e → ∀ ref v, e ≠ .append ref v) : s.KeepsLists s' := by
  induction h with
  | refl => exact .refl s
  | identities _ _ ih | dict _ _ ih | iterator _ _ ih => exact ih.trans (.of_eq rfl)
  | list items _ ih => exact ih.trans fun _ _ hat => Heap.get?_push_of_some hat items
  | @write s' e _ he ih =>
    cases e with
    | change c => exact ih.trans (.of_eq (s'.lists_apply c))
    | append ref v => exact absurd rfl (hW s' _ he ref v)
    | put ref m => exact ih.trans (.of_eq rfl)

end Store

/-! ## Who appends to a list -/

section

variable {s : Store} {e : Edit}

theorem Op.Edits.ne_append {op : Op Code} {operands : List Value} (hop : op ≠ .object .push)
    (h : op.Edits s operands e) (ref : Ref) (v : Value) : e ≠ .append ref v := by
  rintro rfl
  obtain ⟨h⟩ := h
  cases h
  exact hop rfl

theorem Descriptor.Writes.ne_append {d : Descriptor} {receiver : Value} (h : d.Writes s receiver e)
    (ref : Ref) (v : Value) : e ≠ .append ref v := by
  rintro rfl
  cases h

theorem TypeObject.Initializes.ne_append {t : TypeObject} {place : Ref} (h : t.Initializes place s e)
    (ref : Ref) (v : Value) : e ≠ .append ref v := by
  cases h with
  | method _ h => exact h.ne_append ref v
  | slot => exact nofun

theorem Config.Edits.ne_append {c : Config} (hnone : ∀ op operands rest, ¬ c.Performs op operands rest)
    (h : c.Edits s e) (ref : Ref) (v : Value) : e ≠ .append ref v := by
  cases h with
  | operation hperforms _ | length hperforms _ _ => exact absurd hperforms (hnone _ _ _)
  | method _ h | object _ _ h => exact h.ne_append ref v

end

theorem Op.keepsLists_run {op : Op Code} (hop : op ≠ .object .push) (operands : List Value)
    (s : Session) : s.host.store.KeepsLists (op.run operands s).2.host.store :=
  (op.editedBy_run operands s).keepsLists fun _ _ h => h.ne_append hop

theorem ObjectOp.run_push_of_ne {operands : List Value} (h : ∀ ref v, operands ≠ [.list ref, v])
    (rt : Runtime) (s : Store) : push.run operands rt s = (.malformed, s) := by
  unfold run
  split <;> first | contradiction | exact absurd rfl (h _ _) | rfl

/-! ## What is pushed -/

/-- What the operation pushes to the list at `ref`. -/
def Event.pushed (ref : Ref) : Event → List Value
  | operation (.object .push) [.list other, v] _ => if other = ref then [v] else []
  | _ => []

namespace Store

variable {s s' : Store} {ref : Ref} {items : Array Value}

theorem listAt_eq (hat : s.lists.get? ref = some items) : s.listAt ref = items := by
  rw [listAt, hat, Option.getD_some]

theorem get?_lists_of_lt (h : ref < s.lists.size) : s.lists.get? ref = some (s.listAt ref) := by
  rw [listAt, Heap.get?, Array.getElem?_eq_getElem h, Option.getD_some]

theorem KeepsLists.get?_append_nil (h : s.KeepsLists s') (hat : s.lists.get? ref = some items) :
    s'.lists.get? ref = some (items ++ [].toArray) := by
  rw [Array.append_empty]
  exact h ref items hat

end Store

/-- `Op.run` adds to a list what it pushes to it. -/
theorem Op.get?_lists_run (op : Op Code) (operands : List Value) {s : Session} {ref : Ref}
    {items : Array Value} (hat : s.host.store.lists.get? ref = some items) :
    (op.run operands s).2.host.store.lists.get? ref =
      some (items ++ ((Event.operation op operands s).pushed ref).toArray) := by
  unfold Event.pushed
  split
  · rename_i other v _ hevent
    obtain ⟨rfl, rfl, rfl⟩ := Event.operation.inj hevent
    show (s.host.store.lists.modify other (·.push v)).get? ref = _
    rw [Heap.get?_modify, hat]
    split
    · rw [Array.append_singleton]
      rfl
    · rw [Array.append_empty]
  · -- Any other operation, and a push to something that is not a list, keeps the lists.
    rename_i hevent
    refine Store.KeepsLists.get?_append_nil ?_ hat
    by_cases hop : op = .object .push
    · subst hop
      refine .of_eq (congrArg (·.2.lists) (ObjectOp.run_push_of_ne ?_ s.host.runtime s.host.store))
      rintro other v rfl
      exact hevent other v s rfl
    · exact keepsLists_run hop operands s

/-! ## Steps and histories -/

theorem Session.keepsLists_restart (s : Session) (setup : Setup) :
    s.host.store.KeepsLists ((s.restart setup.options).equip setup).host.store := by
  obtain ⟨nextId, released, hrestart⟩ := s.exists_store_restart setup.options
  have hequip := ((s.restart setup.options).provided_equip setup).editedBy (W := fun _ _ => False)
  have hkeeps := hequip.keepsLists fun _ _ => False.elim
  rw [hrestart] at hkeeps
  exact hkeeps

namespace Config

variable {c c' : Config} {ref : Ref} {items : Array Value}

theorem keepsLists_advance (h : ∀ op operands rest, ¬ c.Performs op operands rest) :
    c.session.host.store.KeepsLists c.advance.session.host.store := by
  rcases c.edits_advance with hedited | ⟨t, args, -, hedited⟩
  · exact hedited.keepsLists fun _ _ he => he.ne_append h
  · have hnew : c.session.host.store.KeepsLists (c.session.host.store.newInstance (.alloc t)).2 :=
      .of_eq rfl
    exact hnew.trans (hedited.keepsLists fun _ _ he => he.ne_append)

theorem get?_lists_step (hat : c.session.host.store.lists.get? ref = some items) :
    c.step.session.host.store.lists.get? ref =
      some (items ++ (c.event?.toList.flatMap (Event.pushed ref)).toArray) := by
  obtain ⟨released, hstore⟩ := c.exists_store_ready
  have hready : c.ready.session.host.store.lists.get? ref = some items := hstore ▸ hat
  rw [step_eq_advance]
  rcases c.event?_cases with ⟨op, operands, rest, hperforms, hevent⟩ | ⟨hnone, hevent⟩
  · have hrun := op.get?_lists_run operands hready
    rw [hevent, Option.toList_some, List.flatMap_singleton]
    rcases hperforms.session_advance with heq | ⟨t, d, receiver, -, heq⟩
    · rw [heq]
      exact hrun
    · -- A method that the operation falls back on may write, but appends to no list.
      have hmethod := Host.editedBy_runMethod (op.run operands c.ready.session).2.host d receiver []
      rw [heq]
      exact hmethod.keepsLists (fun _ _ hwrites => hwrites.ne_append) ref _ hrun
  · rw [hevent]
    exact (keepsLists_advance hnone).get?_append_nil hready

/-- A list holds what it held, and then what was `pushed` to it, in order. -/
theorem History.get?_lists {events : List Event} (h : c.History events c')
    (hat : c.session.host.store.lists.get? ref = some items) :
    c'.session.host.store.lists.get? ref =
      some (items ++ (events.flatMap (Event.pushed ref)).toArray) := by
  induction h with
  | refl => exact (Store.KeepsLists.refl _).get?_append_nil hat
  | step _ ih =>
    rw [get?_lists_step ih, List.flatMap_append, Array.append_assoc, ← List.append_toArray]
  | next e _ _ ih => exact ih
  | @restart events c' setup e _ _ ih =>
    have hkept := c'.session.keepsLists_restart setup ref _ ih
    rw [List.flatMap_append, List.flatMap_singleton]
    show _ = some (items ++ (_ ++ []).toArray)
    rw [List.append_nil]
    exact hkept

end Config

end ObjectProtocol
