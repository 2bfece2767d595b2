import ObjectProtocol.Proofs.Iteration.Fresh
import ObjectProtocol.Proofs.Registering

/-!
# What becomes of a store

Operations, native routines and calls hand out identities, make objects beside those that are there, and
write to single cells.  `Store.EditedBy` is a row of such edits, with the writes that are allowed as a
parameter; `ObjectOp.Edits` lists those of operations on objects.  A property of stores that making things
keeps is then looked at once for each kind of write.
-/

namespace ObjectProtocol

inductive Edit
  | change (c : Change)
  /-- An item is appended to a list. -/
  | append (ref : Ref) (v : Value)
  /-- A dictionary gets other content. -/
  | put (ref : Ref) (m : Mapping)

def Edit.run (e : Edit) (s : Store) : Store :=
  match e with
  | change c => s.apply c
  | append ref v => s.appendItem ref v
  | put ref m => s.setDict ref m

/-- What the store becomes when things are made in it, and every `Edit` of it satisfies `W`. -/
inductive Store.EditedBy (W : Store → Edit → Prop) (s : Store) : Store → Prop
  | refl : EditedBy W s s
  | identities {s' : Store} {id : Identity} : EditedBy W s s' → s'.nextId ≤ id →
    EditedBy W s { s' with nextId := id }
  | list {s' : Store} (items : Array Value) : EditedBy W s s' → EditedBy W s (s'.newList items).2
  | dict {s' : Store} (m : Mapping) : EditedBy W s s' → EditedBy W s (s'.newDict m).2
  | iterator {s' : Store} {it : Iterator} : EditedBy W s s' → it.cursor = .active 0 →
    EditedBy W s (s'.newIterator it).2
  | write {s' : Store} {e : Edit} : EditedBy W s s' → W s' e → EditedBy W s (e.run s')

variable {W W' : Store → Edit → Prop}

namespace Store

variable {s s' s'' : Store}

theorem EditedBy.trans (h : s.EditedBy W s') (h' : s'.EditedBy W s'') : s.EditedBy W s'' := by
  induction h' with
  | refl => exact h
  | identities _ hid ih => exact ih.identities hid
  | list items _ ih => exact ih.list items
  | dict m _ ih => exact ih.dict m
  | iterator _ hit ih => exact ih.iterator hit
  | write _ he ih => exact ih.write he

theorem EditedBy.mono (h : s.EditedBy W s') (hW : ∀ s e, W s e → W' s e) : s.EditedBy W' s' := by
  induction h with
  | refl => exact .refl
  | identities _ hid ih => exact ih.identities hid
  | list items _ ih => exact ih.list items
  | dict m _ ih => exact ih.dict m
  | iterator _ hit ih => exact ih.iterator hit
  | write _ he ih => exact ih.write (hW _ _ he)

theorem EditedBy.of_nextId {id : Identity} (h : s.nextId ≤ id) :
    s.EditedBy W { s with nextId := id } := .identities .refl h

theorem EditedBy.fresh (h : s.EditedBy W s') :
    s.EditedBy W { s' with nextId := s'.nextId + 1 } := h.identities (Nat.le_succ _)

theorem EditedBy.change {c : Change} (h : W s (.change c)) : s.EditedBy W (s.apply c) :=
  .write .refl h

/-- No `Edit` releases a type. -/
theorem EditedBy.released_eq (h : s.EditedBy W s') : s'.released = s.released := by
  induction h with
  | refl => rfl
  | identities _ _ ih | list _ _ ih | dict _ _ ih | iterator _ _ ih => exact ih
  | @write _ e _ _ ih =>
    rw [← ih]
    cases e with
    | change c => exact released_apply _ c
    | append | put => rfl

theorem EditedBy.size_eq (h : s.EditedBy W s') : s'.instances.size = s.instances.size := by
  induction h with
  | refl => rfl
  | identities _ _ ih | list _ _ ih | dict _ _ ih | iterator _ _ ih => exact ih
  | @write s' e _ _ ih =>
    cases e with
    | change c =>
      cases c with
      | object place i => exact (Heap.size_set s'.instances place i).trans ih
      | nothing | iterator => exact ih
    | append | put => exact ih

theorem EditedBy.instances_eq (h : s.EditedBy W s')
    (hW : ∀ s e, W s e → (e.run s).instances = s.instances) : s'.instances = s.instances := by
  induction h with
  | refl => rfl
  | identities _ _ ih | list _ _ ih | dict _ _ ih | iterator _ _ ih => exact ih
  | write _ he ih => exact (hW _ _ he).trans ih

end Store

/-! ## Sketches -/

namespace Sketch

variable {s s' : Store}

theorem editedBy_buildAll {items : List Sketch}
    (hitems : ∀ item ∈ items, ∀ s : Store, s.EditedBy W (item.build s).2) (s : Store) :
    s.EditedBy W (buildAll items s).2 := by
  induction items generalizing s with
  | nil => exact .refl
  | cons item rest ih =>
    unfold buildAll
    exact (hitems item List.mem_cons_self s).trans
      (ih (fun item hitem => hitems item (List.mem_cons_of_mem _ hitem)) _)

theorem editedBy_buildEntries {entries : List (String × Sketch)}
    (hentries : ∀ entry ∈ entries, ∀ s : Store, s.EditedBy W (entry.2.build s).2) (m : Mapping)
    (s : Store) : s.EditedBy W (buildEntries entries m s).2 := by
  induction entries generalizing m s with
  | nil => exact .refl
  | cons entry rest ih =>
    obtain ⟨name, value⟩ := entry
    unfold buildEntries
    have hkey : s.EditedBy W (s.newText name).2 := Store.EditedBy.refl.fresh
    exact (hkey.trans (hentries (name, value) List.mem_cons_self _)).trans
      (ih (fun entry hentry => hentries entry (List.mem_cons_of_mem _ hentry)) _ _)

theorem Fresh.editedBy {sketch : Sketch} (hsketch : sketch.Fresh) (s : Store) :
    s.EditedBy W (sketch.build s).2 := by
  induction hsketch generalizing s with
  | given => unfold Sketch.build; exact .refl
  | text | tupleOf | method => unfold Sketch.build; exact Store.EditedBy.refl.fresh
  | listOf items => unfold Sketch.build; exact .list items .refl
  | tuple _ ih =>
    unfold Sketch.build
    exact (editedBy_buildAll ih s).fresh
  | dict _ ih =>
    unfold Sketch.build
    exact (editedBy_buildEntries ih {} s).dict _
  | iterator hit => unfold Sketch.build; exact .iterator .refl hit
  | characters t text =>
    unfold Sketch.build
    have hcharacters : s.EditedBy W (s.newCharacters text).2 := .of_nextId (Nat.le_add_right _ _)
    exact hcharacters.iterator rfl

end Sketch

namespace Store

theorem editedBy_drain {iterator : Value}
    (hW : ∀ s r, s.next iterator = .ok r → W s (.change r.2)) (s : Store) (taken : Array Value)
    (n : Nat) : s.EditedBy W (s.drain iterator taken n).2 := by
  induction n generalizing s taken with
  | zero => exact .refl
  | succ n ih =>
    unfold drain
    split
    · exact .refl
    · exact .change (hW s _ ‹_›)
    · exact .trans (.change (hW s _ ‹_›)) (ih _ _)

/-- `collect` makes what it walks along, if it is not there, and advances it. -/
theorem editedBy_collect {rt : Runtime} {v : Value} {s : Store}
    (hW : ∀ sketch, s.iter rt v = .ok sketch → ∀ s' r,
      s'.next (sketch.build s).1 = .ok r → W s' (.change r.2)) :
    s.EditedBy W (s.collect rt v).2 := by
  unfold collect
  split
  · exact .refl
  · rename_i sketch hsketch
    exact ((s.fresh_iterWithin rt _ v sketch hsketch).editedBy s).trans
      (editedBy_drain (hW sketch hsketch) _ _ _)

end Store

/-! ## Operations on objects -/

namespace ObjectOp

def isAdvance : ObjectOp → Bool
  | next | nextOrRaise | collect => true
  | _ => false

/-- What `ObjectOp.run` writes to objects that exist. -/
inductive Edits (s : Store) : ObjectOp → List Value → Edit → Prop
  | changes {op : ObjectOp} {operands : List Value} {c : Change} : op.Changes s operands c →
    Edits s op operands (.change c)
  | advance {op : ObjectOp} {operands : List Value} {v : Value} {r : Option Value × Change} :
    op.isAdvance = true → s.next v = .ok r → Edits s op operands (.change r.2)
  | push {ref : Ref} {v : Value} : Edits s push [.list ref, v] (.append ref v)
  | put {ref : Ref} {key v : Value} {m : Mapping} : Edits s put [.dict ref, key, v] (.put ref m)

theorem editedBy_run (op : ObjectOp) (operands : List Value) (rt : Runtime) (s : Store) :
    s.EditedBy (fun s e => op.Edits s operands e) (op.run operands rt s).2 := by
  have hran := op.ran_run operands rt s
  generalize op.run operands rt s = answer at hran
  cases hran with
  | malformed | reads | refuses | call | measure => exact .refl
  | makes hmakes => exact hmakes.fresh.editedBy s
  | changes hchanges => exact .change (.changes hchanges)
  | callMethod hsketch => exact (s.fresh_getAttr _ _ _ hsketch).editedBy s
  -- The iterator advances, and the tuple around the value is new.
  | @next v w c hnext =>
    have hadvance : s.EditedBy (fun s e => next.Edits s [v] e) (s.apply c) :=
      .change (.advance rfl hnext)
    exact hadvance.fresh
  | nextEnd hnext => exact .change (.advance rfl hnext)
  | nextOrRaise hnext => exact .change (.advance rfl hnext)
  | nextOrRaiseEnd hnext => exact .change (.advance rfl hnext)
  | @collect v items s' heq =>
    have hcollect : s.EditedBy (fun s e => collect.Edits s [v] e) (s.collect rt v).2 :=
      Store.editedBy_collect fun _ _ _ _ hnext => .advance rfl hnext
    rw [heq] at hcollect
    exact hcollect.list items
  -- The advances made before the failure stay made.
  | @collectEnd v e s' heq =>
    have hcollect : s.EditedBy (fun s e => collect.Edits s [v] e) (s.collect rt v).2 :=
      Store.editedBy_collect fun _ _ _ _ hnext => .advance rfl hnext
    rw [heq] at hcollect
    exact hcollect
  | push => exact .write (e := .append _ _) .refl .push
  | put => exact .write (e := .put _ _) .refl .put

end ObjectOp

end ObjectProtocol
