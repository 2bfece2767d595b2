import ObjectProtocol.Proofs.Operations.Answers
import ObjectProtocol.Proofs.Provenance.Attributes

/-!
# Operations on objects

Operations on objects stay within what they work on: what they answer, make and change holds only
types that were there before, bases of such types, and types of the runtime.
-/

namespace ObjectProtocol

variable {P : Realm}

structure Runtime.Within (P : Realm) (rt : Runtime) : Prop where
  builtin : ∀ b, P.type (rt.builtin b)
  registered : ∀ t ∈ rt.registry.log, P.type t

namespace Runtime

variable {rt : Runtime}

theorem Within.named? (h : rt.Within P) {name : String} {t : TypeObject}
    (ht : rt.registry.named? name = some t) : P.type t :=
  h.registered t (List.mem_of_find?_eq_some ht)

theorem Within.typeOf (h : rt.Within P) {s : Store} (hs : s.Within P) (v : Value) :
    Yields P.type (rt.typeOf s v) := by
  have hlive {t : TypeObject} (ht : P.type t) : Yields P.type (s.live t) := by
    intro t' heq
    rw [s.live_yields t t' heq]
    exact ht
  cases v with
  -- Only these have types that can be released.
  | object ref => exact hlive (hs.instances ref).type
  | iterator ref => exact hlive (hs.iterators ref).type
  | _ => exact .ok (h.builtin _)

end Runtime

/-! ## Sequences -/

section Sequences

variable {s : Store} {rt : Runtime} {i : Instance}

theorem IterSlot.within_run (slot : IterSlot) (hrt : rt.Within P) (h : i.Within P)
    {inside : Value → Except Exception Sketch}
    (hinside : ∀ v : Value, v.Within P → Yields (Sketch.Within P) (inside v)) :
    Yields (Sketch.Within P) (slot.run rt i inside) := by
  cases slot with
  | positions =>
    refine .mapError (.bind (.any _) fun bound _ => ?_)
    exact .ok (.iterator (Iterator.within_positions (hrt.builtin _) bound))
  | ofObject =>
    refine .bind (.mapError (h.readObject 0)) fun content hcontent => ?_
    exact .mapError (hinside _ (Value.within_getD_null hcontent))
  | rawObject =>
    refine .mapError (.bind (h.readObject 0) fun content hcontent => ?_)
    exact .ok (.given (Value.within_getD_null hcontent))
  -- The type is looked up by name, so it may be any registered one of that name.
  | counter =>
    refine .mapError ?_
    split
    · exact .error _
    · rename_i t ht
      refine .bind (.any _) fun bound _ => ?_
      exact .ok (.iterator (Iterator.within_positions (hrt.named? ht) bound))

theorem NextSlot.within_run (slot : NextSlot) (h : i.Within P) :
    Yields (fun r => (∀ v, r.1 = some v → v.Within P) ∧ r.2.Within P) (slot.run i) := by
  cases slot with
  | countdown =>
    refine .bind (.any _) fun n _ => ?_
    split
    · refine .bind (h.write 0 (Field.within_int _)) fun j hj => ?_
      refine .ok ⟨fun v hv => ?_, hj⟩
      cases hv
      exact Value.within_ofNative n
    · exact .ok ⟨fun v hv => by contradiction, h⟩
  | exhausted => exact .error _
  | drained => exact .error _

namespace Store

theorem within_iterItems (hrt : rt.Within P) {items : Array Value}
    (hitems : ∀ v ∈ items, v.Within P) : (iterItems rt items).Within P :=
  .iterator (Iterator.within_items (hrt.builtin _) hitems)

theorem Within.iterWithin (h : s.Within P) (hrt : rt.Within P) (n : Nat) {v : Value}
    (hv : v.Within P) : Yields (Sketch.Within P) (s.iterWithin rt n v) := by
  induction n using Nat.strongRecOn generalizing v with
  | ind n ih =>
    unfold Store.iterWithin
    split
    · exact .ok (.given hv)
    -- Tuples, lists, dictionaries and text
    · exact .ok (within_iterItems hrt hv.of_tuple)
    · exact .ok (within_iterItems hrt (h.lists _))
    · exact .ok (within_iterItems hrt (h.dicts _).keys)
    · exact .ok (.characters _ (hrt.builtin _))
    -- An instance may hand on to what it holds, which costs one of the `n` levels.
    · rename_i ref
      dsimp only
      split
      · exact .error _
      · split
        · rename_i slot _
          refine .mapError (slot.within_run hrt (h.instances ref) fun inner hinner => ?_)
          split
          · exact .error _
          · exact ih _ (Nat.lt_succ_self _) hinner
        · split
          · exact .ok (.given hv)
          · exact .error _
    · exact .error _

theorem Within.iter (h : s.Within P) (hrt : rt.Within P) {v : Value} (hv : v.Within P) :
    Yields (Sketch.Within P) (s.iter rt v) := h.iterWithin hrt _ hv

theorem Within.next (h : s.Within P) (v : Value) :
    Yields (fun r => (∀ w, r.1 = some w → w.Within P) ∧ r.2.Within P) (s.next v) := by
  unfold Store.next
  split
  · rename_i ref
    -- An iterator yields what it holds.
    obtain ⟨hit, hyield⟩ := (h.iterators ref).advance
    exact .ok ⟨hyield, hit⟩
  · rename_i ref
    have hi := h.instances ref
    dsimp only
    split
    · exact .error _
    · split
      · rename_i slot _
        split
        · rename_i yielded j hrun
          -- A slot yields from the instance it runs on.
          exact .ok (slot.within_run hi _ hrun)
        · exact .error _
      · exact .error _
  · exact .error _

theorem Within.drain (h : s.Within P) (iterator : Value) {taken : Array Value}
    (htaken : ∀ v ∈ taken, v.Within P) (n : Nat) :
    Yields (fun items => ∀ v ∈ items, v.Within P) (s.drain iterator taken n).1 ∧
      (s.drain iterator taken n).2.Within P := by
  induction n generalizing s taken with
  | zero => exact ⟨.ok htaken, h⟩
  | succ n ih =>
    -- Each advance changes the store in which the next one is made.
    unfold Store.drain
    split
    · exact ⟨.error _, h⟩
    · rename_i change hnext
      exact ⟨.ok htaken, h.apply (h.next iterator _ hnext).2⟩
    · rename_i v change hnext
      obtain ⟨hv, hchange⟩ := h.next iterator _ hnext
      refine ih (h.apply hchange) ?_
      intro w hw
      rcases Array.mem_push.1 hw with hw | rfl
      · exact htaken w hw
      · exact hv w rfl

theorem within_itemAt (s : Store) {items : Array Value} (hitems : ∀ v ∈ items, v.Within P)
    (key : Value) (kind : String) : Yields (Value.Within P) (s.itemAt items key kind) := by
  have hitem {position : Int} {v : Value}
      (hv : (if position < 0 then none else items[position.toNat]?) = some v) : v.Within P := by
    split at hv
    · contradiction
    · exact hitems v (Array.mem_of_getElem? hv)
  unfold Store.itemAt
  split
  · exact .error _
  · dsimp only
    split
    · rename_i v hv
      exact .ok (hitem hv)
    · exact .error _

theorem Within.getItem (h : s.Within P) {container : Value} (hc : container.Within P)
    (key : Value) : Yields (Value.Within P) (s.getItem container key) := by
  unfold Store.getItem
  split
  · exact within_itemAt s hc.of_tuple key _
  · exact within_itemAt s (h.lists _) key _
  · split
    · rename_i v hv
      exact .ok ((h.dicts _).of_get? hv)
    · exact .error _
  · exact .error _

theorem Within.add (h : s.Within P) {v w : Value} (hv : v.Within P) (hw : w.Within P) :
    Yields (Sketch.Within P) (s.add v w) := by
  have happend {xs ys : Array Value} (hxs : ∀ u ∈ xs, u.Within P) (hys : ∀ u ∈ ys, u.Within P) :
      ∀ u ∈ xs ++ ys, u.Within P := by
    intro u hu
    exact (Array.mem_append.1 hu).elim (hxs u) (hys u)
  unfold Store.add
  split
  · split
    · exact .ok (.given (.plain rfl))
    · exact .error _
  · split
    · exact .ok (.given (.plain rfl))
    · split
      · exact .ok (.given (.plain rfl))
      · exact .error _
    · split
      · exact .ok (.given (.plain rfl))
      · exact .error _
    · exact .ok (.text _)
    · exact .ok (.tupleOf (happend hv.of_tuple hw.of_tuple))
    · -- Two lists: the items are those of the store, not of the operands.
      exact .ok (.listOf (happend (h.lists _) (h.lists _)))
    · exact .error _

theorem Within.collect (h : s.Within P) (hrt : rt.Within P) {v : Value} (hv : v.Within P) :
    Yields (fun items => ∀ v ∈ items, v.Within P) (s.collect rt v).1 ∧
      (s.collect rt v).2.Within P := by
  unfold Store.collect
  split
  · exact ⟨.error _, h⟩
  · rename_i sketch hsketch
    have hmade := (h.iter hrt hv sketch hsketch).build h
    exact hmade.store.drain _ (fun v hv => absurd hv (Array.not_mem_empty v)) _

end Store

end Sequences

theorem Store.Within.measure {s : Store} (h : s.Within P) (v : Value) :
    Yields (fun length => ∀ t d, length = .byMethod t d → P.type t) (s.measure v) := by
  have hknown (n : NativeInt) :
      Yields (fun length => ∀ t d, length = .byMethod t d → P.type t)
        (.ok (.known n) : Except Exception Length) :=
    .ok fun t d heq => by contradiction
  unfold Store.measure
  split
  -- Text, tuples, lists and dictionaries know their length.
  · exact hknown _
  · exact hknown _
  · exact hknown _
  · exact hknown _
  · rename_i ref
    dsimp only
    split
    · exact .error _
    · rename_i t hlive
      split
      · split
        · exact hknown _
        · exact .error _
      · split
        · refine .ok fun t' d heq => ?_
          cases heq
          rw [s.live_yields _ t hlive]
          exact (h.instances ref).type
        · exact .error _
  · exact .error _

/-- A method that `measure` asks for is one that the type of the instance has. -/
theorem Store.findMethod?_of_measure {s : Store} {v : Value} {t : TypeObject} {d : Descriptor}
    (h : s.measure v = .ok (.byMethod t d)) :
    ∃ ref, v = .object ref ∧ (s.instanceAt ref).type.findMethod? "__len__" = some d := by
  cases v with
  | object ref =>
    unfold Store.measure at h
    dsimp only at h
    split at h
    · contradiction
    · rename_i t' hlive
      -- A live type is the one asked for.
      obtain rfl := s.live_yields _ t' hlive
      split at h
      · split at h <;> cases h
      · split at h
        · rename_i hfound
          cases h
          exact ⟨ref, rfl, hfound⟩
        · contradiction
  | str | tuple | list | dict => cases h
  | null | bool | int | float | type | function | method | iterator => cases h

/-! ## Descriptions -/

namespace Sketch

theorem within_textTuple {α : Type} {f : α → Sketch} (hf : ∀ a, (f a).Within P) (as : List α) :
    (tuple (as.map f)).Within P := by
  refine .tuple fun item hitem => ?_
  obtain ⟨a, -, rfl⟩ := List.mem_map.1 hitem
  exact hf a

theorem within_ofViews (v : Value) : (ofViews v).Within P := by
  refine .tuple ?_
  simp only [List.forall_mem_cons]
  exact ⟨within_bool _, within_bool _, within_optional within_bool _,
    within_optional (fun _ => .given (.plain rfl)) _, within_optional .text _,
    within_optional (fun _ => within_count _) _, within_bool _, within_bool _, by simp⟩

theorem within_ofFieldKind (k : FieldKind) : (ofFieldKind k).Within P := by
  cases k <;> exact .text _

theorem within_ofTypeKind (k : TypeKind) : (ofTypeKind k).Within P := by
  cases k <;> exact .text _

theorem within_ofMember (m : Member) : (ofMember m).Within P := by
  refine .tuple ?_
  simp only [List.forall_mem_cons]
  exact ⟨.text _, within_count _, within_ofFieldKind _, .text _, by simp⟩

theorem within_ofMethod (m : Method Code) : (ofMethod m).Within P := by
  refine .tuple ?_
  simp only [List.forall_mem_cons]
  exact ⟨.text _, within_count _, within_optional within_count _, within_bool _, by simp⟩

theorem within_ofType (t : TypeObject) : (ofType t).Within P := by
  refine .dict ?_
  simp only [List.forall_mem_cons]
  exact ⟨.text _, within_optional .text _, within_ofTypeKind _,
    within_optional (fun _ => .text _) _, within_textTuple within_ofFieldKind _,
    within_textTuple within_ofMember _, within_textTuple within_ofMethod _, .text _, within_bool _,
    within_bool _, by simp⟩

theorem within_ofFind (t : TypeObject) (name : String) : (ofFind t name).Within P := by
  refine .tuple ?_
  simp only [List.forall_mem_cons]
  exact ⟨within_bool _, within_bool _, within_bool _, within_bool _, by simp⟩

theorem within_ofModule (m : Module) (name : String) : (ofModule m name).Within P := by
  refine .tuple ?_
  simp only [List.forall_mem_cons]
  exact ⟨.text _, .text _, within_textTuple .text _, within_count _, within_bool _, within_bool _,
    by simp⟩

end Sketch

/-! ## Requests -/

def Request.Within (P : Realm) : Request → Prop
  | .value v => v.Within P
  | .call target args => target.Within P ∧ ∀ v ∈ args, v.Within P
  | .measure t _ receiver => P.type t ∧ receiver.Within P
  | .raise _ | .malformed => True

namespace Request

structure Made (P : Realm) (r : Request × Store) : Prop where
  request : r.1.Within P
  store : r.2.Within P

variable {s : Store}

theorem within_made {r : Value × Store} (h : Store.Made P r) : Made P (made r) := ⟨h.value, h.store⟩

theorem within_ofSketch (h : s.Within P) {sketch : Sketch} (hsketch : sketch.Within P) :
    Made P (ofSketch sketch s) := within_made (hsketch.build h)

end Request

namespace ObjectOp

/-- What `bind` binds satisfies `P.method`. -/
def Allowed (P : Realm) : ObjectOp → List Value → Prop
  | bind name, [receiver, .type t] => ∀ d, t.findMethod? name = some d → P.method receiver d
  | _, _ => True

variable {rt : Runtime} {s : Store} {op : ObjectOp} {operands : List Value}

theorem Reads.within {v : Value} (h : op.Reads rt s operands v) (hv : ∀ v ∈ operands, v.Within P)
    (hrt : rt.Within P) (hs : s.Within P) : v.Within P := by
  cases h with
  | plain h => exact .plain h
  | item h => exact hs.getItem (hv _ (by simp)) _ _ h
  | typeOf h => exact .type (hrt.typeOf hs _ _ h)
  | lookup h => exact .type (hrt.named? h)
  | member h => exact Member.within_get _ (hs.instances _) _ h

theorem Makes.within {sketch : Sketch} (h : op.Makes rt s operands sketch) (hP : Hereditary P)
    (hbinds : s.Binds P) (hallowed : op.Allowed P operands) (hv : ∀ v ∈ operands, v.Within P)
    (hrt : rt.Within P) (hs : s.Within P) : sketch.Within P := by
  cases h with
  | tuple => exact .tupleOf fun v hmem => hv v (List.mem_toArray.1 hmem)
  | list => exact .listOf fun v hmem => hv v (List.mem_toArray.1 hmem)
  | getAttr h => exact hs.getAttr hP hbinds (hv _ (by simp)) _ _ h
  | bind h => exact .method (hv _ (by simp)) (hallowed _ h)
  | iter h => exact hs.iter hrt (hv _ (by simp)) _ h
  | add h => exact hs.add (hv _ (by simp)) (hv _ (by simp)) _ h
  | @positions bound t =>
    have ht := (hv (.type t) (by simp)).of_type
    exact .iterator (Iterator.within_positions ht bound)
  | items =>
    obtain ⟨ht, hitems⟩ := List.forall_mem_cons.1 hv
    exact .iterator (Iterator.within_items ht.of_type fun v hmem => hitems v (List.mem_toArray.1 hmem))
  | text text => exact .text text
  | views => exact Sketch.within_ofViews _
  | find => exact Sketch.within_ofFind _ _
  | typeInfo => exact Sketch.within_ofType _

theorem Changes.within {c : Change} (h : op.Changes s operands c) (hv : ∀ v ∈ operands, v.Within P)
    (hs : s.Within P) : c.Within P := by
  cases h with
  | setAttr h => exact hs.setAttr _ _ (hv _ (by simp)) _ h
  | delAttr h => exact hs.delAttr _ _ _ h
  | memberSet h => exact Member.within_set _ s (hs.instances _) (hv _ (by simp)) _ h
  | memberDelete h => exact Member.within_delete _ (hs.instances _) _ h

theorem within_run (op : ObjectOp) {operands : List Value} (hP : Hereditary P)
    (hbinds : s.Binds P) (hallowed : op.Allowed P operands)
    (hv : ∀ v ∈ operands, v.Within P) (hrt : rt.Within P) (h : s.Within P) :
    Request.Made P (op.run operands rt s) := by
  have hran := op.ran_run operands rt s
  generalize op.run operands rt s = answer at hran
  cases hran with
  | malformed | refuses => exact ⟨trivial, h⟩
  | reads hreads => exact ⟨hreads.within hv hrt h, h⟩
  | makes hmakes => exact Request.within_ofSketch h (hmakes.within hP hbinds hallowed hv hrt h)
  | changes hchanges => exact ⟨.plain rfl, h.apply (hchanges.within hv h)⟩
  | call =>
    obtain ⟨htarget, hargs⟩ := List.forall_mem_cons.1 hv
    exact ⟨⟨htarget, hargs⟩, h⟩
  -- Getting the attribute may have made a bound method, which is then the target.
  | callMethod hsketch =>
    obtain ⟨hreceiver, hargs⟩ := List.forall_mem_cons.1 hv
    have hmade := (h.getAttr hP hbinds hreceiver _ _ hsketch).build h
    exact ⟨⟨hmade.value, hargs⟩, hmade.store⟩
  | measure hmeasure => exact ⟨⟨h.measure _ _ hmeasure _ _ rfl, hv _ (by simp)⟩, h⟩
  -- What is yielded stands in a fresh tuple.
  | next hnext =>
    obtain ⟨hw, hchange⟩ := h.next _ _ hnext
    refine Request.within_made ((h.apply hchange).newTuple fun u hu => ?_)
    rw [List.mem_singleton.1 (List.mem_toArray.1 hu)]
    exact hw _ rfl
  | nextEnd hnext => exact ⟨.plain rfl, h.apply (h.next _ _ hnext).2⟩
  | nextOrRaise hnext =>
    obtain ⟨hw, hchange⟩ := h.next _ _ hnext
    exact ⟨hw _ rfl, h.apply hchange⟩
  | nextOrRaiseEnd hnext => exact ⟨trivial, h.apply (h.next _ _ hnext).2⟩
  | @collect v items s' hcollect =>
    obtain ⟨hitems, hstore⟩ := h.collect hrt (hv v (by simp))
    rw [hcollect] at hitems hstore
    exact Request.within_made (hstore.newList (hitems items rfl))
  | @collectEnd v e s' hcollect =>
    obtain ⟨-, hstore⟩ := h.collect hrt (hv v (by simp))
    rw [hcollect] at hstore
    exact ⟨trivial, hstore⟩
  | push => exact ⟨.plain rfl, h.appendItem _ (hv _ (by simp))⟩
  | put => exact ⟨.plain rfl, h.setDict _ ((h.dicts _).insert (hv _ (by simp)) (hv _ (by simp)))⟩

end ObjectOp

end ObjectProtocol
