import ObjectProtocol.Proofs.Exceptions.Failures
import ObjectProtocol.Proofs.Failing.Results
import ObjectProtocol.Proofs.Growth.Stores
import ObjectProtocol.Proofs.Iteration.Taking

/-!
# What iterables give

Whatever is made to iterate over a value is an iterator: its own iterator, for as long as its type is
live, and advances of it never raise a type error.  A slot may ask the object in its field for an
iterator, and gives what that one gives.  A slot may also hand over the object in its field itself, and
nobody looks at what that is; so this is the one way to come to something that is no iterator.
-/

namespace ObjectProtocol

/-! ## Advances that fail -/

theorem Failure.kind_ne_typeError {f : Failure}
    (h : f.code = .invariantBroken ∨ f.code = .sequenceExhausted) : f.toException.kind ≠ .typeError := by
  unfold toException
  split
  · show f.code.category ≠ .typeError
    rcases h with h | h
    all_goals
      rw [h]
      decide
  · split
    all_goals decide

theorem Instance.code_of_read (i : Instance) (offset : Nat) :
    FailsOnly (fun f => f.code = .invariantBroken) (i.read offset) := by
  unfold read
  split
  · exact .ok _
  · exact .error rfl

theorem Instance.code_of_readInt (i : Instance) (offset : Nat) :
    FailsOnly (fun f => f.code = .invariantBroken) (i.readInt offset) := by
  unfold readInt
  split
  · exact .ok _
  · exact .error rfl
  · exact .error (i.code_of_read offset _ ‹_›)

theorem Instance.code_of_write (i : Instance) (offset : Nat) (content : Field) :
    FailsOnly (fun f => f.code = .invariantBroken) (i.write offset content) := by
  unfold write
  split
  · split
    · exact .ok _
    · exact .error rfl
  · exact .error rfl

theorem NextSlot.kind_of_run (slot : NextSlot) (i : Instance) :
    FailsOnly (fun f => f.toException.kind ≠ .typeError) (slot.run i) := by
  cases slot with
  | countdown =>
    refine .bind ((i.code_of_readInt 0).mono fun f hf => f.kind_ne_typeError (Or.inl hf)) fun n _ => ?_
    split
    · exact .bind ((i.code_of_write 0 _).mono fun f hf => f.kind_ne_typeError (Or.inl hf)) fun j _ => .ok _
    · exact .ok _
  | exhausted | drained => exact .error (Failure.kind_ne_typeError (Or.inr rfl))

namespace Store

variable {s s' : Store} {rt : Runtime} {v w x : Value} {e : Exception} {f : Failure} {ref : Ref}
  {t : TypeObject}

theorem NextFails.kind_ne (h : s.NextFails v f) : f.toException.kind ≠ .typeError := by
  cases h with
  | slot _ _ hrun => exact NextSlot.kind_of_run _ _ f hrun

/-! ## Iterators -/

/-- The value is not an instance whose type has been `released`. -/
def HasLiveType (s : Store) : Value → Prop
  | .object ref => s.live (s.instanceAt ref).type = .ok (s.instanceAt ref).type
  | _ => True

/-- The built-in iterators, and the instances that have a `NextSlot` and no `IterSlot`. -/
inductive Advances (s : Store) : Value → Prop
  | iterator (ref : Ref) : Advances s (.iterator ref)
  | object {ref : Ref} {slot : NextSlot} :
    s.live (s.instanceAt ref).type = .ok (s.instanceAt ref).type →
      (s.instanceAt ref).type.findSlot? (·.iter) = none →
      (s.instanceAt ref).type.findSlot? (·.next) = some slot → Advances s (.object ref)

theorem Advances.hasLiveType (h : s.Advances v) : s.HasLiveType v := by
  cases h with
  | iterator => trivial
  | object hlive => exact hlive

theorem Advances.iter_eq (h : s.Advances v) (rt : Runtime) : s.iter rt v = .ok (.given v) := by
  cases h with
  | iterator ref => exact s.iter_iterator rt ref
  | object hlive hiter hnext =>
    unfold iter
    rw [iterWithin.eq_def]
    dsimp only
    rw [hlive]
    dsimp only
    rw [hiter, hnext]
    rfl

theorem type_eq_of_next_slot {slot : NextSlot}
    (hslot : (s.instanceAt ref).type.findSlot? (·.next) = some slot) (hkeeps : s.KeepsTypes s') :
    (s'.instanceAt ref).type = (s.instanceAt ref).type := by
  refine hkeeps.type_eq (get?_instanceAt (lt_size_of_instanceAt_ne fun hdefault => ?_))
  rw [hdefault] at hslot
  contradiction

theorem Advances.later (h : s.Advances v) (hkeeps : s.KeepsTypes s') (hlive : s'.HasLiveType v) :
    s'.Advances v := by
  cases h with
  | iterator ref => exact .iterator ref
  | object _ hiter hslot =>
    have htype := type_eq_of_next_slot hslot hkeeps
    exact .object hlive (htype ▸ hiter) (htype ▸ hslot)

/-- `Store.next` fails as a slot does, unless there is no way to advance. -/
theorem next_cases (hlive : s.HasLiveType v) (hnext : s.next v = .error e) :
    (∃ f, s.NextFails v f ∧ e = f.toException) ∨ e = s.notIterator v ∧ ¬ s.Advances v := by
  cases v with
  | iterator => contradiction
  | object ref =>
    have hlive : s.live (s.instanceAt ref).type = .ok (s.instanceAt ref).type := hlive
    unfold next at hnext
    dsimp only at hnext
    rw [hlive] at hnext
    dsimp only at hnext
    split at hnext
    · rename_i slot hslot
      cases hrun : slot.run (s.instanceAt ref) with
      | ok r =>
        rw [hrun] at hnext
        contradiction
      | error f =>
        rw [hrun] at hnext
        cases hnext
        exact Or.inl ⟨f, .slot hlive hslot hrun, rfl⟩
    · -- An instance without a next slot is no iterator, whatever else it has.
      rename_i hnone
      cases hnext
      refine Or.inr ⟨rfl, fun hadvances => ?_⟩
      cases hadvances with
      | object _ _ hslot =>
        rw [hnone] at hslot
        contradiction
  | null | bool | int | float | str | tuple | list | dict | type | function | method =>
    cases hnext
    exact Or.inr ⟨rfl, fun hadvances => by contradiction⟩

theorem kind_of_next_of_released (hlive : ¬ s.HasLiveType v) (hnext : s.next v = .error e) :
    e.kind = .systemError := by
  cases v with
  | object ref =>
    unfold HasLiveType live at hlive
    unfold next live at hnext
    dsimp only at hlive hnext
    split at hlive
    · rename_i hreleased
      rw [if_pos hreleased] at hnext
      cases hnext
      rfl
    · exact absurd rfl hlive
  | null | bool | int | float | str | tuple | list | dict | type | function | method | iterator =>
    exact absurd trivial hlive

/-- What `Advances` never raises a `typeError` for it, now or later. -/
theorem Advances.kind_of_next (h : s.Advances v) (hkeeps : s.KeepsTypes s')
    (hnext : s'.next v = .error e) : e.kind ≠ .typeError := by
  -- A type that was released by then is a system error.
  by_cases hlive : s'.HasLiveType v
  · rcases next_cases hlive hnext with ⟨f, hfails, rfl⟩ | ⟨-, hnot⟩
    · exact hfails.kind_ne
    · exact absurd (h.later hkeeps hlive) hnot
  · rw [kind_of_next_of_released hlive hnext]
    decide

/-- The value iterates over itself, and advancing it is never a `typeError`, now or in a store that has
come of this one. Whatever scripts come to keeps the types of instances (`Config.LeadsTo.keepsTypes`). -/
structure IsIterator (s : Store) (v : Value) : Prop where
  live : s.HasLiveType v
  iter_eq : ∀ (rt : Runtime) (s' : Store), s.KeepsTypes s' → s'.HasLiveType v →
    ObjectOp.iter.run [v] rt s' = (.value v, s')
  kind_ne : ∀ op : ObjectOp, op = .next ∨ op = .nextOrRaise → ∀ (rt : Runtime) (s' : Store) (e : Exception),
    s.KeepsTypes s' → (op.run [v] rt s').1 = .raise e → e.kind ≠ .typeError

theorem Advances.isIterator (h : s.Advances v) : s.IsIterator v where
  live := h.hasLiveType
  iter_eq rt s' hkeeps hlive := by
    show Request.ofMaking (s'.iter rt v) s' = _
    rw [(h.later hkeeps hlive).iter_eq rt]
    rfl
  kind_ne op hop rt s' e hkeeps hraise := by
    rcases hop with rfl | rfl
    all_goals
      unfold ObjectOp.run at hraise
      dsimp only at hraise
      split at hraise
    · contradiction
    · contradiction
    · cases hraise
      exact h.kind_of_next hkeeps ‹_›
    · contradiction
    · -- The end of a sequence is no type error.
      cases hraise
      decide
    · cases hraise
      exact h.kind_of_next hkeeps ‹_›

/-! ## Where iterators come from -/

/-- Iterating over `x` comes to an `IterSlot` that hands over the object in its field. -/
inductive HandsOver (s : Store) (x : Value) : Value → Prop
  | field {ref : Ref} {t : TypeObject} {content : Option Value} :
    s.PassesTo TypeObject.iteratesInside x (.object ref) → s.live (s.instanceAt ref).type = .ok t →
      t.findSlot? (·.iter) = some .rawObject → (s.instanceAt ref).readObject 0 = .ok content →
      HandsOver s x (content.getD .null)

/-- What `Store.iter` may answer with for `x`. -/
inductive Provides (s : Store) (x : Value) : Sketch → Prop
  | same {v : Value} : s.Advances v → Provides s x (.given v)
  | made (it : Iterator) : Provides s x (.iterator it)
  | characters (t : TypeObject) (text : String) : Provides s x (.characters t text)
  | handed {v : Value} : s.HandsOver x v → Provides s x (.given v)

theorem Provides.of_inside? {sketch : Sketch} (h : s.Provides w sketch)
    (hinside : s.inside? TypeObject.iteratesInside x = some w) : s.Provides x sketch := by
  cases h with
  | same hadvances => exact .same hadvances
  | made it => exact .made it
  | characters t text => exact .characters t text
  | handed hhands =>
    obtain ⟨hpasses, hlive, hslot, hread⟩ := hhands
    exact .handed (.field (hpasses.head hinside) hlive hslot hread)

theorem provides_run {slot : IterSlot} (hlive : s.live (s.instanceAt ref).type = .ok t)
    (hslot : t.findSlot? (·.iter) = some slot) {inside : Value → Except Exception Sketch}
    (hinside : ∀ w, Yields (s.Provides w) (inside w)) :
    Yields (s.Provides (.object ref)) (slot.run rt (s.instanceAt ref) inside) := by
  cases slot with
  | positions => exact .mapError (.bind (.any _) fun _ _ => .ok (.made _))
  | counter =>
    unfold IterSlot.run
    dsimp only
    split
    · exact .mapError (.error _)
    · exact .mapError (.bind (.any _) fun _ _ => .ok (.made _))
  -- The only slot that answers with something that it has not made.
  | rawObject =>
    unfold IterSlot.run
    dsimp only
    cases hread : (s.instanceAt ref).readObject 0 with
    | error f => exact .error _
    | ok content => exact .ok (.handed (.field .refl hlive hslot hread))
  -- The answer is the one for the object inside.
  | ofObject =>
    unfold IterSlot.run
    dsimp only
    cases hread : (s.instanceAt ref).readObject 0 with
    | error f => exact .error _
    | ok content =>
      have hhands : s.inside? TypeObject.iteratesInside (.object ref) = some (content.getD .null) :=
        inside?_eq_some_iff.2 ⟨ref, t, content, rfl, hlive, decide_eq_true hslot, hread, rfl⟩
      intro sketch hsketch
      exact (((hinside _).mapError) sketch hsketch).of_inside? hhands

theorem provides_iterWithin (s : Store) (rt : Runtime) (n : Nat) (x : Value) :
    Yields (s.Provides x) (s.iterWithin rt n x) := by
  induction n using Nat.strongRecOn generalizing x with
  | ind n ih =>
    cases x with
    | object ref =>
      cases hlive : s.live (s.instanceAt ref).type with
      | error e =>
        rw [iterWithin.eq_def]
        dsimp only
        rw [hlive]
        exact .error _
      | ok t =>
        obtain rfl := s.live_yields _ t hlive
        cases hslot : (s.instanceAt ref).type.findSlot? (·.iter) with
        | some slot =>
          -- To ask inside costs one of the `n` levels.
          rw [iterWithin_object hlive hslot]
          refine .mapError (provides_run hlive hslot fun w => ?_)
          cases n with
          | zero => exact .error _
          | succ m => exact ih m (Nat.lt_succ_self m) w
        | none =>
          rw [iterWithin.eq_def]
          dsimp only
          rw [hlive]
          dsimp only
          rw [hslot]
          dsimp only
          split
          · rename_i hsome
            obtain ⟨slot, hnext⟩ := Option.isSome_iff_exists.1 hsome
            exact .ok (.same (.object hlive hslot hnext))
          · exact .error _
    | tuple | list | dict =>
      rw [iterWithin.eq_def]
      exact .ok (.made _)
    | str =>
      rw [iterWithin.eq_def]
      exact .ok (.characters _ _)
    | iterator ref =>
      rw [iterWithin.eq_def]
      exact .ok (.same (.iterator ref))
    | null | bool | int | float | type | function | method =>
      rw [iterWithin.eq_def]
      exact .error _

theorem provides_iter (s : Store) (rt : Runtime) (x : Value) : Yields (s.Provides x) (s.iter rt x) :=
  s.provides_iterWithin rt _ x

theorem Provides.build {sketch : Sketch} (h : s.Provides x sketch) :
    (sketch.build s).2.IsIterator (sketch.build s).1 ∨
      s.HandsOver x (sketch.build s).1 ∧ (sketch.build s).2 = s := by
  cases h with
  | same hadvances => exact Or.inl hadvances.isIterator
  | made it => exact Or.inl (Advances.iterator _).isIterator
  | characters t text => exact Or.inl (Advances.iterator _).isIterator
  | handed hhands => exact Or.inr ⟨hhands, rfl⟩

theorem HandsOver.iter_eq (h : s.HandsOver x v) (rt : Runtime) : s.iter rt x = .ok (.given v) := by
  obtain ⟨hpasses, hlive, hslot, hread⟩ := h
  rw [iter_of_passesTo hpasses, iter_object hlive hslot]
  unfold IterSlot.run
  rw [hread]
  rfl

/-! ## Taking all values -/

theorem keepsTypes_of_next {yielded : Option Value} {change : Change}
    (hnext : s.next v = .ok (yielded, change)) : s.KeepsTypes (s.apply change) := by
  have hshape : change.KeepsShape s := s.keepsShape_next v _ hnext
  exact (growsTo_apply hshape).types

theorem hasLiveType_of_next (hlive : s.HasLiveType v) {yielded : Option Value} {change : Change}
    (hnext : s.next v = .ok (yielded, change)) : (s.apply change).HasLiveType v := by
  have hkeeps := keepsTypes_of_next hnext
  cases v with
  | object ref =>
    have hlive : s.live (s.instanceAt ref).type = .ok (s.instanceAt ref).type := hlive
    unfold next at hnext
    dsimp only at hnext
    rw [hlive] at hnext
    dsimp only at hnext
    split at hnext
    · -- The advance has written to the instance, but neither its type nor the released ones have
      -- changed.
      unfold HasLiveType live
      dsimp only
      rw [type_eq_of_next_slot ‹_› hkeeps, released_apply]
      exact hlive
    · contradiction
  | null | bool | int | float | str | tuple | list | dict | type | function | method | iterator => trivial

/-- `drain` on an iterator fails only as a `NextSlot` does. -/
theorem IsIterator.drainFails (h : s.IsIterator v) (hkeeps : s.KeepsTypes s') (hlive : s'.HasLiveType v)
    {taken : Array Value} {n : Nat} (hdrain : (s'.drain v taken n).1 = .error e) :
    ∃ f, DrainFails v f n s' ∧ e = f.toException := by
  induction n generalizing s' taken with
  | zero => contradiction
  | succ n ih =>
    unfold drain at hdrain
    split at hdrain
    · rename_i e' hnext
      cases hdrain
      rcases next_cases hlive hnext with ⟨f, hfails, rfl⟩ | ⟨rfl, -⟩
      · exact ⟨f, .now hfails, rfl⟩
      · -- A value that cannot be advanced is no iterator.
        have hraise : (ObjectOp.next.run [v] default s').1 = .raise (s'.notIterator v) := by
          unfold ObjectOp.run
          dsimp only
          rw [hnext]
        exact absurd rfl (h.kind_ne .next (Or.inl rfl) _ s' _ hkeeps hraise)
    · contradiction
    · rename_i item change hnext
      obtain ⟨f, hfails, rfl⟩ :=
        ih (hkeeps.trans (keepsTypes_of_next hnext)) (hasLiveType_of_next hlive hnext) hdrain
      exact ⟨f, .later hnext hfails, rfl⟩

/-! ## Main result -/

/-- What `iter` and `collect` of `x` come to. -/
structure GivesIterators (rt : Runtime) (s : Store) (x : Value) : Prop where
  /-- An iterator, or what a slot has handed over. -/
  given : ∀ it s', ObjectOp.iter.run [x] rt s = (.value it, s') →
    s'.IsIterator it ∨ s.HandsOver x it ∧ s' = s
  handed : ∀ it, s.HandsOver x it → ObjectOp.iter.run [x] rt s = (.value it, s)
  /-- All values can be taken, unless there is no iterator, a next slot fails or something else has been
  handed over. -/
  collected : ∀ e, (ObjectOp.collect.run [x] rt s).1 = .raise e →
    ObjectOp.iter.run [x] rt s = (.raise e, s) ∨
      (∃ it s' n f, ObjectOp.iter.run [x] rt s = (.value it, s') ∧ DrainFails it f n s' ∧
        e = f.toException) ∨
      ∃ it, s.HandsOver x it ∧ ¬ s.IsIterator it

/-- For all types, slots and stores, `iter` of a value gives an iterator or fails as a slot does, unless
an `IterSlot` `HandsOver` the object in its field. -/
theorem givesIterators (rt : Runtime) (s : Store) (x : Value) : s.GivesIterators rt x where
  given it s' hrun := by
    have hmaking : Request.ofMaking (s.iter rt x) s = (.value it, s') := hrun
    cases hiter : s.iter rt x with
    | error e =>
      rw [hiter] at hmaking
      cases hmaking
    | ok sketch =>
      rw [hiter] at hmaking
      cases hmaking
      exact (s.provides_iter rt x sketch hiter).build
  handed it hhands := by
    show Request.ofMaking (s.iter rt x) s = _
    rw [hhands.iter_eq rt]
    rfl
  collected e hraise := by
    have hcollect : (s.collect rt x).1 = .error e := by
      unfold ObjectOp.run at hraise
      dsimp only at hraise
      split at hraise
      · contradiction
      · rename_i heq
        rw [heq]
        cases hraise
        rfl
    have hmaking : ObjectOp.iter.run [x] rt s = Request.ofMaking (s.iter rt x) s := rfl
    unfold collect at hcollect
    cases hiter : s.iter rt x with
    | error e' =>
      rw [hiter] at hcollect hmaking
      cases hcollect
      exact Or.inl hmaking
    | ok sketch =>
      rw [hiter] at hcollect hmaking
      have hdrained (hiterator : (sketch.build s).2.IsIterator (sketch.build s).1) :=
        hiterator.drainFails (.of_instances_eq rfl) hiterator.live hcollect
      rcases (s.provides_iter rt x sketch hiter).build with hiterator | ⟨hhands, hsame⟩
      · obtain ⟨f, hfails, he⟩ := hdrained hiterator
        exact Or.inr (Or.inl ⟨_, _, _, f, hmaking, hfails, he⟩)
      · -- What was handed over may happen to be an iterator.
        by_cases hiterator : s.IsIterator (sketch.build s).1
        · obtain ⟨f, hfails, he⟩ := hdrained (hsame.symm ▸ hiterator)
          exact Or.inr (Or.inl ⟨_, _, _, f, hmaking, hfails, he⟩)
        · exact Or.inr (Or.inr ⟨_, hhands, hiterator⟩)

end Store

namespace Config

/-- A type with the `IterSlot` that hands over the object in its field. -/
def rawDecl : TypeDecl Code :=
  { name := "Raw", kind := .native, layout := [.object],
    slots := { init := some .store, iter := some .rawObject } }

def makeRaw : Config :=
  { control := .eval (.apply (.object .call) [.apply (.declare rawDecl) [], .int 1])
    session := .ofSetup { sample := false } }

def rawMade : Config := makeRaw.after 8

/-- `iter` of `rawDecl`'s instance gives the integer one, which is no iterator: neither `iter` nor `next`
accepts it, and so `collect` of the instance fails as well. -/
theorem iter_gives_integer :
    let rt := rawMade.session.host.runtime
    let s := rawMade.session.host.store
    rawMade.Reachable ∧ rawMade.control = .give (.object 0) ∧
      ObjectOp.iter.run [.object 0] rt s = (.value (.int 1), s) ∧
      ObjectOp.iter.run [.int 1] rt s = (.raise (s.notIterable (.int 1)), s) ∧
      ObjectOp.next.run [.int 1] rt s = (.raise (s.notIterator (.int 1)), s) ∧
      (ObjectOp.collect.run [.object 0] rt s).1 = .raise (s.notIterator (.int 1)) := by
  intro rt s
  have hcontent : (s.instanceAt 0).readObject 0 = .ok (some (.int 1)) := rfl
  have hhands : s.HandsOver (.object 0) (.int 1) := .field .refl rfl rfl hcontent
  have hiter : s.iter rt (.object 0) = .ok (.given (.int 1)) := hhands.iter_eq rt
  refine ⟨(Reachable.start _ _).after 8, rfl, ?_, rfl, rfl, ?_⟩
  · show Request.ofMaking (s.iter rt (.object 0)) s = _
    rw [hiter]
    rfl
  · unfold ObjectOp.run Store.collect
    dsimp only
    rw [hiter]
    rfl

end Config

end ObjectProtocol
