import ObjectProtocol.Proofs.Effect
import ObjectProtocol.Proofs.Sample.FirstField
import ObjectProtocol.Proofs.Subclasses.Likeness

/-!
# Stores that mirror each other

Two stores may differ in their instances and in the types that have been released, but agree on what one
place of the one and one place of the other have in their fields.  What is made in the one is then made in
the other as well, and native code that works on the fields at these places does the same in both.
-/

namespace ObjectProtocol

namespace Store

def fieldsAt? (s : Store) (ref : Ref) : Option (List Field) := (s.instances.get? ref).map (·.fields)

/-- The stores agree on everything but instances and what has been released, and the one has at `ref` the
fields that the other has at `ref'`. -/
structure Mirrors (s : Store) (ref : Ref) (s' : Store) (ref' : Ref) : Prop where
  nextId_eq : s.nextId = s'.nextId
  lists_eq : s.lists = s'.lists
  dicts_eq : s.dicts = s'.dicts
  iterators_eq : s.iterators = s'.iterators
  fields_eq : s.fieldsAt? ref = s'.fieldsAt? ref'

variable {s s' : Store} {ref ref' : Ref}

theorem Mirrors.of_fields (h : s.fieldsAt? ref = s.fieldsAt? ref') : s.Mirrors ref s ref' :=
  ⟨rfl, rfl, rfl, rfl, h⟩

theorem Mirrors.withReleased (h : s.Mirrors ref s' ref') (released released' : List Identity) :
    { s with released }.Mirrors ref { s' with released := released' } ref' :=
  ⟨h.nextId_eq, h.lists_eq, h.dicts_eq, h.iterators_eq, h.fields_eq⟩

theorem Mirrors.like (h : s.Mirrors ref s' ref') : (s.instanceAt ref).Like (s'.instanceAt ref') := by
  have hfields (s : Store) (ref : Ref) : (s.instanceAt ref).fields = (s.fieldsAt? ref).getD [] := by
    unfold instanceAt fieldsAt?
    cases s.instances.get? ref <;> rfl
  unfold Instance.Like
  rw [hfields, hfields, h.fields_eq]

theorem fieldsAt?_setInstance (s : Store) (ref : Ref) (i : Instance) :
    (s.setInstance ref i).fieldsAt? ref = (s.fieldsAt? ref).map fun _ => i.fields := by
  unfold fieldsAt? setInstance
  dsimp only
  rw [Heap.get?_set, if_pos rfl, Option.map_map]
  split
  · rename_i hlt
    rw [get?_instanceAt hlt]
    rfl
  · rename_i hlt
    have hnone : s.instances.get? ref = none := Array.getElem?_eq_none (Nat.le_of_not_lt hlt)
    rw [hnone]
    rfl

theorem Mirrors.setInstance (h : s.Mirrors ref s' ref') {i i' : Instance} (hi : i.Like i') :
    (s.setInstance ref i).Mirrors ref (s'.setInstance ref' i') ref' := by
  refine ⟨h.nextId_eq, h.lists_eq, h.dicts_eq, h.iterators_eq, ?_⟩
  have hfields : i.fields = i'.fields := hi
  rw [fieldsAt?_setInstance, fieldsAt?_setInstance, h.fields_eq, hfields]

theorem Mirrors.equal_eq (h : s.Mirrors ref s' ref') : s.equal = s'.equal := by
  have hwithin (n : Nat) : s.equalWithin n = s'.equalWithin n := by
    -- By induction on how far inside the values the comparison may go.
    induction n with
    | zero => rfl
    | succ n ih =>
      funext v w
      unfold equalWithin listAt dictAt
      rw [ih, h.lists_eq, h.dicts_eq]
  funext v w
  rw [s.equal_eq, s'.equal_eq, hwithin, h.lists_eq, h.dicts_eq]

end Store

/-! ## Making -/

section Making

variable {s s' : Store} {ref ref' : Ref}

/-- The same has been made, in stores that `Mirrors` each other afterwards. -/
structure MadeAlike {α : Type} (ref ref' : Ref) (x y : α × Store) : Prop where
  value_eq : x.1 = y.1
  store : x.2.Mirrors ref y.2 ref'

theorem Store.Mirrors.made {α : Type} (h : s.Mirrors ref s' ref') (f : Identity → α) (count : Nat) :
    MadeAlike ref ref' (f s.nextId, { s with nextId := s.nextId + count })
      (f s'.nextId, { s' with nextId := s'.nextId + count }) := by
  refine ⟨congrArg f h.nextId_eq, ?_, h.lists_eq, h.dicts_eq, h.iterators_eq, h.fields_eq⟩
  show s.nextId + count = s'.nextId + count
  rw [h.nextId_eq]

theorem Store.Mirrors.newList (h : s.Mirrors ref s' ref') (items : Array Value) :
    MadeAlike ref ref' (s.newList items) (s'.newList items) := by
  unfold Store.newList
  rw [h.lists_eq]
  exact ⟨rfl, h.nextId_eq, rfl, h.dicts_eq, h.iterators_eq, h.fields_eq⟩

theorem Store.Mirrors.newDict (h : s.Mirrors ref s' ref') (m : Mapping) :
    MadeAlike ref ref' (s.newDict m) (s'.newDict m) := by
  unfold Store.newDict
  rw [h.dicts_eq]
  exact ⟨rfl, h.nextId_eq, h.lists_eq, rfl, h.iterators_eq, h.fields_eq⟩

theorem Store.Mirrors.newIterator (h : s.Mirrors ref s' ref') (it : Iterator) :
    MadeAlike ref ref' (s.newIterator it) (s'.newIterator it) := by
  unfold Store.newIterator
  rw [h.iterators_eq]
  exact ⟨rfl, h.nextId_eq, h.lists_eq, h.dicts_eq, rfl, h.fields_eq⟩

namespace Sketch

mutual

theorem madeAlike_build (sketch : Sketch) {s s' : Store} (h : s.Mirrors ref s' ref') :
    MadeAlike ref ref' (sketch.build s) (sketch.build s') := by
  match sketch with
  | given v => exact ⟨rfl, h⟩
  | text t => exact h.made (fun id => Value.str id t) 1
  | tupleOf items => exact h.made (fun id => Value.tuple id items) 1
  | method receiver d => exact h.made (fun id => Value.method id receiver d) 1
  | listOf items => exact h.newList items
  | iterator it => exact h.newIterator it
  | characters t source =>
    -- The characters take their identities first, and then the iterator over them is made.
    obtain ⟨hitems, hstore⟩ := h.made (fun id =>
      (source.toList.mapIdx fun i c => Value.str (id + i) (String.singleton c)).toArray) source.length
    unfold build Store.newCharacters
    dsimp only at hitems ⊢
    rw [hitems]
    exact hstore.newIterator _
  | tuple items =>
    obtain ⟨hitems, hstore⟩ := madeAlike_buildAll items h
    unfold build
    dsimp only
    rw [hitems]
    exact hstore.made (fun id => Value.tuple id _) 1
  | dict entries =>
    obtain ⟨hentries, hstore⟩ := madeAlike_buildEntries entries {} h
    unfold build
    dsimp only
    rw [hentries]
    exact hstore.newDict _

theorem madeAlike_buildAll (items : List Sketch) {s s' : Store} (h : s.Mirrors ref s' ref') :
    MadeAlike ref ref' (buildAll items s) (buildAll items s') := by
  match items with
  | [] => exact ⟨rfl, h⟩
  | item :: rest =>
    obtain ⟨hitem, hstore⟩ := madeAlike_build item h
    obtain ⟨hrest, hstore⟩ := madeAlike_buildAll rest hstore
    unfold buildAll
    dsimp only
    rw [hitem, hrest]
    exact ⟨rfl, hstore⟩

theorem madeAlike_buildEntries (entries : List (String × Sketch)) (m : Mapping) {s s' : Store}
    (h : s.Mirrors ref s' ref') :
    MadeAlike ref ref' (buildEntries entries m s) (buildEntries entries m s') := by
  match entries with
  | [] => exact ⟨rfl, h⟩
  | (name, value) :: rest =>
    obtain ⟨hkey, hstore⟩ := h.made (fun id => Value.str id name) 1
    obtain ⟨hvalue, hstore⟩ := madeAlike_build value hstore
    unfold buildEntries Store.newText
    dsimp only at hkey ⊢
    rw [hkey, hvalue, hstore.equal_eq]
    exact madeAlike_buildEntries rest _ hstore

end

end Sketch

end Making

/-! ## Methods -/

/-- The routine works on the fields of its instance; it calls nothing and draws nothing. -/
def MethodRoutine.isLocal : MethodRoutine → Bool
  | .box .maybeIncr | .box .callback | .stock _ | .onInstance _ => false
  | .box _ | .rawLength => true

inductive Answer.Alike : Answer → Answer → Prop
  | value (sketch : Sketch) : Alike (.value sketch) (.value sketch)

inductive Control.Alike : Control → Control → Prop
  | give (v : Value) : Alike (.give v) (.give v)
  | raise {e e' : Exception} : e.kind = e'.kind → Alike (.raise e) (.raise e')

/-- Routines have answered alike, in stores that `Mirrors` each other afterwards. -/
structure AnsweredAlike (ref ref' : Ref) (x y : Except NativeError Answer × Host) : Prop where
  answer : Agree NativeError.kind Answer.Alike x.1 y.1
  store : x.2.store.Mirrors ref y.2.store ref'

/-- Calls go on with like outcomes, in stores that `Mirrors` each other afterwards. -/
structure EnteredAlike (ref ref' : Ref) (x y : Entry × Host) : Prop where
  control : x.1.control.Alike y.1.control
  store : x.2.store.Mirrors ref y.2.store ref'

namespace AnsweredAlike

variable {h h' : Host} {ref ref' : Ref}

theorem of_reading {α : Type} {x y : Except Failure α} (hstore : h.store.Mirrors ref h'.store ref')
    (hread : Agree Failure.kind Eq x y) (f : α → Sketch) :
    AnsweredAlike ref ref' ((failing x).map fun a => .value (f a), h)
      ((failing y).map fun a => .value (f a), h') := by
  refine ⟨hread.failing.map fun a b hab => ?_, hstore⟩
  obtain rfl := hab
  exact .value (f a)

theorem entered {x y : Except NativeError Answer × Host} (hanswered : AnsweredAlike ref ref' x y) :
    EnteredAlike ref ref' (Entry.ofAnswer x) (Entry.ofAnswer y) := by
  obtain ⟨x, h⟩ := x
  obtain ⟨y, h'⟩ := y
  obtain ⟨hanswer, hstore⟩ := hanswered
  dsimp only at hanswer hstore
  cases hanswer with
  | error hkind => exact ⟨.raise hkind, hstore⟩
  | ok hsame =>
    cases hsame with
    | value sketch =>
      obtain ⟨hvalue, hmade⟩ := sketch.madeAlike_build hstore
      refine ⟨?_, hmade⟩
      show (Control.give (sketch.build h.store).1).Alike (.give (sketch.build h'.store).1)
      rw [hvalue]
      exact .give _

end AnsweredAlike

namespace Host

variable {h h' : Host} {ref ref' : Ref} (hstore : h.store.Mirrors ref h'.store ref')
include hstore

theorem answeredAlike_run {r : MethodRoutine} (hr : r.isLocal = true) (a : Args) :
    AnsweredAlike ref ref' (r.run h ref a) (r.run h' ref' a) := by
  have hlike := hstore.like
  cases r with
  | stock | onInstance => contradiction
  | rawLength =>
    exact .of_reading hstore (Sample.Counter.agree_rawLength hlike) fun n => .given (.ofNative n)
  | box m =>
    cases m with
    | maybeIncr | callback => contradiction
    | getContents => exact .of_reading hstore (Sample.Box.agree_contents hlike) .given
    | getCounter =>
      exact .of_reading hstore (Sample.Box.agree_counter hlike) fun n => .given (.ofNative n)
    | getData => exact .of_reading hstore (Sample.Box.agree_record hlike) Record.toTuple
    | getDataDict => exact .of_reading hstore (Sample.Box.agree_record hlike) Record.toDict
    | brokenGetData =>
      exact .of_reading hstore ((Sample.Box.agree_record hlike).bind_eq fun record =>
        record.agree_typedTuple h.store h'.store [.int, .int]) id
    | incr =>
      have hincr := Sample.Box.agree_incr hlike
      show AnsweredAlike ref ref'
        (h.answer ((failing (Sample.Box.incr (h.store.instanceAt ref))).map fun i =>
          (.null, .object ref i)))
        (h'.answer ((failing (Sample.Box.incr (h'.store.instanceAt ref'))).map fun i =>
          (.null, .object ref' i)))
      -- Only the fields of what is written count, and those are the same.
      generalize Sample.Box.incr (h.store.instanceAt ref) = x at hincr
      generalize Sample.Box.incr (h'.store.instanceAt ref') = y at hincr
      cases hincr with
      | error hkind => exact ⟨.error hkind, hstore⟩
      | ok hfields => exact ⟨.ok (.value .null), hstore.setInstance hfields⟩

theorem enteredAlike_runMethod {d : Descriptor} {r : MethodRoutine} (hbody : d.method.body = .native r)
    (hr : r.isLocal = true) (args : List Value) :
    EnteredAlike ref ref' (h.runMethod d (.object ref) args)
      (h'.runMethod d (.object ref') args) := by
  unfold runMethod
  rw [hbody]
  dsimp only
  rcases (d.method.spec.agree_parse h.store h'.store args).cases_eq with
    ⟨a, ha, ha'⟩ | ⟨f, f', hf, hf', hkind⟩
  · rw [ha, ha']
    exact (answeredAlike_run hstore hr a).entered
  · rw [hf, hf']
    exact ⟨.raise hkind, hstore⟩

/-! ## Construction -/

omit hstore in
theorem refusal?_alike (h h' : Host) {t u : TypeObject} (ht : t.own.kind ≠ .builtin)
    (hu : u.own.kind ≠ .builtin) (hslot : t.findSlot? (·.new) = u.findSlot? (·.new))
    (args : List Value) :
    (h.refusal? t args).map (·.kind) = (h'.refusal? u args).map (·.kind) := by
  unfold refusal?
  rw [if_neg ht, if_neg hu, hslot]
  cases u.findSlot? (·.new) with
  | none => rfl
  | some slot =>
    rcases (slot.agree_check h.store h'.store args).cases_eq with
      ⟨a, ha, ha'⟩ | ⟨f, f', hf, hf', hkind⟩
    · rw [Option.elim_some, Option.elim_some, ha, ha']
    · rw [Option.elim_some, Option.elim_some, hf, hf']
      exact congrArg some hkind

theorem enteredAlike_atomic {t u : TypeObject} {slot : InitSlot} {args : List Value}
    {x y : Except Failure Instance}
    (ht : t.findMethod? "__init__" = none ∧ t.findSlot? (·.init) = some slot)
    (hu : u.findMethod? "__init__" = none ∧ u.findSlot? (·.init) = some slot)
    (hx : slot.run h.store (h.store.instanceAt ref) args = InitSlot.atomic (h.store.instanceAt ref) x)
    (hy : slot.run h'.store (h'.store.instanceAt ref') args = InitSlot.atomic (h'.store.instanceAt ref') y)
    (hxy : Agree Failure.kind Instance.Like x y) :
    EnteredAlike ref ref' (h.setUp t ref args) (h'.setUp u ref' args) := by
  unfold setUp
  rw [ht.1, ht.2, hu.1, hu.2]
  dsimp only
  rw [hx, hy]
  cases hxy with
  | ok hfields => exact ⟨.give .null, hstore.setInstance hfields⟩
  -- After a failure the instance is put back as it was.
  | error hkind => exact ⟨.raise hkind, hstore.setInstance hstore.like⟩

end Host

end ObjectProtocol
