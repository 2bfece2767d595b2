import ObjectProtocol.Proofs.Sample.Calls
import ObjectProtocol.Proofs.Sample.PlainRuns

/-!
# The first fields of boxes and counters

The contents of a box and the bound of a counter are put into the first field by the constructor, and that
is where everything reads them.  The type of a box has a read-only member over the field, the type of a
counter none, so neither opens it.
-/

namespace ObjectProtocol

namespace TypeObject

/-- The type that `Sample.load` builds of `boxDecl`. -/
def IsBox (t : TypeObject) : Prop := ∃ id, Sample.boxDecl.build id none = .ok t

/-- The type that `Sample.load` builds of `counterDecl`. -/
def IsCounter (t : TypeObject) : Prop := ∃ id, Sample.counterDecl.build id none = .ok t

variable {t : TypeObject}

theorem not_opens_of_build {d : TypeDecl Code} {id : Identity} (h : d.build id none = .ok t)
    {offset : Nat} (hmembers : ∀ m ∈ d.members, m.offset = offset → m.access = .readOnly) :
    ¬ t.Opens offset := by
  intro hopens
  obtain ⟨layer, hlayer, m, hm, hoffset, haccess⟩ := hopens.exists_layer
  have hchain : t.chain = [t.own] := TypeDecl.chain_of_build h
  rw [hchain] at hlayer
  obtain rfl := List.mem_singleton.1 hlayer
  rw [TypeDecl.eq_of_build h] at hm
  rw [hmembers m hm hoffset] at haccess
  contradiction

theorem IsBox.not_opens (h : t.IsBox) : ¬ t.Opens 0 := by
  obtain ⟨id, hbuild⟩ := h
  exact not_opens_of_build hbuild (by decide)

theorem IsCounter.not_opens (h : t.IsCounter) : ¬ t.Opens 0 := by
  obtain ⟨id, hbuild⟩ := h
  exact not_opens_of_build hbuild fun m hm => by contradiction

theorem IsBox.init (h : t.IsBox) :
    t.findMethod? "__init__" = none ∧ t.findSlot? (·.init) = some .box := by
  obtain ⟨id, hbuild⟩ := h
  rw [TypeDecl.eq_of_build hbuild]
  exact ⟨rfl, rfl⟩

theorem IsCounter.init (h : t.IsCounter) :
    t.findMethod? "__init__" = none ∧ t.findSlot? (·.init) = some .counter := by
  obtain ⟨id, hbuild⟩ := h
  rw [TypeDecl.eq_of_build hbuild]
  exact ⟨rfl, rfl⟩

end TypeObject

/-! ## Constructors -/

def Value.native? (v : Value) : Option NativeInt := v.asInt?.bind (·.toNative?)

theorem Store.native?_of_toNative {s : Store} {v : Value} {n : NativeInt}
    (h : s.toNative v = .ok n) : v.native? = some n := by
  unfold toNative at h
  unfold Value.native?
  split at h
  · rename_i i hi
    rw [hi]
    split at h
    · rename_i m hm
      cases h
      exact hm
    · contradiction
  · contradiction

theorem Store.toNative_of_native? {s : Store} {v : Value} {n : NativeInt} (h : v.native? = some n) :
    s.toNative v = .ok n := by
  obtain ⟨i, hi, hn⟩ := Option.bind_eq_some_iff.1 h
  unfold toNative
  rw [hi]
  dsimp only
  rw [hn]

theorem Instance.getElem?_of_write {i j : Instance} {offset : Nat} {content : Field}
    (h : i.write offset content = .ok j) : j.fields[offset]? = some content := by
  have hread := Instance.read_of_write h
  unfold Instance.read at hread
  split at hread
  · rename_i field hfield
    cases hread
    exact hfield
  · contradiction

theorem ArgSpec.get_of_parse {s : Store} {spec : ArgSpec} {args : List Value} {a : Args}
    (h : spec.parse s args = .ok a) {n : Nat} {v : Value} (hv : args[n]? = some v) :
    a.get n = .ok v := by
  have hget : a.get? n = some v := by
    rw [Args.get?, ← List.getElem?_map]
    show a.values[n]? = some v
    rw [values_of_parse h]
    exact hv
  unfold Args.get
  rw [hget]

theorem InitSlot.ok_of_atomic {i j : Instance} {x : Except Failure Instance}
    (h : atomic i x = (.ok (), j)) : x = .ok j := by
  unfold atomic at h
  split at h
  · cases h
    rfl
  · cases h

namespace Sample

/-- `Box.init` stores the first argument in `contentsField`. -/
theorem Box.stores_init (s : Store) (i : Instance) (args : List Value) :
    Yields (fun j => ∃ contents counter, args = [contents, counter] ∧
      j.fields[0]? = some (.object (some contents))) (init s i args) := by
  refine .bind (fun _ h => h) fun a ha => ?_
  obtain ⟨contents, counter, n, rfl, -⟩ := eq_of_parse ha
  refine .bind (fun _ h => h) fun v hv => ?_
  rw [ArgSpec.get_of_parse ha rfl] at hv
  cases hv
  -- The counter comes second, and is written to a field of its own.
  refine .bind (.any _) fun m _ => .bind (fun _ h => h) fun j hj k hk => ?_
  refine ⟨contents, counter, rfl, ?_⟩
  rw [(Instance.DiffersAt.of_write hk).field_eq (by decide)]
  exact Instance.getElem?_of_write hj

/-- `Counter.init` stores the native integer of the only argument in `boundField`. -/
theorem Counter.stores_init (s : Store) (i : Instance) (args : List Value) :
    Yields (fun j => ∃ v bound, args = [v] ∧ v.native? = some bound ∧
      j.fields[0]? = some (.int bound)) (init s i args) := by
  refine .bind (fun _ h => h) fun a ha => ?_
  -- The constructor takes exactly one argument.
  obtain ⟨v, rfl⟩ : ∃ v, args = [v] := by
    obtain ⟨harity, -⟩ := ArgSpec.of_parse ha
    have hone : 1 ≤ args.length ∧ args.length ≤ 1 := by
      simpa [ArgSpec.arityOk, constructorSpec, ArgSpec.empty, ArgSpec.required] using harity
    exact List.length_eq_one_iff.1 (Nat.le_antisymm hone.2 hone.1)
  have hget := ArgSpec.get_of_parse ha (n := 0) rfl
  refine .bind (.any _) fun w _ => ?_
  split
  · refine .bind (fun _ h => h) fun bound hbound j hj => ?_
    refine ⟨v, bound, rfl, ?_, Instance.getElem?_of_write hj⟩
    unfold Args.extract at hbound
    rw [hget] at hbound
    exact Store.native?_of_toNative hbound
  · exact .error _

end Sample

/-! ## Reading -/

namespace Instance

variable {i : Instance} {offset : Nat}

theorem readInt_of_field {n : NativeInt} (h : i.fields[offset]? = some (.int n)) :
    i.readInt offset = .ok n := by
  unfold readInt read
  rw [h]

theorem readObject_of_field {v : Option Value} (h : i.fields[offset]? = some (.object v)) :
    i.readObject offset = .ok v := by
  unfold readObject read
  rw [h]

end Instance

namespace Session

/-- `getcontents` is a method of the box, and answers with `contents`. -/
def ReadsContents (s : Session) (ref : Ref) (contents : Value) : Prop :=
  ∃ d, s.host.store.getAttr (.object ref) "getcontents" = .ok (.method (.object ref) d) ∧
    (s.host.runMethod d (.object ref) []).1 = .give contents

/-- `len`, `__len__`, `contains` and `iter` of the counter all go by this bound. -/
structure ReadsBound (s : Session) (ref : Ref) (bound : NativeInt) : Prop where
  /-- A negative bound reads as zero. -/
  len : s.host.store.measure (.object ref) = .ok (.known bound.clampNonneg)
  /-- The bound of a counter that was not given one is refused. -/
  rawLength : ∃ d, s.host.store.getAttr (.object ref) "__len__" = .ok (.method (.object ref) d) ∧
    (s.host.runMethod d (.object ref) []).1 =
      if bound = Sample.uninitialized then .raise ⟨.typeError, "uninitialized"⟩
      else .give (.ofNative bound)
  contains : ∀ item, s.host.store.contains (.object ref) item =
    ((s.host.store.toNative item).map (Sample.boundContains bound)).mapError Failure.toException
  iter : ∃ t, s.host.runtime.registry.named? Sample.counterIteratorName = some t ∧
    s.host.store.iter s.host.runtime (.object ref) =
      .ok (.iterator { type := t, source := .positions bound })

end Session

namespace Config

variable {c : Config} {ref : Ref} {i : Instance}

theorem Plain.live (h : c.Plain) (t : TypeObject) : c.session.host.store.live t = .ok t :=
  Store.live_of_released h.released_eq t

theorem Plain.readsContents (h : c.Plain)
    (hi : c.session.host.store.instances.get? ref = some i) (ht : i.type.IsBox) {contents : Value}
    (hfield : i.fields[0]? = some (.object (some contents))) : c.session.ReadsContents ref contents := by
  obtain ⟨id, hbuild⟩ := ht
  have hat := Store.instanceAt_eq hi
  -- The own method of the box type is found before the dictionary is asked.
  have hattribute : i.attribute? "getcontents" =
      some (.method ⟨i.type.id, ⟨"getcontents", .empty, .native (.box .getContents)⟩⟩) := by
    unfold Instance.attribute? Instance.attributeAs?
    rw [TypeDecl.eq_of_build hbuild]
    rfl
  refine ⟨_, Store.getAttr_of_method (h.live _) (hat ▸ hattribute), ?_⟩
  have hcontents : Sample.Box.contents i = .ok contents := by
    unfold Sample.Box.contents
    rw [Sample.Box.contentsField, Instance.readObject_of_field hfield]
    rfl
  show (Entry.ofAnswer ((failing (Sample.Box.contents (c.session.host.store.instanceAt ref))).map
    .given, c.session.host)).1 = .give contents
  rw [hat, hcontents]
  rfl

theorem readsBound (hi : c.session.host.store.instances.get? ref = some i) (ht : i.type.IsCounter)
    {bound : NativeInt} (hfield : i.fields[0]? = some (.int bound))
    (hlive : c.session.host.store.live i.type = .ok i.type)
    (hnamed : ∃ u, c.session.host.runtime.registry.named? Sample.counterIteratorName = some u) :
    c.session.ReadsBound ref bound := by
  obtain ⟨id, hbuild⟩ := ht
  have hat := Store.instanceAt_eq hi
  have hbound := Instance.readInt_of_field hfield
  have hslots : i.type.findSlot? (·.length) = some (.int 0) ∧
      i.type.findSlot? (·.contains) = some .counter ∧
      i.type.findSlot? (·.iter) = some .counter := by
    rw [TypeDecl.eq_of_build hbuild]
    exact ⟨rfl, rfl, rfl⟩
  refine ⟨?_, ?_, fun item => ?_, ?_⟩
  · unfold Store.measure
    dsimp only
    rw [hat, hlive]
    dsimp only
    rw [hslots.1]
    dsimp only
    unfold LengthSlot.run
    dsimp only
    rw [hbound]
  · -- The same bound, by the method of the name.
    have hattribute : i.attribute? "__len__" =
        some (.method ⟨i.type.id, ⟨"__len__", .empty, .native .rawLength⟩⟩) := by
      unfold Instance.attribute? Instance.attributeAs?
      rw [TypeDecl.eq_of_build hbuild]
      rfl
    refine ⟨_, Store.getAttr_of_method (hat.symm ▸ hlive) (hat ▸ hattribute), ?_⟩
    show (Entry.ofAnswer ((failing (Sample.Counter.rawLength
      (c.session.host.store.instanceAt ref))).map .int, c.session.host)).1 = _
    rw [hat]
    unfold Sample.Counter.rawLength
    rw [Sample.Counter.boundField, hbound]
    show (Entry.ofAnswer ((failing (if bound = Sample.uninitialized then _ else _)).map
      .int, c.session.host)).1 = _
    split <;> rfl
  · unfold Store.contains Store.containsWithin
    dsimp only
    rw [hat, hlive]
    dsimp only
    rw [hslots.2.1]
    dsimp only
    unfold ContainsSlot.run
    dsimp only
    -- An item that is no native integer fails, whatever the bound.
    cases c.session.host.store.toNative item with
    | error f => rfl
    | ok n =>
      rw [hbound]
      rfl
  · -- Iterating needs the iterator type to be registered.
    obtain ⟨t, ht⟩ := hnamed
    refine ⟨t, ht, ?_⟩
    unfold Store.iter Store.iterWithin
    dsimp only
    rw [hat, hlive]
    dsimp only
    rw [hslots.2.2]
    dsimp only
    unfold IterSlot.run
    dsimp only
    rw [ht]
    dsimp only
    rw [hbound]
    rfl

theorem Plain.readsBound (h : c.Plain)
    (hi : c.session.host.store.instances.get? ref = some i) (ht : i.type.IsCounter)
    {bound : NativeInt} (hfield : i.fields[0]? = some (.int bound)) :
    c.session.ReadsBound ref bound := by
  refine Config.readsBound hi ht hfield (h.live _) ?_
  obtain ⟨id, hbuild⟩ := ht
  have hwithin := (h.within _ List.suffix_rfl).session.host.store.instances ref
  rw [Store.instanceAt_eq hi] at hwithin
  obtain ⟨u, hu, hname⟩ := hwithin.type.2 i.type.own List.mem_cons_self (by
    rw [TypeDecl.eq_of_build hbuild]
    rfl)
  exact Registry.exists_named?_of_mem hu hname

end Config

end ObjectProtocol
