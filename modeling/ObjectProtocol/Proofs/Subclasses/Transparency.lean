import ObjectProtocol.Proofs.Attributes.Inheritance
import ObjectProtocol.Proofs.Subclasses.Twins

/-!
# Subclasses that add nothing

A class that adds nothing to the type of boxes or of counters makes instances as that type does, and its
instances do what those of the type do.
-/

namespace ObjectProtocol

namespace Config

variable {c : Config} {t base : TypeObject} {ref ref' : Ref}

/-! ## Main result -/

theorem iter_of_sample {s : Store} (hbase : (s.instanceAt ref).type.IsBox ∨ (s.instanceAt ref).type.IsCounter)
    {rt : Runtime} {sketch : Sketch} (h : s.iter rt (.object ref) = .ok sketch) :
    ∃ it, sketch = .iterator it := by
  obtain ⟨hnext, -, hslot⟩ := TypeObject.slots_of_sample hbase
  unfold Store.iter Store.iterWithin at h
  dsimp only at h
  split at h
  · contradiction
  · rename_i t hlive
    obtain rfl := s.live_yields _ t hlive
    split at h
    · rename_i slot hfound
      obtain rfl := hslot slot hfound
      -- The slot of counters makes an iterator of the type that goes by the name.
      unfold IterSlot.run at h
      dsimp only at h
      cases hnamed : rt.registry.named? Sample.counterIteratorName with
      | none =>
        rw [hnamed] at h
        contradiction
      | some u =>
        rw [hnamed] at h
        dsimp only at h
        cases hbound : (s.instanceAt ref).readInt 0 with
        | error f =>
          rw [hbound] at h
          contradiction
        | ok bound =>
          rw [hbound] at h
          cases h
          exact ⟨_, rfl⟩
    · rw [hnext] at h
      contradiction

theorem Reachable.entry_of_findMethod? (h : c.Reachable) {name : String} {d : Descriptor}
    (hmethod : (c.session.host.store.instanceAt ref).type.findMethod? name = some d) :
    (c.session.host.store.instanceAt ref).dict.bind (·.get? name) = none := by
  refine Option.eq_none_iff_forall_ne_some.2 fun v hv => ?_
  obtain ⟨-, hundeclared⟩ :=
    (h.within.session.host.store.instances ref).sound.undeclared name v hv
  rw [hmethod] at hundeclared
  contradiction

theorem Reachable.dict_of_sample (h : c.Reachable) {i : Instance}
    (hi : c.session.host.store.instances.get? ref = some i) (hbase : i.type.IsBox ∨ i.type.IsCounter) :
    i.dict = none := by
  have hdict := h.isSome_dict hi
  rw [TypeObject.hasDict_of_sample hbase] at hdict
  exact Option.isNone_iff_eq_none.1 (by rw [← Option.not_isSome, hdict]; rfl)

/-- Let `t` be `Bare` over the type of boxes or of counters, at any distance. In every `Reachable`
configuration a call of `t` gives a new instance iff a call of the base with the same arguments does, with
the same fields, and raises an exception of the same kind otherwise. If an instance of `t` and one of the
base have the same fields and `live` types, then `len`, `contains`, `collect` and `callMethod` end alike
on both and leave the same fields; for a name that is not a method of the base, provided that the
dictionary of the one has no entry under it. The type of the one is `t`, and it is an instance of `t`, of
everything between and of the base. -/
theorem bare_classes_transparent (h : c.Reachable) (hbase : base.IsBox ∨ base.IsCounter)
    {between : List TypeObject} (hbare : base.Bare between t) :
    (∀ args,
      let made := c.start (.call (.type t) args)
      let ref := c.session.host.store.instances.size
      made.EndsAlike (c.start (.call (.type base) args)) c.stack ref ref ∧
        ∀ n v, (∀ k < n, ¬ (made.after k).SettledOn c.stack) → (made.after n).SettledOn c.stack →
          (made.after n).control = .give v → v = .object ref) ∧
    ∀ o p i j, c.session.host.store.instances.get? o = some i →
      c.session.host.store.instances.get? p = some j → i.type = t → j.type = base →
      i.fields = j.fields → c.session.host.store.live t = .ok t →
      c.session.host.store.live base = .ok base →
        let alike (op : ObjectOp) (args : List Value) : Prop :=
          (c.start (.operate (.object op) (.object o :: args))).EndsAlike
            (c.start (.operate (.object op) (.object p :: args))) c.stack o p
        alike .len [] ∧ (∀ item, alike .contains [item]) ∧ alike .collect [] ∧
        (∀ name ∈ TypeObject.sampleMethods,
          (base.findMethod? name = none → i.dict.bind (·.get? name) = none) →
            ∀ args, alike (.callMethod name) args) ∧
        c.session.host.runtime.typeOf c.session.host.store (.object o) = .ok t ∧
        ∀ u ∈ t :: (between ++ [base]),
          c.session.host.runtime.isInstance c.session.host.store (.object o) u = .ok true := by
  have hmimics := hbare.mimics
  refine ⟨fun args => ?_, fun o p i j hi hj ht hp hfields hlive hlive' => ?_⟩
  · -- Built-in types cannot be constructed, and `t` is a host one.
    have hkind : t.own.kind ≠ .builtin := by
      rw [hbare.kind_eq]
      decide
    refine ⟨endsAlike_construct hmimics hkind hbase rfl rfl rfl rfl rfl rfl rfl rfl (.of_fields rfl),
      fun n v hfirst hend hgive => ?_⟩
    obtain ⟨-, -, -, -, -, -, -, hnew⟩ :=
      exists_initialized (c := c.start (.call (.type t) args)) rfl hfirst hend hgive
    exact hnew
  intro alike
  have hio := Store.instanceAt_eq hi
  have hjp := Store.instanceAt_eq hj
  subst ht hp
  have htwins : c.session.host.store.Twins o p := .of_instances hi hj hlive hlive' hmimics hfields
  have htypeOf : c.session.host.runtime.typeOf c.session.host.store (.object o) = .ok i.type := by
    show c.session.host.store.live (c.session.host.store.instanceAt o).type = _
    rw [hio]
    exact hlive
  have hpbase : (c.session.host.store.instanceAt p).type.IsBox ∨
      (c.session.host.store.instanceAt p).type.IsCounter := by rwa [hjp]
  obtain ⟨hnext, hlength, -⟩ := TypeObject.slots_of_sample hpbase
  refine ⟨endsAlike_len htwins hlength, fun item => endsAlike_contains htwins item,
    endsAlike_collect htwins hnext fun sketch => iter_of_sample hpbase,
    fun name hname hentry args => ?_, htypeOf, fun u hu => ?_⟩
  · -- No member of the base stands in front of its methods.
    obtain ⟨hmember, hlocal⟩ := TypeObject.methods_of_sample hpbase hname
    refine endsAlike_callMethod htwins hmember hlocal ?_ ?_ args
    · cases hmethod : j.type.findMethod? name with
      | none =>
        rw [hio]
        exact hentry hmethod
      | some d =>
        refine h.entry_of_findMethod? (d := d) ?_
        rw [hio, hmimics.findMethod?_eq, hmethod]
    · -- An instance of the base has no dictionary at all.
      rw [hjp, h.dict_of_sample hj hbase]
      rfl
  · unfold Runtime.isInstance
    rw [htypeOf]
    exact congrArg Except.ok (hbare.isSubtype u hu)

/-- Makes an instance of a bare class of counters, with an attribute of its own, and a counter. -/
def comparing : Expr :=
  let counterType : Expr := .apply (.session (.moduleGet "basic" "Counter")) []
  let one : Expr := .int (NativeInt.toHost 1)
  .seq
    [.apply (.session (.setVariable "S")) [.apply (.declare plainDecl) [counterType]],
      .apply (.session (.setVariable "o")) [.apply (.object .call) [variableNamed "S", one]],
      .apply (.object (.setAttr "getcontents"))
        [variableNamed "o", .apply (.closure "f" [.bool true]) []],
      .apply (.object .call) [counterType, one]]

def compared : Config := Config.after { control := .eval comparing, session := .ofSetup {} } 36

theorem reachable_compared : compared.Reachable := (Reachable.start _ _).after 36

def askBoth (op : ObjectOp) : Config × Config :=
  (compared.start (.operate (.object op) [.object 0]), compared.start (.operate (.object op) [.object 1]))

set_option maxRecDepth 4000 in
/-- `len` and `__len__` are the same on both, and so is the exception of calling `incr`, which is neither
a method nor an entry. -/
theorem bare_classes_transparent_compared :
    let s := compared.session.host.store
    let i := s.instanceAt 0
    let j := s.instanceAt 1
    s.instances.get? 0 = some i ∧ s.instances.get? 1 = some j ∧ i.fields = j.fields ∧
      j.type.IsCounter ∧ j.type.Bare [] i.type ∧
      ∀ op ∈ [ObjectOp.len, .callMethod "__len__", .callMethod "incr"],
        (askBoth op).1.EndsAlike (askBoth op).2 compared.stack 0 1 := by
  intro s i j
  have hcounter : j.type.IsCounter := ⟨14, rfl⟩
  have hbare : j.type.Bare [] i.type :=
    .direct ⟨rfl, rfl, rfl, rfl, rfl⟩ (show plainDecl.build i.type.id (some j.type) = .ok i.type from rfl)
  obtain ⟨-, halike⟩ := bare_classes_transparent reachable_compared (Or.inr hcounter) hbare
  obtain ⟨hlen, -, -, hmethods, -⟩ := halike 0 1 i j rfl rfl rfl rfl rfl rfl rfl
  -- What is left are three operations, one with a method that a counter lacks.
  refine ⟨rfl, rfl, rfl, hcounter, hbare, ?_⟩
  rw [List.forall_mem_cons, List.forall_mem_cons, List.forall_mem_singleton]
  exact ⟨hlen, hmethods "__len__" (by decide) (fun heq => by cases heq) [],
    hmethods "incr" (by decide) (fun _ => rfl) []⟩

set_option maxRecDepth 4000 in
theorem stack_compared : compared.stack = [] := rfl

set_option maxRecDepth 4000 in
theorem entry_called :
    ((askBoth (.callMethod "getcontents")).1.after 5).SettledOn [] ∧
      ((askBoth (.callMethod "getcontents")).1.after 5).control = .give (.bool true) :=
  ⟨⟨rfl, rfl⟩, rfl⟩

set_option maxRecDepth 4000 in
theorem name_refused :
    (askBoth (.callMethod "getcontents")).2.SettledOn [] ∧
      ∃ e, (askBoth (.callMethod "getcontents")).2.control = .raise e ∧ e.kind = .attributeError :=
  ⟨⟨rfl, rfl⟩, _, rfl, rfl⟩

set_option maxRecDepth 4000 in
theorem entry_pending : (askBoth (.callMethod "getcontents")).1.control.isOutcome = false := rfl

set_option maxRecDepth 4000 in
/-- Counters have no `getcontents`, but the class lets its instance have an attribute of that name: the
one call gives a value where the other raises. -/
theorem entry_tells_apart :
    let s := compared.session.host.store
    let i := s.instanceAt 0
    let j := s.instanceAt 1
    let both := askBoth (.callMethod "getcontents")
    s.instances.get? 0 = some i ∧ s.instances.get? 1 = some j ∧ i.fields = j.fields ∧
      s.live i.type = .ok i.type ∧ s.live j.type = .ok j.type ∧ j.type.IsCounter ∧
      j.type.Bare [] i.type ∧
      ((both.1.after 5).SettledOn compared.stack ∧ (both.1.after 5).control = .give (.bool true)) ∧
      (both.2.SettledOn compared.stack ∧
        ∃ e, both.2.control = .raise e ∧ e.kind = .attributeError) ∧
      ¬ both.1.EndsAlike both.2 compared.stack 0 1 := by
  intro s i j both
  have hcounter : j.type.IsCounter := ⟨14, rfl⟩
  have hbare : j.type.Bare [] i.type :=
    .direct ⟨rfl, rfl, rfl, rfl, rfl⟩
      (show plainDecl.build i.type.id (some j.type) = .ok i.type from rfl)
  rw [stack_compared]
  refine ⟨rfl, rfl, rfl, rfl, rfl, hcounter, hbare, entry_called, name_refused, ?_⟩
  rintro ⟨n, hrun, hend, -⟩
  -- The one has ended before it takes a step, and the other has not.
  cases n with
  | zero => exact Bool.false_ne_true (entry_pending.symm.trans hend.1)
  | succ n => exact (hrun 0 (Nat.succ_pos n)).2 name_refused.1

end Config

end ObjectProtocol
