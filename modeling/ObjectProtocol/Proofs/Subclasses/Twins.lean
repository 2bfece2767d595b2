import ObjectProtocol.Proofs.Construction.Initializing
import ObjectProtocol.Proofs.Exceptions.Towers
import ObjectProtocol.Proofs.Subclasses.Alongside
import ObjectProtocol.Proofs.Subclasses.Bare

/-!
# Instances with the same fields

`Store.Twins` relates live instances with the same fields, the one of a type on which everything is found
where it is found on that of the other.  Operations answer alike on both, and calls of the types make such
instances of fresh ones.
-/

namespace ObjectProtocol

/-! ## Operations on instances with the same fields -/

/-- Live instances with the same fields, the one of a type that `Mimics` that of the other. -/
structure Store.Twins (s : Store) (ref ref' : Ref) : Prop where
  live : s.live (s.instanceAt ref).type = .ok (s.instanceAt ref).type
  live' : s.live (s.instanceAt ref').type = .ok (s.instanceAt ref').type
  mimics : (s.instanceAt ref).type.Mimics (s.instanceAt ref').type
  fields_eq : s.fieldsAt? ref = s.fieldsAt? ref'

namespace Store

variable {s : Store} {ref ref' : Ref}

theorem Twins.of_instances {i j : Instance} (hi : s.instances.get? ref = some i)
    (hj : s.instances.get? ref' = some j) (hlive : s.live i.type = .ok i.type)
    (hlive' : s.live j.type = .ok j.type) (hmimics : i.type.Mimics j.type)
    (hfields : i.fields = j.fields) : s.Twins ref ref' := by
  rw [← instanceAt_eq hi] at hlive hmimics
  rw [← instanceAt_eq hj] at hlive' hmimics
  refine ⟨hlive, hlive', hmimics, ?_⟩
  unfold fieldsAt?
  rw [hi, hj, Option.map_some, Option.map_some, hfields]

variable (h : s.Twins ref ref')
include h

theorem Twins.like : (s.instanceAt ref).Like (s.instanceAt ref') := (Mirrors.of_fields h.fields_eq).like

/-- Where a slot takes the length, or nothing does, `measure` is the same on both. -/
theorem Twins.agree_measure (hlength : (s.instanceAt ref').type.findSlot? (·.length) = none →
      (s.instanceAt ref').type.findMethod? "__len__" = none) :
    Agree Exception.kind (fun l l' => ∃ n, l = .known n ∧ l' = .known n) (s.measure (.object ref))
      (s.measure (.object ref')) := by
  unfold measure
  dsimp only
  rw [h.live, h.live']
  dsimp only
  rw [h.mimics.findSlot?_eq rfl, h.mimics.findMethod?_eq]
  cases hslot : (s.instanceAt ref').type.findSlot? (·.length) with
  | none =>
    -- Without a slot there is no method either, and both fail.
    rw [hlength hslot]
    exact .error rfl
  | some slot =>
    dsimp only
    rcases (slot.agree_run h.like).cases_eq with ⟨n, hn, hn'⟩ | ⟨f, f', hf, hf', hkind⟩
    · rw [hn, hn']
      exact .ok ⟨n.clampNonneg, rfl, rfl⟩
    · rw [hf, hf']
      exact .error hkind

theorem Twins.agree_contains (item : Value) :
    Agree Exception.kind Eq (s.contains (.object ref) item) (s.contains (.object ref') item) := by
  unfold contains containsWithin
  dsimp only
  rw [h.live, h.live']
  dsimp only
  rw [h.mimics.findSlot?_eq rfl]
  cases (s.instanceAt ref').type.findSlot? (·.contains) with
  | none => exact .error rfl
  | some slot => exact (slot.agree_run h.like s item _).toException

theorem Twins.agree_iter (hnext : (s.instanceAt ref').type.findSlot? (·.next) = none) (rt : Runtime) :
    Agree Exception.kind Eq (s.iter rt (.object ref)) (s.iter rt (.object ref')) := by
  unfold iter iterWithin
  dsimp only
  rw [h.live, h.live']
  dsimp only
  rw [h.mimics.findSlot?_eq rfl, h.mimics.findSlot?_eq rfl, hnext]
  cases (s.instanceAt ref').type.findSlot? (·.iter) with
  | none => exact .error rfl
  | some slot => exact (slot.agree_run h.like rt _).toException

theorem Twins.getAttr_cases {name : String}
    (hmember : (s.instanceAt ref').type.findMember? name = none)
    (hentry : (s.instanceAt ref).dict.bind (·.get? name) = none)
    (hentry' : (s.instanceAt ref').dict.bind (·.get? name) = none) :
    (∃ d, (s.instanceAt ref').type.findMethod? name = some d ∧
        s.getAttr (.object ref) name = .ok (.method (.object ref) d) ∧
        s.getAttr (.object ref') name = .ok (.method (.object ref') d)) ∨
      s.getAttr (.object ref) name = .error (s.noAttribute (.object ref) name) ∧
        s.getAttr (.object ref') name = .error (s.noAttribute (.object ref') name) := by
  have hattribute := Instance.attribute?_of_no_member
    ((h.mimics.findMember?_eq name).trans hmember) hentry
  have hattribute' := Instance.attribute?_of_no_member hmember hentry'
  rw [h.mimics.findMethod?_eq] at hattribute
  cases hmethod : (s.instanceAt ref').type.findMethod? name with
  | some d =>
    rw [hmethod] at hattribute hattribute'
    exact Or.inl ⟨d, rfl, getAttr_of_method h.live hattribute, getAttr_of_method h.live' hattribute'⟩
  | none =>
    rw [hmethod] at hattribute hattribute'
    exact Or.inr ⟨getAttr_of_none h.live hattribute, getAttr_of_none h.live' hattribute'⟩

end Store

theorem Store.instances_collect_iterator {s : Store} {rt : Runtime} {v : Value}
    (h : ∀ sketch, s.iter rt v = .ok sketch → ∃ it, sketch = .iterator it) :
    (s.collect rt v).2.instances = s.instances := by
  have hedited : s.EditedBy (fun _ e => ∃ ref it, e = .change (.iterator ref it))
      (s.collect rt v).2 := by
    refine editedBy_collect fun sketch hsketch s' r hnext => ?_
    obtain ⟨it, rfl⟩ := h sketch hsketch
    cases hnext
    exact ⟨_, _, rfl⟩
  refine hedited.instances_eq fun s e he => ?_
  obtain ⟨ref, it, rfl⟩ := he
  rfl

/-! ## Construction -/

namespace Config

variable {c : Config} {t base : TypeObject}

theorem mirrors_allocated {c' : Config} {ref : Ref}
    (hstore : c.session.host.store.Mirrors ref c'.session.host.store ref)
    (hlayout : t.own.layout = base.own.layout) (args : List Value)
    (href : c.session.host.store.instances.size = ref)
    (href' : c'.session.host.store.instances.size = ref) :
    (c.allocated t args).session.host.store.Mirrors ref
      (c'.allocated base args).session.host.store ref := by
  refine ⟨hstore.nextId_eq, hstore.lists_eq, hstore.dicts_eq, hstore.iterators_eq, ?_⟩
  have hfresh := get?_allocated c t args
  have hfresh' := get?_allocated c' base args
  rw [href] at hfresh
  rw [href'] at hfresh'
  unfold Store.fieldsAt?
  rw [hfresh, hfresh']
  unfold Instance.alloc
  rw [hlayout]
  rfl

theorem enteredAlike_setUp {h h' : Host} {ref ref' : Ref} (hmimics : t.Mimics base)
    (hbase : base.IsBox ∨ base.IsCounter) (hstore : h.store.Mirrors ref h'.store ref')
    {args : List Value} : EnteredAlike ref ref' (h.setUp t ref args) (h'.setUp base ref' args) := by
  have hinit {slot : InitSlot} (hslot : base.findMethod? "__init__" = none ∧
      base.findSlot? (·.init) = some slot) :
      t.findMethod? "__init__" = none ∧ t.findSlot? (·.init) = some slot := by
    rw [hmimics.findMethod?_eq, hmimics.findSlot?_eq rfl]
    exact hslot
  rcases hbase with hbox | hcounter
  · exact Host.enteredAlike_atomic hstore (hinit hbox.init) hbox.init rfl rfl
      (Sample.Box.agree_init hstore.like _ _ args)
  · exact Host.enteredAlike_atomic hstore (hinit hcounter.init) hcounter.init rfl rfl
      (Sample.Counter.agree_init hstore.like _ _ args)

/-- A call of the one type `EndsAlike` one of the other. -/
theorem endsAlike_construct {c' : Config} {below : List Frame} {args : List Value} {ref : Ref}
    (hmimics : t.Mimics base) (ht : t.own.kind ≠ .builtin) (hbase : base.IsBox ∨ base.IsCounter)
    (hcontrol : c.control = .call (.type t) args) (hcontrol' : c'.control = .call (.type base) args)
    (hstack : c.stack = below) (hstack' : c'.stack = below) (hdepth : c'.depth = c.depth)
    (hlimit : c'.limit = c.limit)
    (href : c.session.host.store.instances.size = ref)
    (href' : c'.session.host.store.instances.size = ref)
    (hstore : c.session.host.store.Mirrors ref c'.session.host.store ref) :
    c.EndsAlike c' below ref ref := by
  refine endsAlike_of_call hcontrol hcontrol' hstack hstack' hdepth hlimit hstore fun hlt => ?_
  have hready := mirrors_ready hstore
  have hroom : c.ready.depth < c.ready.limit := by rwa [depth_ready, limit_ready]
  have hroom' : c'.ready.depth < c'.ready.limit := by rwa [depth_ready, limit_ready, hdepth, hlimit]
  have hstacks : StacksAlike below c.ready.stack c'.ready.stack := by
    rw [c.stack_ready, c'.stack_ready, hstack, hstack']
    exact .refl
  -- The two refusals differ in the type's name only.
  have hrefusal := Host.refusal?_alike c.ready.session.host c'.ready.session.host ht
    (TypeObject.kind_of_sample hbase) (hmimics.findSlot?_eq rfl) args
  have hstep : c.step = c.ready.call (.type t) args := by
    rw [step_eq_advance, advance_of_call (c.control_ready.trans hcontrol)]
  have hstep' : c'.step = c'.ready.call (.type base) args := by
    rw [step_eq_advance, advance_of_call (c'.control_ready.trans hcontrol')]
  rw [← c.instances_ready] at href
  rw [← c'.instances_ready] at href'
  cases hrefused : c.ready.session.host.refusal? t args with
  -- Both start to initialize a fresh instance, at the same place and with the same fields.
  | none =>
    rw [hrefused] at hrefusal
    rw [hstep, hstep', call_type_eq hroom hrefused,
      call_type_eq hroom' (Option.map_eq_none_iff.1 hrefusal.symm), href, href']
    refine endsAlike_enter (enteredAlike_setUp hmimics hbase
      (mirrors_allocated hready hmimics.layout_eq args href href')) ?_
    rw [stack_allocated, stack_allocated, href, href']
    exact .cons (.initializer _) (.cons (.activation _ _) hstacks)
  | some e =>
    rw [hrefused] at hrefusal
    obtain ⟨e', hrefused', hkind⟩ := Option.map_eq_some_iff.1 hrefusal.symm
    rw [hstep, hstep', call_type_of_refusal hroom hrefused, call_type_of_refusal hroom' hrefused']
    exact endsAlike_of_stacksAlike (.cons (.activation _ _) hstacks) rfl rfl (.raise hkind.symm) hready

/-! ## Operations -/

variable {ref ref' : Ref}

theorem start_operate {op : ObjectOp} {operands : List Value} {request : Request} {store : Store}
    {control : Control}
    (hrun : op.run operands c.session.host.runtime c.session.host.store = (request, store))
    (hcontrol : request.control? = some control) : c.start (.operate (.object op) operands) =
      { c with control, session := c.session.setStore store } :=
  operate_of_control? (Op.run_object_of_eq hrun) hcontrol

theorem endsAlike_operate {op : ObjectOp} {operands operands' : List Value} {request request' : Request}
    {store store' : Store} {control control' : Control}
    (hrun : op.run operands c.session.host.runtime c.session.host.store = (request, store))
    (hrun' : op.run operands' c.session.host.runtime c.session.host.store = (request', store'))
    (hrequest : request.control? = some control) (hrequest' : request'.control? = some control')
    (hcontrol : control.Alike control') (hstore : store.Mirrors ref store' ref') :
    (c.start (.operate (.object op) operands)).EndsAlike
      (c.start (.operate (.object op) operands')) c.stack ref ref' := by
  rw [start_operate hrun hrequest, start_operate hrun' hrequest']
  exact .now hcontrol rfl rfl hstore

variable (h : c.session.host.store.Twins ref ref')
include h

theorem endsAlike_len
    (hlength : (c.session.host.store.instanceAt ref').type.findSlot? (·.length) = none →
      (c.session.host.store.instanceAt ref').type.findMethod? "__len__" = none) :
    (c.start (.operate (.object .len) [.object ref])).EndsAlike
      (c.start (.operate (.object .len) [.object ref'])) c.stack ref ref' := by
  have hmeasure := h.agree_measure hlength
  have hknown {v : Value} {n : NativeInt} (hv : c.session.host.store.measure v = .ok (.known n)) :
      ObjectOp.len.run [v] c.session.host.runtime c.session.host.store =
        (.value (.ofNative n), c.session.host.store) := by
    unfold ObjectOp.run
    dsimp only
    rw [hv]
  have hfailed {v : Value} {e : Exception} (hv : c.session.host.store.measure v = .error e) :
      ObjectOp.len.run [v] c.session.host.runtime c.session.host.store =
        (.raise e, c.session.host.store) := by
    unfold ObjectOp.run
    dsimp only
    rw [hv]
  generalize hx : c.session.host.store.measure (.object ref) = x at hmeasure
  generalize hy : c.session.host.store.measure (.object ref') = y at hmeasure
  -- The same length, or the same kind of failure.
  cases hmeasure with
  | ok hsame =>
    obtain ⟨n, rfl, rfl⟩ := hsame
    exact endsAlike_operate (hknown hx) (hknown hy) rfl rfl (.give _) (.of_fields h.fields_eq)
  | error hkind =>
    exact endsAlike_operate (hfailed hx) (hfailed hy) rfl rfl (.raise hkind) (.of_fields h.fields_eq)

theorem endsAlike_contains (item : Value) :
    (c.start (.operate (.object .contains) [.object ref, item])).EndsAlike
      (c.start (.operate (.object .contains) [.object ref', item])) c.stack ref ref' := by
  have hrun {v : Value} {x : Except Exception Bool} (hx : c.session.host.store.contains v item = x) :
      ObjectOp.contains.run [v, item] c.session.host.runtime c.session.host.store =
        Request.ofResult (x.map .bool) c.session.host.store := by
    unfold ObjectOp.run
    dsimp only
    rw [hx]
  rcases (h.agree_contains item).cases_eq with ⟨b, hx, hy⟩ | ⟨e, e', hx, hy, hkind⟩
  · exact endsAlike_operate (hrun hx) (hrun hy) rfl rfl (.give _) (.of_fields h.fields_eq)
  · exact endsAlike_operate (hrun hx) (hrun hy) rfl rfl (.raise hkind) (.of_fields h.fields_eq)

theorem endsAlike_collect
    (hnext : (c.session.host.store.instanceAt ref').type.findSlot? (·.next) = none)
    (hiterator : ∀ sketch, c.session.host.store.iter c.session.host.runtime (.object ref') = .ok sketch →
      ∃ it, sketch = .iterator it) :
    (c.start (.operate (.object .collect) [.object ref])).EndsAlike
      (c.start (.operate (.object .collect) [.object ref'])) c.stack ref ref' := by
  have hmade {v : Value} {items : Array Value} {s : Store}
      (hv : c.session.host.store.collect c.session.host.runtime v = (.ok items, s)) :
      ObjectOp.collect.run [v] c.session.host.runtime c.session.host.store =
        Request.made (s.newList items) := by
    unfold ObjectOp.run
    dsimp only
    rw [hv]
  have hraised {v : Value} {e : Exception} {s : Store}
      (hv : c.session.host.store.collect c.session.host.runtime v = (.error e, s)) :
      ObjectOp.collect.run [v] c.session.host.runtime c.session.host.store = (.raise e, s) := by
    unfold ObjectOp.run
    dsimp only
    rw [hv]
  rcases (h.agree_iter hnext c.session.host.runtime).cases_eq with
    ⟨sketch, hx, hy⟩ | ⟨e, e', hx, hy, hkind⟩
  · -- From the iterator on it is the same walk.
    have hsame : c.session.host.store.collect c.session.host.runtime (.object ref) =
        c.session.host.store.collect c.session.host.runtime (.object ref') := by
      unfold Store.collect
      rw [hx, hy]
    have hinstances := Store.instances_collect_iterator hiterator
    generalize hwalk : c.session.host.store.collect c.session.host.runtime (.object ref') = walk
      at hsame hinstances
    obtain ⟨x, s⟩ := walk
    have hfields : s.fieldsAt? ref = s.fieldsAt? ref' := by
      unfold Store.fieldsAt?
      dsimp only at hinstances
      rw [hinstances]
      exact h.fields_eq
    cases x with
    | ok items =>
      exact endsAlike_operate (hmade hsame) (hmade hwalk) rfl rfl (.give _) (.of_fields hfields)
    | error e =>
      exact endsAlike_operate (hraised hsame) (hraised hwalk) rfl rfl (.raise rfl) (.of_fields hfields)
  · have hfailed {v : Value} {e : Exception}
        (hv : c.session.host.store.iter c.session.host.runtime v = .error e) :
        c.session.host.store.collect c.session.host.runtime v = (.error e, c.session.host.store) := by
      unfold Store.collect
      rw [hv]
    exact endsAlike_operate (hraised (hfailed hx)) (hraised (hfailed hy)) rfl rfl (.raise hkind)
      (.of_fields h.fields_eq)

theorem endsAlike_callMethod {name : String}
    (hmember : (c.session.host.store.instanceAt ref').type.findMember? name = none)
    (hlocal : ∀ d, (c.session.host.store.instanceAt ref').type.findMethod? name = some d →
      ∃ r, d.method.body = .native r ∧ r.isLocal = true)
    (hentry : (c.session.host.store.instanceAt ref).dict.bind (·.get? name) = none)
    (hentry' : (c.session.host.store.instanceAt ref').dict.bind (·.get? name) = none)
    (args : List Value) :
    (c.start (.operate (.object (.callMethod name)) (.object ref :: args))).EndsAlike
      (c.start (.operate (.object (.callMethod name)) (.object ref' :: args))) c.stack ref ref' := by
  rcases h.getAttr_cases hmember hentry hentry' with ⟨d, hd, hmethod, hmethod'⟩ | ⟨hnone, hnone'⟩
  · -- The bound method is a new object; its call comes next.
    have hstart {ref : Ref} (hread : c.session.host.store.getAttr (.object ref) name =
        .ok (.method (.object ref) d)) :
        c.start (.operate (.object (.callMethod name)) (.object ref :: args)) =
          { c with
            control := .call (.method c.session.host.store.nextId (.object ref) d) args
            session := c.session.setStore (c.session.host.store.newMethod (.object ref) d).2 } := by
      have hrun : (ObjectOp.callMethod name).run (.object ref :: args) c.session.host.runtime
          c.session.host.store = (.call (.method c.session.host.store.nextId (.object ref) d) args,
            (c.session.host.store.newMethod (.object ref) d).2) := by
        unfold ObjectOp.run
        dsimp only
        rw [hread]
        rfl
      exact start_operate hrun rfl
    obtain ⟨r, hbody, hr⟩ := hlocal d hd
    rw [hstart hmethod, hstart hmethod']
    exact endsAlike_call_method rfl rfl rfl rfl rfl rfl (.of_fields h.fields_eq) hbody hr
  · have hraised {ref : Ref} {e : Exception}
        (hread : c.session.host.store.getAttr (.object ref) name = .error e) :
        (ObjectOp.callMethod name).run (.object ref :: args) c.session.host.runtime
          c.session.host.store = (.raise e, c.session.host.store) := by
      unfold ObjectOp.run
      dsimp only
      rw [hread]
    exact endsAlike_operate (hraised hnone) (hraised hnone') rfl rfl (.raise rfl)
      (.of_fields h.fields_eq)

end Config

end ObjectProtocol
