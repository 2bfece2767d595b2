import ObjectProtocol.Proofs.Growth.Stores
import ObjectProtocol.Proofs.Operations.Steps

/-!
# Growing sessions

Operations release no type, identities are handed out in order, and the registry only gets longer, by types
whose identities are new.  `Host.GrowsTo` and `Session.GrowsTo` say so beside `Store.GrowsTo`; they hold of
every operation and call, and of a step unless it releases a type of an earlier runtime.
-/

namespace ObjectProtocol

/-! ## Hosts -/

namespace Host

/-- The store grows, and `Registry.log` gets longer, if anything, by types with fresh identities. -/
structure GrowsTo (h h' : Host) : Prop where
  store : h.store.GrowsTo h'.store
  registry : h.runtime.registry.log <:+ h'.runtime.registry.log
  fresh : ∀ t ∈ h'.runtime.registry.log, t ∈ h.runtime.registry.log ∨
    h.store.nextId ≤ t.id ∧ t.id < h'.store.nextId

variable {h h' h'' : Host}

theorem GrowsTo.of_registry_eq (hs : h.store.GrowsTo h'.store)
    (hr : h'.runtime.registry = h.runtime.registry) : h.GrowsTo h' :=
  ⟨hs, hr ▸ List.suffix_rfl, fun _ ht => Or.inl (hr ▸ ht)⟩

theorem GrowsTo.refl (h : Host) : h.GrowsTo h := .of_registry_eq (.refl _) rfl

theorem GrowsTo.trans (hh : h.GrowsTo h') (hh' : h'.GrowsTo h'') : h.GrowsTo h'' := by
  refine ⟨hh.store.trans hh'.store, hh.registry.trans hh'.registry, fun t ht => ?_⟩
  rcases hh'.fresh t ht with ht | ⟨hlow, hhigh⟩
  · refine (hh.fresh t ht).imp id fun hfresh => ⟨hfresh.1, ?_⟩
    exact Nat.lt_of_lt_of_le hfresh.2 hh'.store.nextId_le
  · exact Or.inr ⟨Nat.le_trans hh.store.nextId_le hlow, hhigh⟩

theorem GrowsTo.of_store (hs : h.store.GrowsTo h'.store) (hd : h.runtime.DrawnTo h'.runtime) :
    h.GrowsTo h' := .of_registry_eq hs hd.registry_eq

theorem growsTo_runMethod (h : Host) (d : Descriptor) (receiver : Value) (args : List Value) :
    h.GrowsTo (h.runMethod d receiver args).2 :=
  .of_store ((h.editedBy_runMethod d receiver args).growsTo fun _ _ h => h.keepsShape)
    (h.drawnTo_runMethod d receiver args)

theorem growsTo_runFunction (h : Host) (f : Function) (args : List Value) :
    h.GrowsTo (h.runFunction f args).2 :=
  .of_store ((h.editedBy_runFunction (W := fun _ _ => False) f args).growsTo fun _ _ => False.elim)
    (h.drawnTo_runFunction f args)

theorem growsTo_newInstance (h : Host) (t : TypeObject) : h.GrowsTo (h.newInstance t).2 :=
  .of_registry_eq (h.store.growsTo_newInstance t) rfl

theorem growsTo_setUp (h : Host) (t : TypeObject) (ref : Ref) (args : List Value) :
    h.GrowsTo (h.setUp t ref args).2 :=
  .of_store ((h.editedBy_setUp t ref args).growsTo fun _ _ h => h.keepsShape)
    (h.drawnTo_setUp t ref args)

theorem growsTo_build (h : Host) {sketch : Sketch} (hsketch : sketch.Fresh) :
    h.GrowsTo (h.build sketch).2 :=
  .of_registry_eq ((hsketch.editedBy (W := fun _ _ => False) h.store).growsTo fun _ _ => False.elim) rfl

theorem Registers.growsTo {ts : List TypeObject} (hh : h.Registers ts h') :
    h.GrowsTo h' := by
  obtain ⟨id, hid⟩ := hh.store_eq
  refine ⟨.of_le hh.nextId_le (by rw [hid]) (by rw [hid]), ?_, fun t ht => ?_⟩
  · rw [hh.log_eq]
    exact List.suffix_append _ _
  · rw [hh.log_eq, List.mem_append, List.mem_reverse] at ht
    exact ht.symm.imp (fun ht => ht) (hh.fresh t)

theorem Provided.growsTo (hh : h.Provided h') : h.GrowsTo h' := by
  cases hh with
  | same => exact .refl h
  | build hsketch => exact h.growsTo_build hsketch
  | registers hregisters => exact hregisters.growsTo

end Host

/-! ## Sessions -/

namespace Session

/-- The host grows, and no type of an earlier runtime joins or leaves `lingering`. -/
structure GrowsTo (s s' : Session) : Prop where
  host : s.host.GrowsTo s'.host
  lingering_eq : s'.lingering = s.lingering

variable {s s' s'' : Session}

theorem GrowsTo.refl (s : Session) : s.GrowsTo s := ⟨.refl _, rfl⟩

theorem GrowsTo.trans (h : s.GrowsTo s') (h' : s'.GrowsTo s'') : s.GrowsTo s'' :=
  ⟨h.host.trans h'.host, h'.lingering_eq.trans h.lingering_eq⟩

theorem growsTo_loadSample (s : Session) : s.GrowsTo s.loadSample.2 := by
  obtain ⟨ts, hregisters⟩ := s.registers_loadSample
  refine ⟨hregisters.growsTo, ?_⟩
  unfold loadSample
  split <;> rfl

theorem growsTo_equip (s : Session) (setup : Setup) : s.GrowsTo (s.equip setup) := by
  unfold equip
  split
  · exact s.growsTo_loadSample
  · exact .refl s

end Session

theorem Op.growsTo_run (op : Op Code) (operands : List Value) (s : Session) :
    s.GrowsTo (op.run operands s).2 := by
  -- The store grows by what `editedBy_run` says; what is left is the registry and the lingering types.
  have hstore : s.host.store.GrowsTo (op.run operands s).2.host.store :=
    (op.editedBy_run operands s).growsTo fun _ _ h => h.keepsShape
  cases op with
  | object op => exact ⟨.of_registry_eq hstore rfl, rfl⟩
  | draw op =>
    revert hstore
    unfold Op.run
    dsimp only
    split
    · exact fun hstore => ⟨.of_store hstore (op.drawnTo_run s.host), rfl⟩
    · exact fun hstore => .refl s
  | declare d => exact ⟨(s.host.registers_declare d operands).growsTo, rfl⟩
  | closure name body => exact ⟨.of_registry_eq hstore rfl, rfl⟩
  | session op =>
    have hserves := op.serves_run operands s
    exact ⟨hserves.host.growsTo, hserves.lingering_eq⟩

/-! ## Steps -/

namespace Config

variable {c : Config}

theorem growsTo_advance (c : Config) : c.session.GrowsTo c.advance.session := by
  have hcounted : c.session.GrowsTo c.counted := ⟨.of_registry_eq (.refl _) rfl, rfl⟩
  have hmethod (s : Session) (d : Descriptor) (receiver : Value) (args : List Value) :
      s.GrowsTo (s.withHost (s.host.runMethod d receiver args).2) :=
    ⟨s.host.growsTo_runMethod d receiver args, rfl⟩
  -- One case for each effect that a step can have on the session.
  have heffect := c.effect_advance
  generalize c.advance.session = s' at heffect ⊢
  cases heffect with
  | count depth => exact ⟨.of_registry_eq (.refl _) rfl, rfl⟩
  | make sketch hsketch => exact ⟨c.session.host.growsTo_build hsketch, rfl⟩
  | makeDict m => exact ⟨.of_registry_eq (.of_eq rfl rfl rfl) rfl, rfl⟩
  | operate hperforms => exact Op.growsTo_run _ _ _
  | measure hperforms _ => exact (Op.growsTo_run _ _ _).trans (hmethod _ _ _ _)
  | function _ => exact hcounted.trans ⟨c.counted.host.growsTo_runFunction _ _, rfl⟩
  | method _ | object _ _ => exact hcounted.trans (hmethod _ _ _ _)
  | @create t args _ =>
    have hmade : c.session.GrowsTo (c.counted.withHost (c.counted.host.newInstance t).2) :=
      hcounted.trans ⟨c.counted.host.growsTo_newInstance t, rfl⟩
    exact hmade.trans ⟨Host.growsTo_setUp _ t _ args, rfl⟩

end Config

/-! ## Restarts -/

namespace Session

theorem instances_restart (s : Session) (options : Options) :
    (s.restart options).host.store.instances = s.host.store.instances := by
  obtain ⟨nextId, released, hrestart⟩ := s.exists_store_restart options
  rw [hrestart]

theorem keepsShapes_restart (s : Session) (setup : Setup) :
    s.host.store.KeepsShapes ((s.restart setup.options).equip setup).host.store :=
  (Store.KeepsShapes.of_instances_eq (s.instances_restart setup.options)).trans
    (growsTo_equip _ setup).host.store.shapes

end Session

namespace Config

theorem instances_ready (c : Config) :
    c.ready.session.host.store.instances = c.session.host.store.instances := by
  obtain ⟨released, hready⟩ := c.exists_store_ready
  rw [hready]

theorem keepsShapes_step (c : Config) :
    c.session.host.store.KeepsShapes c.step.session.host.store := by
  have hready : c.session.host.store.KeepsShapes c.ready.session.host.store :=
    .of_instances_eq c.instances_ready
  rw [step_eq_advance]
  exact hready.trans c.ready.growsTo_advance.host.store.shapes

/-- While `lingering` is empty, no step releases a type. -/
theorem growsTo_step (c : Config) (h : c.session.lingering = []) :
    c.session.GrowsTo c.step.session := by
  have hstep : c.step = c.advance := by
    unfold step
    rw [h, List.isEmpty_nil, Bool.not_true, Bool.false_and, if_neg Bool.false_ne_true]
  rw [hstep]
  exact c.growsTo_advance

/-- Whatever a configuration `LeadsTo`, all objects are still there, with their types and their
dictionaries. -/
theorem LeadsTo.keepsShapes {c c' : Config} (h : c.LeadsTo c') :
    c.session.host.store.KeepsShapes c'.session.host.store := by
  induction h with
  | refl => exact .of_instances_eq rfl
  | step h ih => exact ih.trans (keepsShapes_step _)
  | next e h hend ih => exact ih
  | restart setup e h hend ih => exact ih.trans (Session.keepsShapes_restart _ setup)

theorem LeadsTo.keepsTypes {c c' : Config} (h : c.LeadsTo c') :
    c.session.host.store.KeepsTypes c'.session.host.store := h.keepsShapes.types

end Config

/-! ## Shapes -/

/-- Every instance has the shape of `Instance.alloc` of its type. -/
def Store.Allocated (s : Store) : Prop :=
  ∀ ref i, s.instances.get? ref = some i → (Instance.alloc i.type).SameShape i

namespace Store

variable {s s' : Store}

theorem Allocated.growsTo (h : s.Allocated) (hs : s.GrowsTo s') : s'.Allocated := by
  intro ref i hi
  rcases hs.accounted ref i hi with ⟨j, hj, hji⟩ | hfresh
  · have hbefore := h ref j hj
    rw [← hji.type_eq] at hbefore
    exact hbefore.trans hji
  · exact hfresh

theorem Allocated.of_instances_eq (h : s.Allocated) (hs : s'.instances = s.instances) :
    s'.Allocated := fun ref i hi => h ref i (hs ▸ hi)

end Store

namespace Config

variable {c : Config}

theorem Reachable.allocated (h : c.Reachable) : c.session.host.store.Allocated := by
  induction h with
  | start setup e =>
    have hnone : (Session.start setup.options).host.store.Allocated := fun ref i hi => by contradiction
    exact hnone.growsTo (Session.growsTo_equip _ setup).host.store
  | @step c _ ih =>
    rw [step_eq_advance]
    exact (ih.of_instances_eq c.instances_ready).growsTo c.ready.growsTo_advance.host.store
  | next e _ _ ih => exact ih
  | restart setup e _ _ ih =>
    have hrestart := ih.of_instances_eq (Session.instances_restart _ setup.options)
    exact hrestart.growsTo (Session.growsTo_equip _ setup).host.store

theorem Reachable.isSome_dict (h : c.Reachable) {ref : Ref} {i : Instance}
    (hi : c.session.host.store.instances.get? ref = some i) : i.dict.isSome = i.type.own.hasDict := by
  rw [(h.allocated ref i hi).isSome_eq]
  unfold Instance.alloc
  dsimp only
  cases i.type.own.hasDict <;> rfl

end Config

end ObjectProtocol
