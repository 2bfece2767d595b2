import ObjectProtocol.Proofs.Sample.FirstField

/-!
# Runs without other native code

A run may begin without the sample module, load it later or load it again, and bind its methods to any
receiver, as long as the module is the only native code.  Then nothing fits together as it does in the
runs of `SampleRun`; but every type still is one of the module or derives from one, native methods are
those of the module, and where there is a counter there is a type for its iterators.  So a step keeps
the first field of every instance, unless it is a call of a type, which makes an instance.
-/

namespace ObjectProtocol

/-! ## The realm of a run -/

namespace Sample

/-- A type with `IterSlot.counter` comes with a type under `counterIteratorName`. -/
def Backed (log : List TypeObject) (t : TypeObject) : Prop :=
  ∀ layer ∈ t.chain, layer.slots.iter = some .counter → ∃ u ∈ log, u.name = counterIteratorName

/-- What there is in a run whose registry grows into `log`. -/
def plainRealm (log : List TypeObject) : Realm where
  type t := t.Sampled ∧ Backed log t
  method _ d := d.method.SampleOnly

variable {log : List TypeObject}

theorem hasBuiltin_plainRealm : (plainRealm log).HasBuiltin := by
  intro id name
  refine ⟨.builtin id name, fun layer hlayer hslot => ?_⟩
  obtain rfl : layer = { id, name, kind := .builtin } := List.mem_singleton.1 hlayer
  contradiction

theorem hereditary_plainRealm : Hereditary (plainRealm log) where
  absent := hasBuiltin_plainRealm 0 ""
  base t b h hb := by
    refine ⟨h.1.base? hb, fun layer hlayer => h.2 layer ?_⟩
    obtain ⟨own, bases⟩ := t
    cases bases with
    | nil => contradiction
    | cons first rest =>
      cases hb
      exact List.mem_cons_of_mem _ hlayer

theorem hasSample_plainRealm (h : ∃ u ∈ log, u.name = counterIteratorName) :
    (plainRealm log).HasSample where
  builds d hd id t hbuild := by
    have hsampled := (hasSample_realm {}).builds d hd id t hbuild
    exact ⟨hsampled, fun _ _ _ => h⟩
  functions _ _ _ := trivial

theorem builds_plainRealm {d : TypeDecl Code} (hd : d.HostOnly) (id : Identity) :
    (plainRealm log).Builds d id := by
  intro base t hbase hbuild
  refine ⟨.hosted hd (fun b hb => (hbase b hb).1) hbuild, fun layer hlayer hslot => ?_⟩
  rw [TypeDecl.chain_of_build hbuild, List.mem_cons] at hlayer
  rcases hlayer with rfl | hlayer
  · -- The layer of the type itself has no slots.
    rw [TypeDecl.eq_of_build hbuild] at hslot
    dsimp only at hslot
    rw [hd.2] at hslot
    contradiction
  · cases base with
    | none => contradiction
    | some b => exact (hbase b rfl).2 layer hlayer hslot

end Sample

theorem TypeObject.Sampled.sampleOnly_of_findMethod? {t : TypeObject} (h : t.Sampled)
    {name : String} {d : Descriptor} (hd : t.findMethod? name = some d) : d.method.SampleOnly := by
  intro r hbody
  obtain ⟨decl, hdecl, hmem, -⟩ := h.exists_decl_of_findMethod? hd hbody
  exact Sample.isSample_of_mem_nativeDecls hdecl hmem r hbody

/-- The operation brings no native code but that of the sample module. It may `bind` methods to any
receiver. -/
def Op.isSampleOnly : Op Code → Bool
  | .object (.bind _) => true
  | op => op.isHostOnly

theorem Op.allowed_of_isSampleOnly {op : Op Code} (hop : op.isSampleOnly = true)
    {log : List TypeObject} (s : Session) {operands : List Value}
    (hv : ∀ v ∈ operands, v.Within (Sample.plainRealm log))
    (hload : op = .session .loadSample → ∃ u ∈ log, u.name = Sample.counterIteratorName) :
    op.Allowed (Sample.plainRealm log) s operands := by
  cases op with
  | object op =>
    show op.Allowed (Sample.plainRealm log) operands
    unfold ObjectOp.Allowed
    split
    · -- Binding finds the method on a type of the log.
      rename_i name receiver t
      have ht := hv (.type t) (List.mem_cons_of_mem _ List.mem_cons_self)
      exact fun d hd => ht.of_type.1.sampleOnly_of_findMethod? hd
    · exact trivial
  | draw op => exact trivial
  | declare d => exact Sample.builds_plainRealm (of_decide_eq_true hop) _
  | closure name body => exact fun _ => trivial
  | session op =>
    cases op with
    | loadSample => exact Sample.hasSample_plainRealm (hload rfl)
    | makeModule => exact fun _ _ _ _ _ => trivial
    | getVariable | setVariable | dropVariable | moduleAttr | moduleGet | moduleInfo =>
      exact trivial

namespace Store

variable {s : Store} {log : List TypeObject}

theorem Within.binds (h : s.Within (Sample.plainRealm log)) : s.Binds (Sample.plainRealm log) := by
  intro ref name d hattribute
  exact (h.instances ref).type.1.sampleOnly_of_findMethod?
    (Instance.findMethod?_of_attribute? hattribute)

theorem Within.guarded (h : s.Within (Sample.plainRealm log)) (ref : Ref) :
    (s.instanceAt ref).type.Guarded := by
  have hsampled := (h.instances ref).type.1
  refine ⟨?_, fun name d hd => hsampled.sampleOnly_of_findMethod? hd⟩
  cases hslot : (s.instanceAt ref).type.findSlot? (·.next) with
  | none => rfl
  | some slot =>
    obtain ⟨d, hd, hpick, -⟩ := hsampled.exists_decl_of_findSlot? rfl hslot
    rw [Sample.next_eq_none hd] at hpick
    contradiction

end Store

/-! ## Runs -/

namespace Config

/-- What a configuration comes to without a restart, when every operation `isSampleOnly`. -/
inductive Continues (c : Config) : Config → Prop
  | refl : Continues c c
  | step {c' : Config} : Continues c c' → (∀ op ∈ c'.operation?, op.isSampleOnly = true) →
    Continues c c'.step
  | next {c' : Config} (e : Expr) : Continues c c' → c'.SettledOn [] →
    Continues c { control := .eval e, session := c'.session }

/-- The configurations that a new session `Continues` to, with the sample module or without. -/
def PlainRun (c : Config) : Prop :=
  ∃ setup e, Continues { control := .eval e, session := .ofSetup setup } c

variable {c c' : Config}

theorem PlainRun.continues (h : c.PlainRun) (h' : c.Continues c') : c'.PlainRun := by
  obtain ⟨setup, e, hrun⟩ := h
  refine ⟨setup, e, ?_⟩
  induction h' with
  | refl => exact hrun
  | step _ hop ih => exact ih.step hop
  | next e _ hend ih => exact ih.next e hend

theorem Continues.after (h : c.Continues c') (n : Nat)
    (hop : ∀ k < n, ∀ op ∈ (c'.after k).operation?, op.isSampleOnly = true) :
    c.Continues (c'.after n) := by
  induction n with
  | zero => exact h
  | succ n ih =>
    exact (ih fun k hk => hop k (Nat.lt_succ_of_lt hk)).step (hop n (Nat.lt_succ_self n))

/-- All that the run holds is `Within` the `plainRealm` of every log that its registry grows into, and
`lingering` is empty. -/
structure Plain (c : Config) : Prop where
  within : ∀ log, c.session.host.runtime.registry.log <:+ log → c.Within (Sample.plainRealm log)
  released_eq : c.session.host.store.released = []
  lingering_eq : c.session.lingering = []

theorem Performs.registered_of_loadSample {rest : List Frame}
    (h : c.Performs (.session .loadSample) [] rest) :
    ∃ u ∈ c.advance.session.host.runtime.registry.log, u.name = Sample.counterIteratorName := by
  obtain ⟨m, h', hload, -⟩ := Sample.exists_load c.session.host
  have hsession : c.advance.session = c.session.loadSample.2 := by
    rw [h.advance_eq]
    unfold operate onSession Op.run SessionOp.run Session.loadSample
    dsimp only
    rw [hload]
  rw [hsession]
  obtain ⟨u, hu⟩ := Sample.registered_loadSample c.session
  exact ⟨u, Registry.mem_of_named? hu⟩

theorem Within.advance_of_loadSample {P : Realm} (h : c.Within P) {v : Value}
    {operands : List Value} {rest : List Frame}
    (hperforms : c.Performs (.session .loadSample) (v :: operands) rest) : c.advance.Within P := by
  rw [hperforms.advance_eq]
  exact (h.below_performs hperforms).silent rfl

theorem Plain.step (h : c.Plain) (hop : ∀ op ∈ c.operation?, op.isSampleOnly = true) :
    c.step.Plain := by
  have hready := ready_eq h.lingering_eq
  have hgrows := c.growsTo_step h.lingering_eq
  refine ⟨fun log hlog => ?_, ?_, ?_⟩
  · have hwithin := h.within log (hgrows.host.registry.trans hlog)
    by_cases hmalformed : ∃ v operands rest,
        c.Performs (.session .loadSample) (v :: operands) rest
    · -- Given operands, loading is malformed and registers nothing, so the realm need not have the
      -- sample.
      obtain ⟨v, operands, rest, hperforms⟩ := hmalformed
      rw [step_eq_advance, hready]
      exact hwithin.advance_of_loadSample hperforms
    · refine hwithin.step Sample.hereditary_plainRealm ?_ ?_
      · rw [hready]
        exact hwithin.session.host.store.binds
      · rw [hready]
        intro op operands rest hperforms
        refine Op.allowed_of_isSampleOnly (hop op hperforms.operation?_eq) _
          (hwithin.of_performs hperforms) ?_
        rintro rfl
        cases operands with
        | nil =>
          obtain ⟨u, hu, hname⟩ := hperforms.registered_of_loadSample
          -- Loading has registered the iterator type, and the later log still has it.
          rw [step_eq_advance, hready] at hlog
          exact ⟨u, hlog.subset hu, hname⟩
        | cons v operands => exact absurd ⟨v, operands, rest, hperforms⟩ hmalformed
  · rw [hgrows.host.store.released_eq]
    exact h.released_eq
  · rw [hgrows.lingering_eq]
    exact h.lingering_eq

theorem plain_start (setup : Setup) (e : Expr) :
    Plain { control := .eval e, session := .ofSetup setup } := by
  have hgrows := (Session.start setup.options).growsTo_loadSample
  have hstart (log : List TypeObject) :
      (Session.start setup.options).Within (Sample.plainRealm log) :=
    Session.within_start Sample.hereditary_plainRealm (Sample.hasBuiltin_plainRealm.typeObject 0)
      setup.options
  unfold Session.ofSetup Session.equip
  split
  · refine ⟨fun log hlog => ?_, hgrows.host.store.released_eq, hgrows.lingering_eq⟩
    obtain ⟨u, hu⟩ := Sample.registered_loadSample (Session.start setup.options)
    obtain ⟨hmem, hname⟩ := Registry.mem_of_named? hu
    have hloaded := (hstart log).loadSample
      (Sample.hasSample_plainRealm ⟨u, hlog.subset hmem, hname⟩)
    exact within_begin hloaded.2 e
  · exact ⟨fun log _ => within_begin (hstart log) e, rfl, rfl⟩

theorem Continues.plain (h : c.Continues c') (hc : c.Plain) : c'.Plain := by
  induction h with
  | refl => exact hc
  | step _ hop ih => exact ih.step hop
  | next e _ _ ih =>
    exact ⟨fun log hlog => within_begin (ih.within log hlog).session e, ih.released_eq,
      ih.lingering_eq⟩

theorem PlainRun.plain (h : c.PlainRun) : c.Plain := by
  obtain ⟨setup, e, hrun⟩ := h
  exact hrun.plain (plain_start setup e)

/-! ## First fields -/

theorem Plain.not_overwrites (h : c.Plain) (hop : ∀ op ∈ c.operation?, op.isSampleOnly = true) (ref : Ref) :
    ¬ c.Overwrites ref := by
  intro hwrites
  cases hwrites with
  | @member op operands rest hperforms hwrites =>
    have hhost := hop _ hperforms.operation?_eq
    cases op <;> contradiction
  | @method id d args r hcontrol hbody hr =>
    have htarget := (h.within _ List.suffix_rfl).control (.method id (.object ref) d)
      (by rw [hcontrol]; exact List.mem_cons_self)
    rw [MethodRoutine.overwrites_of_isSample (htarget.of_method.2 r hbody)] at hr
    contradiction

/-- `step` keeps the first field of every instance; a call of a type adds one. -/
theorem Plain.keepsFirst_step (h : c.Plain) (hop : ∀ op ∈ c.operation?, op.isSampleOnly = true) :
    c.session.host.store.KeepsFirst c.step.session.host.store ∨
      ∃ t args, c.control = .call (.type t) args ∧
        c.session.host.store.Adds t c.step.session.host.store := by
  have hstore := (h.within _ List.suffix_rfl).session.host.store
  have hkept : c.session.host.store.Keeps c.advance.session.host.store :=
    fun ref => keepsAt_advance (hstore.guarded ref) (h.not_overwrites hop ref)
  rw [step_eq_advance, ready_eq h.lingering_eq]
  rcases c.edits_advance with hedited | ⟨t, args, hcontrol, hedited⟩
  · exact Or.inl ⟨hedited.size_eq, hkept⟩
  · -- The instance that is being initialized is the only one whose fields may change.
    have hnew : (c.session.host.store.newInstance (.alloc t)).2.instances.get?
        c.session.host.store.instances.size = some (.alloc t) := by
      show (c.session.host.store.instances.push (.alloc t)).get? _ = _
      rw [Heap.get?_push, if_pos rfl]
    have hgrows := hedited.growsTo fun _ _ hinitializes => hinitializes.keepsShape
    exact Or.inr ⟨t, args, hcontrol, hedited.size_eq.trans (Heap.size_push _ _), hgrows.types _ _ hnew,
      hkept⟩

/-- Once an instance has been made, its first field stays, unless its type `Opens` it. -/
theorem Continues.keeps (h : c.Continues c') (hc : c.Plain) :
    c.session.host.store.Keeps c'.session.host.store := by
  induction h with
  | refl => exact .refl _
  | step h hop ih =>
    rcases (h.plain hc).keepsFirst_step hop with hkeeps | ⟨t, args, -, hadds⟩
    · exact ih.trans hkeeps.kept
    · exact ih.trans hadds.kept
  | next e h hend ih => exact ih

end Config

end ObjectProtocol
