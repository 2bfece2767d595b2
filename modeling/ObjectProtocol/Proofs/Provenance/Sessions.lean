import ObjectProtocol.Proofs.Provenance.Routines
import ObjectProtocol.Proofs.Run

/-!
# Registration and sessions

Only a registration brings a type about that was not there before, and only host code that makes a
closure, or a module that is made, brings a function about.  `Op.Allowed` says of an operation that what
it makes is in the realm; then the session stays within the realm.
-/

namespace ObjectProtocol

/-- What the declaration builds over a base in the realm, with this identity, is in the realm. -/
def Realm.Builds (P : Realm) (d : TypeDecl Code) (id : Identity) : Prop :=
  ∀ (base : Option TypeObject) (t : TypeObject),
    (∀ b, base = some b → P.type b) → d.build id base = .ok t → P.type t

/-- The types and functions of `Sample.load` are in the realm. -/
structure Realm.HasSample (P : Realm) : Prop where
  builds : ∀ d ∈ [Sample.boxDecl, Sample.counterIteratorDecl, Sample.counterDecl],
    ∀ (id : Identity) (t : TypeObject), d.build id none = .ok t → P.type t
  functions : ∀ f ∈ Sample.functions, ∀ id, P.function ⟨id, f.1, .native f.2.1 (.sample f.2.2)⟩

variable {P : Realm}

/-! ## Registration -/

namespace Host

variable {h h' : Host} {d : TypeDecl Code} {base : Option TypeObject} {t : TypeObject}

theorem register_eq_ok_iff : h.register d base = .ok (t, h') ↔
    d.build h.store.nextId base = .ok t ∧
      h' = { runtime := { h.runtime with registry := h.runtime.registry.insert t }
             store := h.store.fresh.2 } := by
  unfold register Registry.register
  cases d.build h.store.nextId base with
  | error f => simp [Except.map]
  | ok u =>
    simp only [Except.map, Except.ok.injEq, Prod.mk.injEq]
    constructor
    · rintro ⟨rfl, rfl⟩
      exact ⟨rfl, rfl⟩
    · rintro ⟨rfl, rfl⟩
      exact ⟨rfl, rfl⟩

theorem log_of_register (heq : h.register d base = .ok (t, h')) :
    h'.runtime.registry.log = t :: h.runtime.registry.log := by
  obtain ⟨-, rfl⟩ := register_eq_ok_iff.1 heq
  rfl

theorem build_of_register (heq : h.register d base = .ok (t, h')) :
    d.build h.store.nextId base = .ok t := (register_eq_ok_iff.1 heq).1

theorem Within.register (hh : h.Within P) (heq : h.register d base = .ok (t, h')) (ht : P.type t) :
    h'.Within P := by
  obtain ⟨-, rfl⟩ := register_eq_ok_iff.1 heq
  exact ⟨⟨hh.runtime.builtin, List.forall_mem_cons.2 ⟨ht, hh.runtime.registered⟩⟩, hh.store.fresh⟩

theorem Within.declare (hh : h.Within P) (d : TypeDecl Code) {operands : List Value}
    (hv : ∀ v ∈ operands, v.Within P) (hbuilds : P.Builds d h.store.nextId) :
    (h.declare d operands).1.Within P ∧ (h.declare d operands).2.Within P := by
  unfold Host.declare
  dsimp only
  split
  · -- No base is given.
    split
    · rename_i t h' heq
      have ht := hbuilds none t (fun b hb => by contradiction) (build_of_register heq)
      exact ⟨.type ht, hh.register heq ht⟩
    · exact ⟨trivial, hh⟩
  · -- The base is the one operand.
    rename_i b
    have hb : P.type b := (hv (.type b) (by simp)).of_type
    split
    · rename_i t h' heq
      have hbase : ∀ b', some b = some b' → P.type b' := fun b' hb' => Option.some.inj hb' ▸ hb
      have ht := hbuilds (some b) t hbase (build_of_register heq)
      exact ⟨.type ht, hh.register heq ht⟩
    · exact ⟨trivial, hh⟩
  · exact ⟨trivial, hh⟩

theorem Within.newNative (hh : h.Within P) {name : String} {spec : ArgSpec} {r : FunctionRoutine}
    (hf : ∀ id, P.function ⟨id, name, .native spec r⟩) :
    (h.newNative name spec r).1.Within P ∧ (h.newNative name spec r).2.Within P :=
  ⟨.function (hf _), hh.runtime, (hh.store.newFunction hf).store⟩

end Host

/-! ## Modules -/

def Module.Within (P : Realm) (m : Module) : Prop := m.exported.Within P

theorem Module.Within.add {m : Module} (h : m.Within P) (name : String) {v : Value}
    (hv : v.Within P) : (m.add name v).Within P := Table.Within.insert h hv

namespace Sample

theorem within_addFunctions {m : Module} {h : Host} (hm : m.Within P) (hh : h.Within P)
    {fs : List (String × ArgSpec × SampleFunction)}
    (hfs : ∀ f ∈ fs, ∀ id, P.function ⟨id, f.1, .native f.2.1 (.sample f.2.2)⟩) :
    (addFunctions m h fs).1.Within P ∧ (addFunctions m h fs).2.Within P := by
  induction fs generalizing m h with
  | nil => exact ⟨hm, hh⟩
  | cons f fs ih =>
    obtain ⟨name, spec, f⟩ := f
    obtain ⟨hf, hfs⟩ := List.forall_mem_cons.1 hfs
    obtain ⟨hv, hh'⟩ := hh.newNative hf
    exact ih (hm.add name hv) hh' hfs

theorem within_load_of_log {h h' : Host} {m : Module} (hh : h.Within P) (heq : load h = .ok (m, h'))
    (hbuilds : ∀ d ∈ [boxDecl, counterIteratorDecl, counterDecl], ∀ (id : Identity) (t : TypeObject),
      d.build id none = .ok t → t ∈ h'.runtime.registry.log → P.type t)
    (hfunctions : ∀ f ∈ functions, ∀ id, P.function ⟨id, f.1, .native f.2.1 (.sample f.2.2)⟩) :
    m.Within P ∧ h'.Within P := by
  unfold load at heq
  split at heq
  · contradiction
  rename_i box h₁ hbox
  split at heq
  · contradiction
  rename_i iterator h₂ hiterator
  split at heq
  · contradiction
  rename_i counter h₃ hcounter
  have hboth := Except.ok.inj heq
  -- The functions are added without touching the log.
  have hlog : h'.runtime.registry.log = counter :: iterator :: box :: h.runtime.registry.log := by
    have hruntime := congrArg (·.2.runtime) hboth
    dsimp only at hruntime
    rw [← hruntime, runtime_addFunctions, Host.log_of_register hcounter,
      Host.log_of_register hiterator, Host.log_of_register hbox]
  simp only [List.forall_mem_cons] at hbuilds
  have htbox := hbuilds.1 _ box (Host.build_of_register hbox) (by simp [hlog])
  have htiterator := hbuilds.2.1 _ iterator (Host.build_of_register hiterator) (by simp [hlog])
  have htcounter := hbuilds.2.2.1 _ counter (Host.build_of_register hcounter) (by simp [hlog])
  have hh₃ := ((hh.register hbox htbox).register hiterator htiterator).register hcounter htcounter
  have hmodule (name version : String) : Module.Within P { name, version } := Table.within_empty
  have hadded := within_addFunctions
    ((((hmodule "basic" "0.1.0").add "Cbox" (.type htbox)).add "Counter" (.type htcounter)).add
      "version" (.plain (v := .int 0) rfl)) hh₃ hfunctions
  rw [hboth] at hadded
  exact hadded

theorem within_load {h h' : Host} {m : Module} (hh : h.Within P) (heq : load h = .ok (m, h'))
    (hsample : P.HasSample) : m.Within P ∧ h'.Within P :=
  within_load_of_log hh heq (fun d hd id t hbuild _ => hsample.builds d hd id t hbuild)
    hsample.functions

end Sample

/-! ## Sessions -/

namespace Session

/-- What the session holds is within the realm, the `lingering` types apart. -/
structure Within (P : Realm) (s : Session) : Prop where
  host : s.host.Within P
  globals : s.globals.Within P
  modules : ∀ m ∈ s.modules.values, m.Within P

variable {s : Session}

theorem Within.setModule (h : s.Within P) {host : Host} (hh : host.Within P) {m : Module}
    (hm : m.Within P) : (setModule { s with host } m).Within P := by
  refine ⟨hh, h.globals, fun m' hm' => ?_⟩
  rcases Table.mem_values_insert hm' with rfl | hm'
  · exact hm
  · exact h.modules m' hm'

theorem Within.loadSample (h : s.Within P) (hsample : P.HasSample) :
    s.loadSample.1.Within P ∧ s.loadSample.2.Within P := by
  unfold Session.loadSample
  split
  · rename_i m host heq
    obtain ⟨hm, hh⟩ := Sample.within_load h.host heq hsample
    exact ⟨.plain rfl, h.setModule hh hm⟩
  · exact ⟨trivial, h⟩

theorem within_addExports {m m' : Module} {h h' : Host} {decls : List ExportDecl}
    {operands : List Value} (heq : addExports m h decls operands = some (m', h'))
    (hdecls : ∀ name spec r, .function name spec r ∈ decls →
      ∀ id, P.function ⟨id, name, .native spec r⟩)
    (hm : m.Within P) (hh : h.Within P) (hv : ∀ v ∈ operands, v.Within P) :
    m'.Within P ∧ h'.Within P := by
  fun_induction addExports m h decls operands with
  | case1 =>
    cases heq
    exact ⟨hm, hh⟩
  | case2 m h name spec r rest operands v h₁ hnew ih =>
    obtain ⟨hnative, hh₁⟩ := hh.newNative (hdecls name spec r List.mem_cons_self)
    rw [hnew] at hnative hh₁
    exact ih heq (fun _ _ _ hmem => hdecls _ _ _ (List.mem_cons_of_mem _ hmem)) (hm.add name hnative)
      hh₁ hv
  | case3 _ _ name n _ _ ih =>
    exact ih heq (fun _ _ _ hmem => hdecls _ _ _ (List.mem_cons_of_mem _ hmem))
      (hm.add name (Value.within_ofNative n)) hh hv
  | case4 _ _ name _ t _ ih =>
    obtain ⟨ht, hrest⟩ := List.forall_mem_cons.1 hv
    exact ih heq (fun _ _ _ hmem => hdecls _ _ _ (List.mem_cons_of_mem _ hmem)) (hm.add name ht) hh
      hrest
  -- A plain value, which is one of the operands.
  | case5 _ _ name _ v _ ih =>
    obtain ⟨hw, hrest⟩ := List.forall_mem_cons.1 hv
    exact ih heq (fun _ _ _ hmem => hdecls _ _ _ (List.mem_cons_of_mem _ hmem)) (hm.add name hw) hh
      hrest
  | case6 => contradiction

end Session

def SessionOp.Allowed (P : Realm) : SessionOp → Prop
  | makeModule _ _ exported => ∀ name spec r, .function name spec r ∈ exported →
    ∀ id, P.function ⟨id, name, .native spec r⟩
  | loadSample => P.HasSample
  | _ => True

theorem SessionOp.within_run (op : SessionOp) {operands : List Value} {s : Session}
    (hallowed : op.Allowed P) (hv : ∀ v ∈ operands, v.Within P) (h : s.Within P) :
    (op.run operands s).1.Within P ∧ (op.run operands s).2.Within P := by
  have honModule (name : String) {f : Module → Request}
      (hf : ∀ m, m.Within P → (f m).Within P) :
      (onModule s name f).1.Within P ∧ (onModule s name f).2.Within P := by
    unfold onModule
    split
    · rename_i m hm
      exact ⟨hf m (h.modules m (Table.mem_values_of_get? hm)), h⟩
    · exact ⟨trivial, h⟩
  unfold SessionOp.run
  split
  -- Variables
  · split
    · rename_i v hget
      exact ⟨h.globals.of_get? hget, h⟩
    · exact ⟨trivial, h⟩
  · have hw := hv _ List.mem_cons_self
    exact ⟨hw, h.host, h.globals.insert hw, h.modules⟩
  · exact ⟨.plain rfl, h.host, h.globals.erase, h.modules⟩
  -- Modules: looking into one, describing one, making one
  · refine honModule _ fun m hm => ?_
    unfold Module.attr
    cases hget : m.get? _ with
    | none => exact trivial
    | some v => exact hm.of_get? hget
  · refine honModule _ fun m hm => ?_
    refine Value.within_getD_null fun v hget => hm.of_get? hget
  · rename_i module name
    split
    · rename_i m hm
      have hmade := (Sketch.within_ofModule m name).build h.host.store
      exact ⟨hmade.value, ⟨h.host.runtime, hmade.store⟩, h.globals, h.modules⟩
    · exact ⟨trivial, h⟩
  · split
    · rename_i m host heq
      obtain ⟨hm, hh⟩ := Session.within_addExports heq hallowed Table.within_empty h.host hv
      exact ⟨.plain rfl, h.setModule hh hm⟩
    · exact ⟨trivial, h⟩
  -- The sample module registers types.
  · exact h.loadSample hallowed
  · exact ⟨trivial, h⟩

def Op.Allowed (P : Realm) (s : Session) : Op Code → List Value → Prop
  | .object op, operands => op.Allowed P operands
  | .declare d, _ => P.Builds d s.host.store.nextId
  | .closure name body, _ => ∀ id, P.function ⟨id, name, .host body⟩
  | .session op, _ => op.Allowed P
  | .draw _, _ => True

/-- The answer of `Op.run` and what it leaves behind are in the realm. -/
def Op.RunsWithin (P : Realm) (op : Op Code) (operands : List Value) (s : Session) : Prop :=
  (op.run operands s).1.Within P ∧ (op.run operands s).2.Within P

theorem Op.within_run (op : Op Code) {operands : List Value} {s : Session} (hP : Hereditary P)
    (hbinds : s.host.store.Binds P) (hallowed : op.Allowed P s operands)
    (hv : ∀ v ∈ operands, v.Within P) (h : s.Within P) : op.RunsWithin P operands s := by
  unfold Op.RunsWithin
  cases op with
  | object op =>
    have hmade := op.within_run hP hbinds hallowed hv h.host.runtime h.host.store
    exact ⟨hmade.request, ⟨h.host.runtime, hmade.store⟩, h.globals, h.modules⟩
  -- A draw is malformed when it gets operands, and then changes nothing.
  | draw op =>
    unfold Op.run
    dsimp only
    split
    · cases op with
      | coin => exact ⟨.plain rfl, h.host.coin, h.globals, h.modules⟩
      | injectFault => exact ⟨.plain rfl, h.host.injectFault, h.globals, h.modules⟩
    · exact ⟨trivial, h⟩
  | declare d =>
    obtain ⟨hrequest, hhost⟩ := h.host.declare d hv hallowed
    exact ⟨hrequest, hhost, h.globals, h.modules⟩
  | closure name body =>
    have hmade := h.host.store.newFunction hallowed
    exact ⟨hmade.value, ⟨h.host.runtime, hmade.store⟩, h.globals, h.modules⟩
  | session op => exact op.within_run hallowed hv h

end ObjectProtocol
