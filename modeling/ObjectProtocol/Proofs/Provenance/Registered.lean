import ObjectProtocol.Proofs.Growth.Runs
import ObjectProtocol.Proofs.History
import ObjectProtocol.Proofs.Provenance.Machine

/-!
# Realms of registered types

Some realms hold what has been registered: a type that an operation brings about is in the realm because
it is in the log afterwards.  `Admits` says of a realm and a log that a type of the log is in the realm
when its base is, and that functions and methods do not matter.  An operation then stays within the realm
if all that it registers is in the log, and so does a step, the loading of the sample module and the
beginning of a session.
-/

namespace ObjectProtocol

/-- A type built over a base in the realm is in the realm if it is in `log`, and so is every function and
method. -/
structure Realm.Admits (P : Realm) (log : List TypeObject) : Prop where
  builds : ∀ (d : TypeDecl Code) (id : Identity) (base : Option TypeObject) (t : TypeObject),
    d.build id base = .ok t → (∀ b, base = some b → P.type b) → t ∈ log → P.type t
  function : ∀ f, P.function f
  method : ∀ receiver d, P.method receiver d

variable {P : Realm} {log log' : List TypeObject} {s : Session} {operands : List Value}

theorem Realm.Admits.mono (h : P.Admits log') (hlog : log ⊆ log') : P.Admits log :=
  ⟨fun d id base t hbuild hbase ht => h.builds d id base t hbuild hbase (hlog ht), h.function, h.method⟩

theorem Host.Within.declare_of_admits {h : Host} (hh : h.Within P) (d : TypeDecl Code)
    (hv : ∀ v ∈ operands, v.Within P)
    (hadmits : P.Admits (h.declare d operands).2.runtime.registry.log) :
    (h.declare d operands).1.Within P ∧ (h.declare d operands).2.Within P := by
  rcases h.declare_cases d operands with ⟨base, hoperands, -, hcases⟩ | ⟨-, hdeclare⟩
  · -- Declared over `base`, or over nothing.
    rcases hcases with ⟨t, h', hregister, hdeclare⟩ | ⟨f, -, hdeclare⟩
    · rw [hdeclare] at hadmits ⊢
      have hmem : t ∈ h'.runtime.registry.log := by
        rw [Host.log_of_register hregister]
        exact List.mem_cons_self
      have hbase : ∀ b, base = some b → P.type b := by
        rintro b rfl
        exact (hv (.type b) (by rw [hoperands]; exact List.mem_cons_self)).of_type
      have ht := hadmits.builds d _ base t (Host.build_of_register hregister) hbase hmem
      exact ⟨.type ht, hh.register hregister ht⟩
    · rw [hdeclare]
      exact ⟨trivial, hh⟩
  · rw [hdeclare]
    exact ⟨trivial, hh⟩

theorem Session.Within.loadSample_of_admits (hs : s.Within P)
    (hadmits : P.Admits s.loadSample.2.host.runtime.registry.log) :
    s.loadSample.1.Within P ∧ s.loadSample.2.Within P := by
  obtain ⟨m, h', hload, -⟩ := Sample.exists_load s.host
  unfold Session.loadSample at hadmits ⊢
  rw [hload] at hadmits ⊢
  obtain ⟨hm, hh⟩ := Sample.within_load_of_log hs.host hload
    (fun d _ id t hbuild ht => hadmits.builds d id none t hbuild (fun b hb => by contradiction) ht)
    (fun _ _ _ => hadmits.function _)
  exact ⟨.plain rfl, hs.setModule hh hm⟩

theorem Session.Within.equip_of_admits (hs : s.Within P) {setup : Setup}
    (hadmits : P.Admits (s.equip setup).host.runtime.registry.log) : (s.equip setup).Within P := by
  unfold Session.equip at hadmits ⊢
  split
  · rename_i hsample
    rw [if_pos hsample] at hadmits
    exact (hs.loadSample_of_admits hadmits).2
  · exact hs

theorem Op.runsWithin_of_admits {op : Op Code} (hP : Hereditary P) (hv : ∀ v ∈ operands, v.Within P)
    (hs : s.Within P) (hadmits : P.Admits (op.run operands s).2.host.runtime.registry.log) :
    op.RunsWithin P operands s := by
  have hother (hallowed : op.Allowed P s operands) : op.RunsWithin P operands s :=
    op.within_run hP (fun _ _ _ _ => hadmits.method _ _) hallowed hv hs
  cases op with
  | object op =>
    refine hother ?_
    show op.Allowed P operands
    unfold ObjectOp.Allowed
    split
    · exact fun _ _ => hadmits.method _ _
    · exact trivial
  | draw op => exact hother trivial
  | declare d =>
    obtain ⟨hrequest, hhost⟩ := hs.host.declare_of_admits d hv hadmits
    exact ⟨hrequest, hhost, hs.globals, hs.modules⟩
  | closure name body => exact hother fun _ => hadmits.function _
  -- Of the session operations only loading the sample registers types.
  | session op =>
    cases op with
    | loadSample =>
      cases operands with
      | nil => exact hs.loadSample_of_admits hadmits
      | cons v rest => exact ⟨trivial, hs⟩
    | makeModule => exact hother fun _ _ _ _ _ => hadmits.function _
    | getVariable | setVariable | dropVariable | moduleAttr | moduleGet | moduleInfo =>
      exact hother trivial

/-- What a step registers is in `registry.log` afterwards, so a realm that `Admits` that log keeps the
step. -/
theorem Config.Within.step_of_admits {c : Config} (h : c.Within P) (hP : Hereditary P)
    (hadmits : P.Admits c.step.session.host.runtime.registry.log) : c.step.Within P := by
  refine h.step_of_runs ?_
  intro op operands rest hperforms
  refine Op.runsWithin_of_admits hP (h.ready.of_performs hperforms) h.ready.session ?_
  refine hadmits.mono ?_
  rw [step_eq_advance]
  -- The operation has registered all that the step has.
  rcases hperforms.session_advance with heq | ⟨t, d, receiver, -, heq⟩
  · rw [heq]
    exact List.Subset.refl _
  · rw [heq]
    exact ((op.run operands c.ready.session).2.host.growsTo_runMethod d receiver []).registry.subset

end ObjectProtocol
