import ObjectProtocol.Proofs.Sample.Calls

/-!
# Where system errors come from

In a run of the sample module a step raises a `SystemError` only where host code raises it, where a
declaration contradicts itself or its base, or in one of the calls that give no reason.  Frames hand
exceptions on as they are.  So whatever `SystemError` is on its way in a run, some step of the run has
raised it in one of these ways.
-/

namespace ObjectProtocol

namespace Config

variable {c : Config}

/-! ## Steps -/

/-- How a `systemError` comes about in the next step. -/
inductive Origin (c : Config) : Exception → Prop
  | host {e : Exception} : c.control = .eval (.raise e) → Origin c e
  | call {target : Value} {args : List Value} : c.control = .call target args →
    Sample.Silent target args → Origin c unexplained
  | declaration {d : TypeDecl Code} {operands : List Value} {rest : List Frame} {e : Exception} :
    c.Performs (.declare d) operands rest → d.Inconsistent operands e → Origin c e

theorem InSample.raisesOnly_operate (h : c.InSample) {op : Op Code} {operands : List Value}
    {rest : List Frame} (hop : op.isHostOnly = true) (hperforms : c.Performs op operands rest) :
    (({ c with stack := rest }).operate op operands).control.RaisesOnly fun e =>
      e.Ordinary ∨ c.Origin e := by
  -- The store that the operation leaves behind is the one that all is seen from.
  obtain ⟨w, hw⟩ : ∃ w, w = (op.run operands c.session).2.host.store := ⟨_, rfl⟩
  have hgrows := op.growsTo_run operands c.session
  have hkeeps : c.session.host.store.KeepsTypes w := hw ▸ hgrows.host.store.types
  have hsession := (h.within w hkeeps).session
  have hv := (h.within w hkeeps).of_performs hperforms
  have hstore : c.session.host.store.InSample w := ⟨hsession.host.store, h.released_eq⟩
  have hafter : (op.run operands c.session).2.host.store.InSample w := by
    have hbinds := Sample.binds_realm hkeeps hsession.host.store
    have hallowed := Op.allowed_of_isHostOnly hop w c.session operands
    obtain ⟨-, hleft⟩ := op.within_run (Sample.hereditary_realm w) hbinds hallowed hv hsession
    exact ⟨hleft.host.store, hgrows.host.store.released_eq.trans h.released_eq⟩
  have hbrings : op.Failing (fun e => e.Ordinary ∨ c.Origin e) operands := by
    refine ⟨fun o heq hmember => ?_, fun d heq e he => ?_⟩
    · subst heq
      cases o <;> contradiction
    · subst heq
      exact Or.inr (.declaration hperforms he)
  have hrun := Op.raisesOnly_run (fun e => Or.inl) (hstore.failing (fun e => Or.inl) h.registered)
    (fun v hmem =>
      hstore.collect (fun e => Or.inl) hsession.host.runtime h.registered (hv v hmem)) hbrings
  refine Config.raisesOnly_operate (c := { c with stack := rest }) hrun ?_
  intro t d receiver heq
  rw [heq] at hrun
  obtain ⟨ref, rfl, hfound⟩ := hrun
  have hname := TypeObject.name_of_findMethod? hfound
  have hfits : ∀ r, d.method.body = .native r → Sample.Fits w (.object ref) d.method :=
    fun r hbody => Sample.fits_of_findMethod? hkeeps hstore.within hfound hbody
  rw [hw] at hafter hfits
  have hmethod := Host.ordinary_runMethod (Host.provides_of_fits hafter hfits)
    (by rw [hname]; decide) []
  exact hmethod.mono fun e => Or.inl

theorem InSample.raisesOnly_step (h : c.InSample)
    (hhost : ∀ op ∈ c.operation?, op.isHostOnly = true) :
    c.step.control.RaisesOnly fun e => e.Ordinary ∨ c.control = .raise e ∨ c.Origin e := by
  rw [step_eq_advance, ready_eq h.lingering_eq]
  have hadvance : c.advance.control.RaisesOnly fun e =>
      (e.Ordinary ∨ c.Origin e) ∨ c.control = .raise e ∨ c.control = .eval (.raise e) := by
    refine raisesOnly_advance (fun e => Or.inl) (fun op operands rest hperforms =>
      h.raisesOnly_operate (hhost op hperforms.operation?_eq) hperforms) ?_
    intro target args hcontrol
    -- The target comes from the sample or from host code.
    have hwithin := h.within c.session.host.store (.of_instances_eq rfl)
    have ht := hwithin.control target (by rw [hcontrol]; exact List.mem_cons_self)
    have hstore : c.counted.host.store.InSample c.counted.host.store :=
      ⟨hwithin.session.host.store, h.released_eq⟩
    refine Control.RaisesOnly.mono (raisesOnly_call (fun e => Or.inl) hstore.live
      (Host.callRaisesOnly_sample hstore ht args)) fun e he => ?_
    rcases he with hordinary | ⟨hsilent, rfl⟩
    · exact Or.inl hordinary
    · exact Or.inr (.call hcontrol hsilent)
  refine hadvance.mono fun e he => ?_
  -- The exception is ordinary, new, carried on, or raised by host code itself.
  rcases he with (hordinary | horigin) | hbefore | hhost
  · exact Or.inl hordinary
  · exact Or.inr (Or.inr horigin)
  · exact Or.inr (Or.inl hbefore)
  · exact Or.inr (Or.inr (.host hhost))

/-! ## Main result -/

/-- In every `SampleRun`, whatever its host classes and functions: a `systemError` that is on its way was
raised by a step of the run that is an `Origin` of it, and has been on its way since. In that step host
code raises it, or a declaration is inconsistent, or a box or what derives from one is constructed with
`errorCounter`, or `maybe_incr` or `maybe_incr2` fails, or `forget_raise` is called. -/
theorem system_errors_have_origin (h : c.SampleRun) {e : Exception} (hraise : c.control = .raise e)
    (hkind : e.kind = .systemError) :
    ∃ (b : Config) (n : Nat), b.SampleRun ∧ b.Origin e ∧ c = b.after (n + 1) ∧
      ∀ k ≤ n, (b.after (k + 1)).control = .raise e := by
  induction h with
  | start => contradiction
  | next => contradiction
  | @step c hrun hhost ih =>
    have hstep := hrun.inSample.raisesOnly_step hhost
    rw [hraise] at hstep
    rcases hstep with hordinary | hbefore | horigin
    · exact absurd hkind hordinary
    · -- It was on its way already, so the step comes on top of those since its origin.
      obtain ⟨b, n, hb, horigin, heq, hway⟩ := ih hbefore
      have hnext : c.step = b.after (n + 1 + 1) := by rw [after_succ, heq]
      refine ⟨b, n + 1, hb, horigin, hnext, fun k hk => ?_⟩
      rcases Nat.lt_or_eq_of_le hk with hlt | rfl
      · exact hway k (Nat.le_of_lt_succ hlt)
      · rw [← hnext]
        exact hraise
    · refine ⟨c, 0, hrun, horigin, rfl, fun k hk => ?_⟩
      rw [Nat.le_zero.1 hk]
      exact hraise

theorem SampleRun.after (h : c.SampleRun) (n : Nat)
    (hhost : ∀ k < n, ∀ op ∈ (c.after k).operation?, op.isHostOnly = true) :
    (c.after n).SampleRun := by
  induction n with
  | zero => exact h
  | succ n ih =>
    exact (ih fun k hk => hhost k (Nat.lt_succ_of_lt hk)).step (hhost n (Nat.lt_succ_self n))

/-- A class derived from the box, with an initializer of its own. -/
def crateDecl : TypeDecl Code :=
  { name := "Crate", kind := .host, methods := [⟨"__init__", .varargs, .host []⟩] }

def makeCrate : Config :=
  { control := .eval
      (.apply (.object .call)
        [.apply (.declare crateDecl) [.apply (.session (.moduleAttr "basic" "Cbox")) []],
          .null, .int NativeInt.minusOne.toHost])
    session := .ofSetup {} }

def crateRefused : Config := makeCrate.after 10

theorem system_errors_have_origin_crateRefused :
    crateRefused.SampleRun ∧ crateRefused.control = .raise unexplained ∧
      unexplained.kind = .systemError ∧
      ∃ (b : Config) (n : Nat), b.SampleRun ∧ b.Origin unexplained ∧
        crateRefused = b.after (n + 1) ∧ ∀ k ≤ n, (b.after (k + 1)).control = .raise unexplained := by
  have hstart : makeCrate.SampleRun := .start {} _ rfl
  have hhost : ∀ k < 10, ∀ op ∈ (makeCrate.after k).operation?, op.isHostOnly = true := by
    decide +kernel
  have hrun : crateRefused.SampleRun := hstart.after 10 hhost
  have hraise : crateRefused.control = .raise unexplained := rfl
  exact ⟨hrun, hraise, rfl, system_errors_have_origin hrun hraise rfl⟩

end Config

end ObjectProtocol
