import ObjectProtocol.Proofs.Types.Owned
import ObjectProtocol.Proofs.Types.Silence

/-!
# Types last

Within one runtime no type is released: the registry owns every type that anything refers to, and it lets
go of none.  So every value has a type, and nobody who asks for one is told that it was released.  Who
hears so all the same has been told by host code, or by a native routine that raises what it is given.
-/

namespace ObjectProtocol

/-! ## Calls -/

/-- A call of the value begins with a `StockRoutine` that raises what the arguments say. -/
inductive Store.Tells (s : Store) : Value → List Value → Exception → Prop
  | function {f : Function} {spec : ArgSpec} {r : StockRoutine} {args : List Value} {e : Exception} :
    f.body = .native spec (.stock r) → r.Tells args e → Tells s (.function f) args e
  | method {id : Identity} {receiver : Value} {d : Descriptor} {r : StockRoutine} {args : List Value}
      {e : Exception} :
    d.method.body = .native (.stock r) → r.Tells args e → Tells s (.method id receiver d) args e
  /-- The call method of an instance. -/
  | object {ref : Ref} {d : Descriptor} {r : StockRoutine} {args : List Value} {e : Exception} :
    (s.instanceAt ref).type.findMethod? "__call__" = some d → d.method.body = .native (.stock r) →
      r.Tells args e → Tells s (.object ref) args e
  | initializer {t : TypeObject} {d : Descriptor} {r : StockRoutine} {args : List Value}
      {e : Exception} :
    t.findMethod? "__init__" = some d → d.method.body = .native (.stock r) → r.Tells args e →
      Tells s (.type t) args e

namespace Host

variable {h : Host}

theorem notGone_runMethod (h : Host) (d : Descriptor) (receiver : Value) (args : List Value) :
    (h.runMethod d receiver args).1.RaisesOnly fun e =>
      e.NotGone ∨ ∃ r, d.method.body = .native (.stock r) ∧ r.Tells args e := by
  refine raisesOnly_runMethod (fun e he => Or.inl he.notGone) fun routine ref a hbody _ ha => ?_
  refine (routine.notGone_run h ref a).mono fun x hx => ?_
  rcases hx with hx | ⟨r, rfl, htells⟩
  · exact Or.inl hx
  · rw [ArgSpec.values_of_parse ha] at htells
    exact Or.inr ⟨r, hbody, htells⟩

theorem notGone_runFunction (hreleased : h.store.released = []) (f : Function) (args : List Value) :
    (h.runFunction f args).1.RaisesOnly fun e =>
      e.NotGone ∨ ∃ spec r, f.body = .native spec (.stock r) ∧ r.Tells args e := by
  refine raisesOnly_runFunction (fun e he => Or.inl he.notGone) fun spec routine a hbody ha => ?_
  refine (routine.notGone_run hreleased a).mono fun x hx => ?_
  rcases hx with hx | ⟨r, rfl, htells⟩
  · exact Or.inl hx
  · rw [ArgSpec.values_of_parse ha] at htells
    exact Or.inr ⟨spec, r, hbody, htells⟩

theorem notGone_call (hreleased : h.store.released = []) (target : Value) (args : List Value) :
    h.CallRaisesOnly (fun e => e.NotGone ∨ h.store.Tells target args e) target args := by
  cases target with
  | function f =>
    refine (notGone_runFunction hreleased f args).mono fun e he => ?_
    rcases he with he | ⟨spec, r, hbody, htells⟩
    · exact Or.inl he
    · exact Or.inr (.function hbody htells)
  | method id receiver d =>
    refine (h.notGone_runMethod d receiver args).mono fun e he => ?_
    rcases he with he | ⟨r, hbody, htells⟩
    · exact Or.inl he
    · exact Or.inr (.method hbody htells)
  | type t =>
    -- A refusal, or what the initializer raises.
    refine ⟨fun e he => Or.inl ?_, ?_⟩
    · exact of_refusal? (fun e he => he.notGone) (fun slot _ => slot.notGone_check h.store args) he
    · refine raisesOnly_setUp (fun e he => Or.inl he.notGone) (fun d hfound => ?_) fun slot _ => ?_
      · refine ((h.newInstance t).2.notGone_runMethod d _ args).mono fun e he => ?_
        rcases he with he | ⟨r, hbody, htells⟩
        · exact Or.inl he
        · exact Or.inr (.initializer hfound hbody htells)
      · exact (slot.notGone_run _ _ args).mono fun f hf => Or.inl hf
  | object ref =>
    intro d hfound
    refine (h.notGone_runMethod d (.object ref) args).mono fun e he => ?_
    rcases he with he | ⟨r, hbody, htells⟩
    · exact Or.inl he
    · exact Or.inr (.object hfound hbody htells)
  | null | bool | int | float | str | tuple | list | dict | iterator => exact trivial

end Host

theorem Store.notGone_collect {s : Store} (h : s.released = []) (rt : Runtime) (v : Value) :
    FailsOnly Exception.NotGone (s.collect rt v).1 := by
  have hordinary (e : Exception) (he : e.Ordinary) : e.NotGone := he.notGone
  unfold collect
  split
  · rename_i e he
    exact .error ((failing_notGone h rt).iter_eq hordinary v e he)
  · rename_i sketch hsketch
    refine failsOnly_drain (S := fun s => s.released = [])
      (fun s hs => (failing_notGone hs rt).next_eq hordinary _) ?_ ?_ _ _
    · intro s r hs _
      rw [released_apply, hs]
    · have hbuilt : s.EditedBy (fun _ _ => False) (sketch.build s).2 :=
        (s.fresh_iterWithin rt _ v sketch hsketch).editedBy s
      rw [hbuilt.released_eq, h]

theorem Runtime.name_of_typeOf {rt : Runtime} {s : Store} {v : Value} {t : TypeObject}
    (h : rt.typeOf s v = .ok t) : t.name = s.typeName v := by
  cases v with
  | object ref | iterator ref => rw [s.live_yields _ t h]; rfl
  | null | bool | int | float | str | tuple | list | dict | type | function | method =>
    cases h
    rfl

namespace Config

variable {c c' : Config} {events : List Event}

/-! ## Steps -/

/-- The next step raises the exception because host code says so, or the arguments of a native routine
that `Tells` it. -/
inductive Voices (c : Config) (e : Exception) : Prop
  | host : c.control = .eval (.raise e) → Voices c e
  | native {target : Value} {args : List Value} : c.control = .call target args →
    c.session.host.store.Tells target args e → Voices c e

theorem notGone_advance (hreleased : c.session.host.store.released = []) :
    c.advance.control.RaisesOnly fun e => e.NotGone ∨ c.control = .raise e ∨ c.Voices e := by
  have hadvance : c.advance.control.RaisesOnly fun e =>
      (e.NotGone ∨ c.Voices e) ∨ c.control = .raise e ∨ c.control = .eval (.raise e) := by
    refine raisesOnly_advance (fun e he => Or.inl he.notGone) ?_ ?_
    · intro op operands rest hperforms
      have hbrings : op.Failing Exception.NotGone operands :=
        ⟨fun _ _ _ => Member.failing_notGone, fun d _ e he => he.notGone⟩
      have hrun := Op.raisesOnly_run (fun e he => he.notGone)
        (Store.failing_notGone hreleased c.session.host.runtime)
        (fun v _ => Store.notGone_collect hreleased _ v) hbrings
      have hoperate : (({ c with stack := rest }).operate op operands).control.RaisesOnly
          Exception.NotGone := by
        refine raisesOnly_operate (c := { c with stack := rest }) hrun fun t d receiver _ => ?_
        refine (Host.notGone_runMethod _ d receiver []).mono fun e he => ?_
        -- Without arguments nothing is said.
        rcases he with he | ⟨r, -, -, v, hv, -⟩
        · exact he
        · contradiction
      exact hoperate.mono fun e => Or.inl
    · intro target args hcontrol
      have hcall : (c.call target args).control.RaisesOnly fun e =>
          e.NotGone ∨ c.session.host.store.Tells target args e :=
        raisesOnly_call (fun e he => Or.inl he.notGone) (Store.live_of_released hreleased)
          (Host.notGone_call (h := c.counted.host) hreleased target args)
      exact hcall.mono fun e he => he.imp id fun htells => .native hcontrol htells
  refine hadvance.mono fun e he => ?_
  rcases he with (he | hvoices) | hbefore | hhost
  · exact Or.inl he
  · exact Or.inr (Or.inr hvoices)
  · exact Or.inr (Or.inl hbefore)
  · exact Or.inr (Or.inr (.host hhost))

/-! ## Runs -/

/-- An exception that is not `NotGone` has been voiced in the course of the run, and has been on its way
since. -/
theorem History.exists_voices (h : c.History events c') (hevents : ∀ event ∈ events, event.isRestart = false)
    (hlingering : c.session.lingering = []) (hreleased : c.session.host.store.released = [])
    (hstart : ∀ e, c.control ≠ .raise e) {t : TypeObject} (hraise : c'.control = .raise t.gone) :
    ∃ before b n, before <+: events ∧ c.History before b ∧ b.Voices t.gone ∧ c' = b.after (n + 1) ∧
      ∀ k ≤ n, (b.after (k + 1)).control = .raise t.gone := by
  induction h with
  | refl => exact absurd hraise (hstart _)
  | @step events c' h ih =>
    have hearlier := (List.forall_mem_append.1 hevents).1
    have hgrows := h.growsTo hlingering hearlier
    have hstep := notGone_advance (hgrows.host.store.released_eq.trans hreleased)
    rw [← ready_eq (hgrows.lingering_eq.trans hlingering), ← step_eq_advance,
      ready_eq (hgrows.lingering_eq.trans hlingering), hraise] at hstep
    rcases hstep with hnot | hbefore | hvoices
    · exact absurd rfl (hnot t)
    · -- It was on its way already, so the step comes on top of those since it was said.
      obtain ⟨before, b, n, hprefix, hb, hvoices, heq, hway⟩ := ih hearlier hbefore
      have hnext : c'.step = b.after (n + 1 + 1) := by rw [after_succ, heq]
      refine ⟨before, b, n + 1, hprefix.trans (List.prefix_append _ _), hb, hvoices, hnext,
        fun k hk => ?_⟩
      rcases Nat.lt_or_eq_of_le hk with hlt | rfl
      · exact hway k (Nat.le_of_lt_succ hlt)
      · rw [← hnext]
        exact hraise
    · refine ⟨events, c', 0, List.prefix_append _ _, h, hvoices, rfl, fun k hk => ?_⟩
      rw [Nat.le_zero.1 hk]
      exact hraise
  | next e _ _ _ => contradiction
  | restart setup e _ _ _ => contradiction

/-! ## Main result -/

/-- Along every `History` without a restart, no type is released, whatever is registered, dropped or
loaded again. Every value that exists has a type, whose name is its `typeName` and which the registry
owns; all that the run holds refers to types that the registry owns, with all that these derive from; and
an exception that says that a type was released was raised by a step that `Voices` it: by host code, or by
a native routine whose arguments say so. -/
theorem types_last {setup : Setup} {e : Expr}
    (h : History { control := .eval e, session := .ofSetup setup } events c')
    (hevents : ∀ event ∈ events, event.isRestart = false) :
    let rt := c'.session.host.runtime
    let s := c'.session.host.store
    (∀ t, s.live t = .ok t) ∧
    (∀ v, ∃ t, rt.typeOf s v = .ok t ∧ t.name = s.typeName v ∧ ∃ u ∈ rt.registry.log, u.id = t.id) ∧
    c'.Within (.owned rt.registry.log) ∧
    ∀ t : TypeObject, c'.control = .raise t.gone →
      ∃ before b n, before <+: events ∧
        History { control := .eval e, session := .ofSetup setup } before b ∧ b.Voices t.gone ∧
        c' = b.after (n + 1) ∧ ∀ k ≤ n, (b.after (k + 1)).control = .raise t.gone := by
  intro rt s
  have hequip := (Session.start setup.options).growsTo_equip setup
  have hgrows := hequip.trans (h.growsTo hequip.lingering_eq hevents)
  -- Without a restart nothing is ever released.
  have hreleased : s.released = [] := hgrows.host.store.released_eq
  have hfirst := hequip.host.registry.subset (Runtime.mem_log_start setup.options 0 .null)
  have howned : c'.Within (.owned rt.registry.log) :=
    h.owned hequip.lingering_eq hevents ⟨_, hfirst, rfl⟩ (owned_start setup e) _ (List.Subset.refl _)
  refine ⟨s.live_of_released hreleased, fun v => ?_, howned, fun t hraise => ?_⟩
  · obtain ⟨t, ht⟩ := rt.exists_typeOf hreleased v
    have htype := howned.session.host.runtime.typeOf howned.session.host.store v t ht
    exact ⟨t, ht, Runtime.name_of_typeOf ht, htype t.own List.mem_cons_self⟩
  · exact h.exists_voices hevents hequip.lingering_eq hequip.host.store.released_eq
      (fun e he => by contradiction) hraise

/-- Keeps an instance of a class, declares another class with the name of the first, and says that it was
released. -/
def shadowing : Config :=
  { control := .eval (.seq
      [.apply (.session (.setVariable "o")) [.apply (.object .call) [.apply (.declare passingDecl) []]],
        .apply (.declare passingDecl) [],
        .raise ⟨.systemError, "type 'A' was released"⟩])
    session := .ofSetup { sample := false } }

/-- The name has gone to the other class, but the class of the instance is `live`, and that it was
released is somebody's own notice. -/
theorem types_last_shadowing :
    let c := shadowing.after 16
    (c.session.host.runtime.registry.named? "A").map (·.id) = some 13 ∧
      (∃ t, c.session.host.runtime.typeOf c.session.host.store (.object 0) = .ok t ∧ t.name = "A") ∧
      ∃ b, shadowing.LeadsTo b ∧ b.Voices ⟨.systemError, "type 'A' was released"⟩ := by
  obtain ⟨-, htypes, -, hnotices⟩ :=
    types_last (history_after shadowing 16) (shadowing.isRestart_eventsOf 16)
  obtain ⟨t, ht, hname, -⟩ := htypes (.object 0)
  have hgone : t.gone = ⟨.systemError, "type 'A' was released"⟩ := by
    unfold TypeObject.gone
    rw [hname]
    rfl
  obtain ⟨_, b, _, _, hb, hvoices, _⟩ := hnotices t (by rw [hgone]; rfl)
  exact ⟨rfl, ⟨t, ht, hname⟩, b, hb.leadsTo, hgone ▸ hvoices⟩

end Config

end ObjectProtocol
