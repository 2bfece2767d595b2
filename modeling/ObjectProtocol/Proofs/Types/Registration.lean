import ObjectProtocol.Proofs.Iteration.Taking
import ObjectProtocol.Proofs.Sample.Runs

/-!
# Registration

The registry is a log.  A declaration that is accepted adds its type to it, one that is rejected leaves
everything as it is, and nothing else touches it: so between two restarts the log is that of the built-in
types, continued by the types that were accepted since, in order.  A name stands for the newest type that
bears it, while values keep the types that they had.
-/

namespace ObjectProtocol

def Op.attempts : Op Code → List Value → List Attempt
  | .declare d, operands => d.attempts operands
  | .session .loadSample, [] => Sample.attempts
  | _, _ => []

/-- The types that `tryAll` accepts of the declarations in the event. -/
def Event.accepted : Event → List TypeObject
  | operation op operands s => (s.host.tryAll (op.attempts operands)).1
  | restart _ => []

def Session.preloaded (s : Session) (setup : Setup) : List TypeObject :=
  if setup.sample then (s.host.tryAll Sample.attempts).1 else []

def Value.Exists (s : Store) : Value → Prop
  | .object ref => ref < s.instances.size
  | .iterator ref => ref < s.iterators.size
  | _ => True

/-! ## The log -/

namespace Runtime

/-- The types have been added to `registry.log`; the built-in types are still the same. -/
structure Logs (rt : Runtime) (ts : List TypeObject) (rt' : Runtime) : Prop where
  firstBuiltin_eq : rt'.firstBuiltin = rt.firstBuiltin
  log_eq : rt'.registry.log = ts.reverse ++ rt.registry.log

variable {rt rt' rt'' : Runtime} {ts us : List TypeObject}

theorem Logs.refl (rt : Runtime) : rt.Logs [] rt := ⟨rfl, rfl⟩

theorem Logs.of_drawnTo (h : rt.DrawnTo rt') : rt.Logs [] rt' := by
  obtain ⟨g, rfl⟩ := h
  exact ⟨rfl, rfl⟩

theorem Logs.trans (h : rt.Logs ts rt') (h' : rt'.Logs us rt'') : rt.Logs (ts ++ us) rt'' := by
  refine ⟨h'.firstBuiltin_eq.trans h.firstBuiltin_eq, ?_⟩
  rw [h'.log_eq, h.log_eq, List.reverse_append, List.append_assoc]

theorem Logs.trans_nil (h : rt.Logs ts rt') (h' : rt'.Logs [] rt'') : rt.Logs ts rt'' := by
  have hboth := h.trans h'
  rwa [List.append_nil] at hboth

theorem Logs.get?_eq (h : rt.Logs ts rt') {i : Nat} {t : TypeObject}
    (ht : rt.registry.get? i = some t) : rt'.registry.get? i = some t := by
  unfold Registry.get? at ht ⊢
  rw [h.log_eq, List.reverse_append, List.getElem?_append_left (List.getElem?_eq_some_iff.1 ht).1, ht]

end Runtime

theorem Host.Registers.logs {h h' : Host} {ts : List TypeObject} (hh : h.Registers ts h') :
    h.runtime.Logs ts h'.runtime := by
  rw [hh.runtime_eq]
  exact ⟨rfl, rfl⟩

theorem Session.logs_loadSample (s : Session) :
    s.host.runtime.Logs (s.host.tryAll Sample.attempts).1 s.loadSample.2.host.runtime := by
  obtain ⟨m, h', hload, -⟩ := Sample.exists_load s.host
  unfold loadSample
  rw [hload]
  exact (Sample.registers_load hload).logs

theorem Session.logs_equip (s : Session) (setup : Setup) :
    s.host.runtime.Logs (s.preloaded setup) (s.equip setup).host.runtime := by
  unfold preloaded equip
  split
  · exact s.logs_loadSample
  · exact .refl _

theorem SessionOp.logs_run (op : SessionOp) (operands : List Value) (s : Session) :
    s.host.runtime.Logs (s.host.tryAll (Op.attempts (.session op) operands)).1
      (op.run operands s).2.host.runtime := by
  by_cases hload : op = .loadSample ∧ operands = []
  · obtain ⟨rfl, rfl⟩ := hload
    exact s.logs_loadSample
  · have hattempts : Op.attempts (.session op) operands = [] := by
      unfold Op.attempts
      split
      · contradiction
      · rename_i heq
        exact absurd ⟨Op.session.inj heq, rfl⟩ hload
      · rfl
    have honModule (module : String) (f : Module → Request) :
        s.host.runtime.Logs [] (onModule s module f).2.host.runtime := by
      unfold onModule
      split <;> exact .refl _
    rw [hattempts]
    show s.host.runtime.Logs [] _
    unfold SessionOp.run
    split
    -- Variables
    · split <;> exact .refl _
    · exact .refl _
    · exact .refl _
    -- Modules: looking into one, describing one, making one
    · exact honModule _ _
    · exact honModule _ _
    · split <;> exact .refl _
    · split
      · exact (Session.registers_addExports ‹_›).logs
      · exact .refl _
    · exact absurd ⟨rfl, rfl⟩ hload
    · exact .refl _

theorem Op.logs_run (op : Op Code) (operands : List Value) (s : Session) :
    s.host.runtime.Logs (s.host.tryAll (op.attempts operands)).1
      (op.run operands s).2.host.runtime := by
  cases op with
  | object op => exact .refl _
  | draw op =>
    unfold Op.run
    dsimp only
    split
    · exact .of_drawnTo (op.drawnTo_run s.host)
    · exact .refl _
  | declare d => exact (s.host.registers_declare d operands).logs
  | closure name body => exact .refl _
  | session op => exact op.logs_run operands s

namespace Config

variable {c c' : Config} {events : List Event}

theorem logs_advance (h : ∀ op operands rest, ¬ c.Performs op operands rest) :
    c.session.host.runtime.Logs [] c.advance.session.host.runtime := by
  have hcounted : c.session.host.runtime.Logs [] c.counted.host.runtime := ⟨rfl, rfl⟩
  have heffect := c.effect_advance
  generalize c.advance.session = s at heffect ⊢
  cases heffect with
  | count | make | makeDict => exact ⟨rfl, rfl⟩
  | operate hperforms | measure hperforms _ => exact absurd hperforms (h _ _ _)
  | function _ => exact hcounted.trans_nil (.of_drawnTo (Host.drawnTo_runFunction _ _ _))
  | method _ | object _ _ => exact hcounted.trans_nil (.of_drawnTo (Host.drawnTo_runMethod _ _ _ _))
  | @create t args _ =>
    exact hcounted.trans_nil
      (.of_drawnTo ((c.counted.host.newInstance t).2.drawnTo_setUp t _ args))

/-- What a step registers shows in the `Event` that it makes. -/
theorem logs_step (c : Config) :
    c.session.host.runtime.Logs (c.event?.toList.flatMap Event.accepted)
      c.step.session.host.runtime := by
  rw [← c.runtime_ready, step_eq_advance]
  rcases c.event?_cases with ⟨op, operands, rest, hperforms, hevent⟩ | ⟨hnone, hevent⟩
  · have hrun := op.logs_run operands c.ready.session
    rw [hevent]
    show Runtime.Logs _ (Event.accepted (.operation op operands c.ready.session) ++ []) _
    rw [List.append_nil]
    rcases hperforms.session_advance with heq | ⟨t, d, receiver, -, heq⟩
    · rw [heq]
      exact hrun
    · rw [heq]
      exact hrun.trans_nil (.of_drawnTo (Host.drawnTo_runMethod _ d receiver []))
  · rw [hevent]
    exact logs_advance hnone

/-- Between two restarts the log grows by what is `accepted`, in order. -/
theorem History.logs (h : c.History events c') (hevents : ∀ event ∈ events, event.isRestart = false) :
    c.session.host.runtime.Logs (events.flatMap Event.accepted) c'.session.host.runtime := by
  induction h with
  | refl => exact .refl _
  | step _ ih =>
    obtain ⟨hbefore, -⟩ := List.forall_mem_append.1 hevents
    rw [List.flatMap_append]
    exact (ih hbefore).trans (logs_step _)
  | next e _ _ ih => exact ih hevents
  | restart setup e _ _ _ =>
    have hrestart := hevents (.restart setup) (List.mem_append_right _ List.mem_cons_self)
    contradiction

end Config

/-! ## Types of values -/

/-- Of the types that had not been released, only `lingering` ones have been. -/
structure Session.Retires (s s' : Session) : Prop where
  lingering : s'.lingering ⊆ s.lingering
  released : ∀ id ∈ s'.host.store.released,
    id ∈ s.host.store.released ∨ ∃ t ∈ s.lingering, t.id = id

namespace Session

variable {s s' s'' : Session}

theorem Retires.refl (s : Session) : s.Retires s := ⟨List.Subset.refl _, fun _ => Or.inl⟩

theorem Retires.trans (h : s.Retires s') (h' : s'.Retires s'') : s.Retires s'' := by
  refine ⟨List.Subset.trans h'.lingering h.lingering, fun id hid => ?_⟩
  rcases h'.released id hid with hbefore | ⟨t, ht, rfl⟩
  · exact h.released id hbefore
  · exact Or.inr ⟨t, h.lingering ht, rfl⟩

theorem GrowsTo.retires (h : s.GrowsTo s') : s.Retires s' := by
  refine ⟨?_, fun id hid => Or.inl ?_⟩
  · rw [h.lingering_eq]
    exact List.Subset.refl _
  · rwa [← h.host.store.released_eq]

theorem exists_sweep_of_lingering (s : Session) (others : Unit → List Value) :
    ∃ gone lingering, gone ⊆ s.lingering ∧ lingering ⊆ s.lingering ∧ s.sweep others =
      { s.setStore { s.host.store with released := gone.map (·.id) ++ s.host.store.released } with
        lingering } := by
  have hnone : ([] : List TypeObject) ⊆ s.lingering := List.nil_subset _
  unfold sweep
  dsimp only
  split
  · exact ⟨[], s.lingering, hnone, List.Subset.refl _, rfl⟩
  · split
    · exact ⟨[], s.lingering, hnone, List.Subset.refl _, rfl⟩
    · rw [List.partition_eq_filter_filter]
      refine ⟨_, _, ?_, ?_, rfl⟩
      · exact fun t ht => (List.mem_filter.1 (List.mem_filter.1 ht).1).1
      · exact fun t ht => (List.mem_filter.1 ht).1

theorem retires_sweep (s : Session) (others : Unit → List Value) : s.Retires (s.sweep others) := by
  obtain ⟨gone, lingering, hgone, hlingering, heq⟩ := s.exists_sweep_of_lingering others
  rw [heq]
  refine ⟨hlingering, fun id hid => ?_⟩
  rcases List.mem_append.1 hid with hid | hid
  · obtain ⟨t, ht, rfl⟩ := List.mem_map.1 hid
    exact Or.inr ⟨t, hgone ht, rfl⟩
  · exact Or.inl hid

theorem retires_equip (s : Session) (setup : Setup) : s.Retires (s.equip setup) :=
  (s.growsTo_equip setup).retires

end Session

namespace Config

variable {c c' : Config} {events : List Event}

theorem retires_step (c : Config) : c.session.Retires c.step.session := by
  have hready : c.session.Retires c.ready.session := by
    rcases c.ready_cases with heq | heq
    · rw [heq]
      exact .refl _
    · rw [heq]
      exact c.session.retires_sweep fun () => c.roots
  rw [step_eq_advance]
  exact hready.trans c.ready.growsTo_advance.retires

theorem History.retires (h : c.History events c')
    (hevents : ∀ event ∈ events, event.isRestart = false) : c.session.Retires c'.session := by
  induction h with
  | refl => exact .refl _
  | step _ ih => exact (ih (List.forall_mem_append.1 hevents).1).trans (retires_step _)
  | next e _ _ ih => exact ih hevents
  | restart setup e _ _ _ =>
    have hrestart := hevents (.restart setup) (List.mem_append_right _ List.mem_cons_self)
    contradiction

theorem History.live_eq (h : c.History events c')
    (hevents : ∀ event ∈ events, event.isRestart = false) {t u : TypeObject}
    (hlive : c.session.host.store.live t = .ok u)
    (hcurrent : ∀ old ∈ c.session.lingering, old.id ≠ t.id) :
    c'.session.host.store.live t = .ok u := by
  have hbefore : t.id ∉ c.session.host.store.released := by
    intro hid
    unfold Store.live at hlive
    rw [if_pos hid] at hlive
    contradiction
  have hafter : t.id ∉ c'.session.host.store.released := by
    intro hid
    -- Later releases are of types that were lingering at the start.
    rcases (h.retires hevents).released t.id hid with hid | ⟨old, hold, heq⟩
    · exact hbefore hid
    · exact hcurrent old hold heq
  unfold Store.live at hlive ⊢
  rw [if_neg hbefore] at hlive
  rw [if_neg hafter, hlive]

theorem History.typeOf_eq (h : c.History events c')
    (hevents : ∀ event ∈ events, event.isRestart = false) {v : Value} {t : TypeObject}
    (hv : v.Exists c.session.host.store)
    (ht : c.session.host.runtime.typeOf c.session.host.store v = .ok t)
    (hcurrent : ∀ old ∈ c.session.lingering, old.id ≠ t.id) :
    c'.session.host.runtime.typeOf c'.session.host.store v = .ok t := by
  have hbuiltin (b : Builtin) :
      c'.session.host.runtime.builtin b = c.session.host.runtime.builtin b := by
    unfold Runtime.builtin
    rw [(h.logs hevents).firstBuiltin_eq]
  cases v with
  -- The instance keeps its type, and that type stays live.
  | object ref =>
    obtain ⟨i, hi⟩ : ∃ i, c.session.host.store.instances.get? ref = some i :=
      ⟨_, Array.getElem?_eq_getElem hv⟩
    have hsame := h.leadsTo.keepsTypes.type_eq hi
    rw [← Store.instanceAt_eq hi] at hsame
    obtain rfl := c.session.host.store.live_yields _ _ ht
    show c'.session.host.store.live (c'.session.host.store.instanceAt ref).type = _
    rw [hsame]
    exact h.live_eq hevents ht hcurrent
  | iterator ref =>
    obtain ⟨it, hit⟩ : ∃ it, c.session.host.store.iterators.get? ref = some it :=
      ⟨_, Array.getElem?_eq_getElem hv⟩
    obtain ⟨given, it', hit', hgives, -⟩ := h.gives hit
    have hsame := hgives.type_eq
    rw [← Store.iteratorAt_eq hit, ← Store.iteratorAt_eq hit'] at hsame
    obtain rfl := c.session.host.store.live_yields _ _ ht
    show c'.session.host.store.live (c'.session.host.store.iteratorAt ref).type = _
    rw [hsame]
    exact h.live_eq hevents ht hcurrent
  -- The built-in types have fixed identities.
  | null | bool | int | float | str | tuple | list | dict | type | function | method =>
    exact (congrArg Except.ok (hbuiltin _)).trans ht

/-- `declare` answers with the type or raises; if it raises, nothing has changed. -/
theorem step_of_declare {d : TypeDecl Code} {base : Option TypeObject} {rest : List Frame}
    (hperforms : c.Performs (.declare d) (base.map .type).toList rest) :
    (∃ t h, c.session.host.register d base = .ok (t, h) ∧ c.step.control = .give (.type t) ∧
      c.step.session = c.session.withHost h) ∨
    (∃ f, c.session.host.register d base = .error f ∧ c.step.control = .raise f.toException ∧
      c.step.session = c.session) := by
  -- Nobody asks for a type of an instance.
  have hready : c.ready = c := by
    refine ready_of_asksForType ?_
    unfold asksForType
    generalize hoperands : (base.map Value.type).toList = operands at hperforms
    cases hperforms with
    | bare hcontrol => rw [hcontrol]
    | operands hcontrol hstack => rw [hcontrol, hstack]
  have hrun : (Op.declare d).run (base.map .type).toList c.ready.session =
      ((c.session.host.declare d (base.map .type).toList).1,
        c.session.withHost (c.session.host.declare d (base.map .type).toList).2) := by
    rw [hready]
    rfl
  rw [Host.declare_eq] at hrun
  cases hregister : c.session.host.register d base with
  | ok r =>
    rw [hregister] at hrun
    have hstep := hperforms.step_of_value hrun
    exact Or.inl ⟨r.1, r.2, rfl, by rw [hstep], by rw [hstep]⟩
  | error f =>
    rw [hregister] at hrun
    have hstep := hperforms.step_of_raise hrun
    refine Or.inr ⟨f, rfl, by rw [hstep], ?_⟩
    rw [hstep]
    rfl

end Config

/-! ## Names -/

namespace Builtin

theorem name_inj {b b' : Builtin} (h : b.name = b'.name) : b = b' := by
  revert h
  cases b <;> cases b' <;> decide

theorem find?_name_eq {bs : List Builtin} (hbs : ∀ b, b ∈ bs) (name : String) :
    bs.find? (·.name = name) = all.find? (·.name = name) := by
  have hfound {bs : List Builtin} (hbs : ∀ b, b ∈ bs) (b : Builtin) :
      bs.find? (·.name = name) = some b ↔ b.name = name := by
    constructor
    · intro h
      simpa using List.find?_some h
    · intro h
      have hsome : (bs.find? (·.name = name)).isSome = true :=
        List.find?_isSome.2 ⟨b, hbs b, decide_eq_true h⟩
      obtain ⟨b', hb'⟩ := Option.isSome_iff_exists.1 hsome
      have hname : b'.name = name := by simpa using List.find?_some hb'
      rw [hb', name_inj (hname.trans h.symm)]
  exact Option.ext fun b => (hfound hbs b).trans (hfound mem_all b).symm

end Builtin

namespace Runtime

variable {rt : Runtime} {ts : List TypeObject} {options : Options} {first : Identity}

theorem Logs.reverse_log (h : (start options first).Logs ts rt) :
    rt.registry.log.reverse = Builtin.all.map (·.typeObject first) ++ ts := by
  rw [h.log_eq, List.reverse_append, List.reverse_reverse, log_start, ← List.map_reverse,
    List.reverse_reverse]

theorem Logs.size_eq (h : (start options first).Logs ts rt) : rt.registry.size = 12 + ts.length := by
  unfold Registry.size
  rw [← List.length_reverse, h.reverse_log, List.length_append, List.length_map]
  rfl

/-- `Registry.named?` finds the newest accepted type of the name, and only then the built-in one. -/
theorem Logs.named?_eq (h : (start options first).Logs ts rt) (name : String) :
    rt.registry.named? name = (ts.reverse.find? (·.name = name)).or
      ((Builtin.all.find? (·.name = name)).map (·.typeObject first)) := by
  have hall : ∀ b, b ∈ Builtin.all.reverse := fun b => List.mem_reverse.2 b.mem_all
  unfold Registry.named?
  rw [h.log_eq, List.find?_append, log_start, List.find?_map, ← Builtin.find?_name_eq hall]
  rfl

end Runtime

/-! ## Main result -/

namespace Config

variable {c c' : Config} {events : List Event}

/-- From a session with a fresh runtime on, until the next restart: the registry is the built-in types and
then the log of the types that were `accepted`, in order, and `named?` finds the newest of a name. A
rejected declaration leaves the session as it is. Whatever is registered later, a registered type keeps
its index, and a value keeps its type. -/
theorem registrations_logged {s : Session} {options : Options} {first : Identity} {setup : Setup}
    {e : Expr} (hfresh : s.host.runtime = .start options first)
    (hhistory : History { control := .eval e, session := s.equip setup } events c')
    (hevents : ∀ event ∈ events, event.isRestart = false) :
    let accepted := s.preloaded setup ++ events.flatMap Event.accepted
    let rt := c'.session.host.runtime
    (∀ i, rt.registry.get? i = (Builtin.all.map (·.typeObject first) ++ accepted)[i]?) ∧
    rt.registry.size = 12 + accepted.length ∧
    (∀ name, rt.registry.named? name = (accepted.reverse.find? (·.name = name)).or
      ((Builtin.all.find? (·.name = name)).map (·.typeObject first))) ∧
    (∀ d base rest, c'.Performs (.declare d) (base.map .type).toList rest →
      (∃ t h, c'.session.host.register d base = .ok (t, h) ∧ c'.step.control = .give (.type t) ∧
        c'.step.session = c'.session.withHost h) ∨
      (∃ f, c'.session.host.register d base = .error f ∧ c'.step.control = .raise f.toException ∧
        c'.step.session = c'.session)) ∧
    ∀ later c'', c'.History later c'' → (∀ event ∈ later, event.isRestart = false) →
      (∀ i t, rt.registry.get? i = some t → c''.session.host.runtime.registry.get? i = some t) ∧
      ∀ v t, v.Exists c'.session.host.store → rt.typeOf c'.session.host.store v = .ok t →
        (∀ old ∈ s.lingering, old.id ≠ t.id) →
        c''.session.host.runtime.typeOf c''.session.host.store v = .ok t := by
  have hlogs := (s.logs_equip setup).trans (hhistory.logs hevents)
  rw [hfresh] at hlogs
  have hlingering := ((s.retires_equip setup).trans (hhistory.retires hevents)).lingering
  refine ⟨fun i => ?_, hlogs.size_eq, hlogs.named?_eq, fun d base rest => step_of_declare,
    fun later c'' hlater hnone => ⟨fun i t => (hlater.logs hnone).get?_eq, ?_⟩⟩
  · unfold Registry.get?
    rw [hlogs.reverse_log]
  · intro v t hv ht hcurrent
    exact hlater.typeOf_eq hnone hv ht fun old hold => hcurrent old (hlingering hold)

def faultyDecl : TypeDecl Code :=
  { name := "int", kind := .host, members := [{ name := "x", offset := 0, kind := .object }] }

/-- Declares a class with the name of a built-in type, and another one that is at fault. -/
def declaring : Config :=
  { control := .eval (.seq
      [.apply (.declare { name := "int", kind := .host }) [],
        .attempt (.apply (.declare faultyDecl) [])])
    session := (Session.start {}).equip { sample := false } }

/-- `int` stands for the new class, while integers are what they were. -/
theorem registrations_logged_declaring :
    let rt := (declaring.after 7).session.host.runtime
    (rt.registry.named? "int").map (·.id) = some 12 ∧ rt.registry.size = 13 ∧
      rt.typeOf (declaring.after 7).session.host.store (.int 1) = .ok (Builtin.int.typeObject 0) := by
  have hbefore := registrations_logged (s := .start {}) rfl (history_after declaring 2)
    (declaring.isRestart_eventsOf 2)
  have hafter := registrations_logged (s := .start {}) rfl (history_after declaring 7)
    (declaring.isRestart_eventsOf 7)
  obtain ⟨-, -, -, -, hlater⟩ := hbefore
  obtain ⟨-, hsize, hnamed, -, -⟩ := hafter
  refine ⟨?_, hsize, ?_⟩
  · rw [hnamed]
    rfl
  · have hhistory := history_after (declaring.after 2) 5
    obtain ⟨-, htypes⟩ := hlater _ _ hhistory ((declaring.after 2).isRestart_eventsOf 5)
    exact htypes (.int 1) _ trivial rfl fun old hold => by contradiction

end Config

end ObjectProtocol
