import ObjectProtocol.Proofs.Calls.Ending
import ObjectProtocol.Proofs.Exceptions.Towers
import ObjectProtocol.Proofs.Sample.Constructors
import ObjectProtocol.Proofs.Types.Current

/-!
# Boxes that call back

A box that is asked to call back calls what it is given with its contents and its counter.  The machine
comes to that in a few moves, which are followed here one by one: `Config.MovesTo` says of each that it
leaves variables, instances and types alone.  Where the function comes from is said by `Config.Provides`,
and `Config.Tower` has the function called back by one box after another.
-/

namespace ObjectProtocol

/-! ## Boxes -/

def callbackMethod : Method Code :=
  ⟨"callback", ArgSpec.empty.required .any, .native (.box .callback)⟩

/-- There is a box at `ref`, of a type that the runtime has registered. -/
def Session.HasBox (s : Session) (ref : Ref) : Prop :=
  ∃ i, s.host.store.instances.get? ref = some i ∧ i.type.IsBox ∧
    i.type ∈ s.host.runtime.registry.log

structure Session.BoxHolds (s : Session) (ref : Ref) (contents : Value) (counter : NativeInt) : Prop where
  contents_eq : Sample.Box.contents (s.host.store.instanceAt ref) = .ok contents
  counter_eq : Sample.Box.counter (s.host.store.instanceAt ref) = .ok counter

theorem TypeObject.IsBox.attribute?_callback {i : Instance} (h : i.type.IsBox) :
    i.attribute? "callback" = some (.method ⟨i.type.id, callbackMethod⟩) := by
  obtain ⟨id, hbuild⟩ := h
  unfold Instance.attribute? Instance.attributeAs?
  rw [TypeDecl.eq_of_build hbuild]
  rfl

theorem Instance.Sound.fields_of_isBox {i : Instance} (h : i.Sound) (ht : i.type.IsBox) :
    ∃ contents counter, i.fields = [.object contents, .int counter] := by
  obtain ⟨id, hbuild⟩ := ht
  have hlayout : Sample.boxDecl.layoutOver none = [.object, .int] := rfl
  have hkinds : i.fields.map Field.kind = [.object, .int] := by
    rw [← hlayout, ← TypeDecl.layout_of_build hbuild]
    exact h.kinds_eq
  obtain ⟨first, rest, hfields, hfirst, hrest⟩ := List.map_eq_cons_iff.1 hkinds
  obtain ⟨second, others, rfl, hsecond, hothers⟩ := List.map_eq_cons_iff.1 hrest
  obtain rfl := List.map_eq_nil_iff.1 hothers
  cases first with
  | int n => contradiction
  | object contents =>
    cases second with
    | object value => contradiction
    | int counter => exact ⟨contents, counter, hfields⟩

namespace Sample.Box

variable {i : Instance} {value : Option Value} {n : NativeInt}

theorem contents_of_fields (h : i.fields = [.object value, .int n]) :
    contents i = .ok (value.getD .null) := by
  unfold contents contentsField
  rw [Instance.readObject_of_field (v := value) (by rw [h]; rfl)]
  rfl

theorem counter_of_fields (h : i.fields = [.object value, .int n]) : counter i = .ok n := by
  unfold counter counterField
  exact Instance.readInt_of_field (by rw [h]; rfl)

theorem callback_eq {s : Store} {target object : Value} (hcallable : s.isCallable target = true)
    (hobject : contents i = .ok object) (hn : counter i = .ok n) :
    callback s i ⟨[(target, none)]⟩ = .ok (.call target [object, .ofNative n]) := by
  have hget : (Args.mk [(target, none)]).get 0 = .ok target := rfl
  have hensure : ensureCallable s target = .ok () := if_pos hcallable
  unfold callback invoke
  rw [hget, hobject, hn]
  show (failing (ensureCallable s target)).bind
    (fun _ => (failing (ensureCallable s target)).map fun _ => Answer.call target [object, .ofNative n]) = _
  rw [hensure]
  rfl

end Sample.Box

/-! ## Towers -/

namespace Config

/-- The expression that calls `callback` of the box in the variable. -/
def callBack (box : String) (inner : Expr) : Expr :=
  .apply (.object (.callMethod "callback")) [variableNamed box, inner]

/-- The expression gives a host function with the body: a variable has one, or `closure` makes one. -/
inductive Provides (globals : Table Value) (code : Code) : Expr → Prop
  | named {x : String} {f : Function} : globals.get? x = some (.function f) →
    f.body = .host code → Provides globals code (variableNamed x)
  | made (name : String) : Provides globals code (.apply (.closure name code) [])

/-- `inner` is called back by the box at `innermost`, from a function that the next box calls back, and so
on; the other boxes are listed from the outermost on. -/
inductive Tower (globals : Table Value) (code : Code) (innermost : Ref) : List Ref → Expr → Prop
  | innermost {x : String} {inner : Expr} : globals.get? x = some (.object innermost) →
    Provides globals code inner → Tower globals code innermost [] (callBack x inner)
  | wrap {b : Ref} {boxes : List Ref} {x : String} {e inner : Expr} :
    globals.get? x = some (.object b) → Tower globals code innermost boxes e →
    Provides globals [e] inner → Tower globals code innermost (b :: boxes) (callBack x inner)

end Config

/-! ## Moves of the machine -/

def Frame.handsOn : Frame → Bool
  | .activation _ | .scope _ => true
  | _ => false

structure Session.Undisturbed (s s' : Session) : Prop where
  globals_eq : s'.globals = s.globals
  instances_eq : s'.host.store.instances = s.host.store.instances
  log_eq : s'.host.runtime.registry.log = s.host.runtime.registry.log

namespace Session

variable {s s' s'' : Session}

theorem Undisturbed.trans (h : s.Undisturbed s') (h' : s'.Undisturbed s'') : s.Undisturbed s'' :=
  ⟨h'.globals_eq.trans h.globals_eq, h'.instances_eq.trans h.instances_eq,
    h'.log_eq.trans h.log_eq⟩

theorem boxHolds_of_fields {ref : Ref} {i : Instance} {value : Option Value} {n : NativeInt}
    (hi : s.host.store.instances.get? ref = some i) (hfields : i.fields = [.object value, .int n]) :
    s.BoxHolds ref (value.getD .null) n := by
  rw [← Store.instanceAt_eq hi] at hfields
  exact ⟨Sample.Box.contents_of_fields hfields, Sample.Box.counter_of_fields hfields⟩

theorem HasBox.undisturbed {ref : Ref} (h : s.HasBox ref) (hs : s.Undisturbed s') :
    s'.HasBox ref := by
  obtain ⟨i, hi, htype, hlog⟩ := h
  exact ⟨i, hs.instances_eq ▸ hi, htype, hs.log_eq ▸ hlog⟩

theorem BoxHolds.undisturbed {ref : Ref} {contents : Value} {counter : NativeInt}
    (h : s.BoxHolds ref contents counter) (hs : s.Undisturbed s') :
    s'.BoxHolds ref contents counter := by
  have hat : s'.host.store.instanceAt ref = s.host.store.instanceAt ref := by
    unfold Store.instanceAt
    rw [hs.instances_eq]
  exact ⟨hat ▸ h.contents_eq, hat ▸ h.counter_eq⟩

end Session

namespace Config

variable {c : Config}

/-- The machine has moved on to `control` on top of `stack`, and the session is `Undisturbed`. -/
structure MovesTo (c c' : Config) (control : Control) (stack : List Frame) : Prop where
  control_eq : c'.control = control
  stack_eq : c'.stack = stack
  args_eq : c'.args = c.args
  session : c.session.Undisturbed c'.session

theorem MovesTo.trans {c' c'' : Config} {control control' : Control} {stack stack' : List Frame}
    (h : c.MovesTo c' control stack) (h' : c'.MovesTo c'' control' stack') :
    c.MovesTo c'' control' stack' :=
  ⟨h'.control_eq, h'.stack_eq, h'.args_eq.trans h.args_eq, h.session.trans h'.session⟩

theorem undisturbed_ready (c : Config) : c.session.Undisturbed c.ready.session := by
  obtain ⟨released, lingering, hready⟩ := c.releasedTo_ready
  rw [hready]
  exact ⟨rfl, rfl, rfl⟩

theorem moves_of_operands {op : Op Code} {e : Expr} {es : List Expr}
    (h : c.control = .eval (.apply op (e :: es))) :
    c.MovesTo c.step (.eval e) (.operand op [] es :: c.stack) := by
  rw [step_eq_advance, advance_of_eval (c.control_ready.trans h)]
  refine ⟨rfl, ?_, c.args_ready, c.undisturbed_ready⟩
  show Frame.operand op [] es :: c.ready.stack = _
  rw [c.stack_ready]

theorem moves_of_operand {op : Op Code} {v : Value} {done : List Value} {e : Expr} {es : List Expr}
    {rest : List Frame} (h : c.control = .give v) (hstack : c.stack = .operand op done (e :: es) :: rest) :
    c.MovesTo c.step (.eval e) (.operand op (v :: done) es :: rest) := by
  rw [step_eq_advance, advance_of_give (c.control_ready.trans h) (c.stack_ready.trans hstack)]
  exact ⟨rfl, rfl, c.args_ready, c.undisturbed_ready⟩

theorem moves_of_performs {op : Op Code} {operands : List Value} {rest : List Frame} {v : Value}
    {s : Session} (h : c.Performs op operands rest)
    (hrun : op.run operands c.ready.session = (.value v, s))
    (hs : c.ready.session.Undisturbed s) : c.MovesTo c.step (.give v) rest := by
  rw [h.step_of_value hrun]
  exact ⟨rfl, rfl, c.args_ready, c.undisturbed_ready.trans hs⟩

theorem moves_of_variable {x : String} {v : Value} (h : c.control = .eval (variableNamed x))
    (hx : c.session.globals.get? x = some v) : c.MovesTo c.step (.give v) c.stack := by
  refine moves_of_performs (s := c.ready.session) (.bare h) ?_ ⟨rfl, rfl, rfl⟩
  show SessionOp.run (.getVariable x) [] c.ready.session = _
  unfold SessionOp.run
  dsimp only
  rw [c.undisturbed_ready.globals_eq, hx]

theorem moves_of_provides {code : Code} {e : Expr} (h : c.control = .eval e)
    (he : Provides c.session.globals code e) :
    ∃ f : Function, f.body = .host code ∧ c.MovesTo c.step (.give (.function f)) c.stack := by
  cases he with
  | named hx hbody => exact ⟨_, hbody, moves_of_variable h hx⟩
  | made name => exact ⟨_, rfl, moves_of_performs (.bare h) rfl ⟨rfl, rfl, rfl⟩⟩

theorem moves_of_body {e : Expr} (h : c.control = .body [e]) :
    c.MovesTo c.step (.eval e) c.stack := by
  rw [step_eq_advance, advance_of_body (c.control_ready.trans h)]
  exact ⟨rfl, c.stack_ready, c.args_ready, c.undisturbed_ready⟩

theorem moves_of_callMethod {ref : Ref} {v : Value} {rest : List Frame} (h : c.Reachable)
    (hcontrol : c.control = .give v)
    (hstack : c.stack = .operand (.object (.callMethod "callback")) [.object ref] [] :: rest)
    (hbox : c.session.HasBox ref) :
    ∃ id owner, c.MovesTo c.step (.call (.method id (.object ref) ⟨owner, callbackMethod⟩) [v]) rest := by
  obtain ⟨i, hi, htype, hlog⟩ := hbox.undisturbed c.undisturbed_ready
  have hat := Store.instanceAt_eq hi
  have hlive := (current_ready h.current).live_eq hlog
  have hlookup := Store.getAttr_of_method (s := c.ready.session.host.store)
    (hat.symm ▸ hlive) (hat.symm ▸ htype.attribute?_callback)
  have hperforms : c.Performs (.object (.callMethod "callback")) [.object ref, v] rest :=
    .operands hcontrol hstack
  rw [hperforms.step_of_callMethod hlookup]
  refine ⟨c.ready.session.host.store.nextId, (c.ready.session.host.store.instanceAt ref).type.id, ?_⟩
  exact ⟨rfl, rfl, c.args_ready, c.undisturbed_ready.trans ⟨rfl, rfl, rfl⟩⟩

/-! ### Calls -/

theorem step_of_dispatch {target : Value} {args : List Value} (hcontrol : c.control = .call target args)
    (hdepth : c.depth < c.limit) :
    ∃ called : Config, c.step = called.dispatch target args ∧ called.args = c.args ∧
      (∃ kept, called.stack = .activation kept :: c.stack) ∧
      called.session.host.store = c.ready.session.host.store ∧ c.session.Undisturbed called.session := by
  refine ⟨_, step_call_of_depth_lt hcontrol hdepth, c.args_ready, ⟨c.ready.keptBy target args, ?_⟩, rfl, ?_⟩
  · show Frame.activation _ :: c.ready.stack = _
    rw [c.stack_ready]
  · exact c.undisturbed_ready.trans ⟨rfl, rfl, rfl⟩

/-- `Sample.Box.callback` calls the target with contents and counter. -/
theorem moves_of_callback {id owner : Identity} {ref : Ref} {target contents : Value}
    {counter : NativeInt}
    (hcontrol : c.control = .call (.method id (.object ref) ⟨owner, callbackMethod⟩) [target])
    (hdepth : c.depth < c.limit) (hcallable : c.ready.session.host.store.isCallable target = true)
    (hholds : c.session.BoxHolds ref contents counter) :
    ∃ kept, c.MovesTo c.step (.call target [contents, .ofNative counter])
      (.activation kept :: c.stack) := by
  obtain ⟨called, hstep, hargs, ⟨kept, hstack⟩, hstore, hsession⟩ := step_of_dispatch hcontrol hdepth
  obtain ⟨hcontents, hcounter⟩ := hholds.undisturbed hsession
  -- Counting the call has changed neither the box nor what can be called.
  have hrun : called.session.host.runMethod ⟨owner, callbackMethod⟩ (.object ref) [target] =
      (.call target [contents, .ofNative counter], called.session.host) := by
    show Entry.ofAnswer (Sample.Box.callback called.session.host.store
      (called.session.host.store.instanceAt ref) ⟨[(target, none)]⟩, called.session.host) = _
    rw [Sample.Box.callback_eq (hstore ▸ hcallable) hcontents hcounter]
    rfl
  have hdispatch : called.dispatch (.method id (.object ref) ⟨owner, callbackMethod⟩) [target] =
      called.enter fun h => h.runMethod ⟨owner, callbackMethod⟩ (.object ref) [target] := rfl
  rw [hdispatch, enter_eq hrun] at hstep
  rw [hstep]
  exact ⟨kept, rfl, hstack, hargs, hsession.trans ⟨rfl, rfl, rfl⟩⟩

theorem step_of_hostFunction {f : Function} {code : Code} {args : List Value}
    (hcontrol : c.control = .call (.function f) args) (hdepth : c.depth < c.limit)
    (hbody : f.body = .host code) :
    c.step.control = .body code ∧ c.step.args = args ∧
      (∃ kept, c.step.stack = .scope c.args :: .activation kept :: c.stack) ∧
      c.session.Undisturbed c.step.session := by
  obtain ⟨called, hstep, hargs, ⟨kept, hstack⟩, -, hsession⟩ := step_of_dispatch hcontrol hdepth
  have hrun : called.session.host.runFunction f args = (.run code args, called.session.host) := by
    unfold Host.runFunction
    rw [hbody]
  have hdispatch : called.dispatch (.function f) args =
      called.enter fun h => h.runFunction f args := rfl
  rw [hdispatch, enter_eq hrun] at hstep
  rw [hstep]
  refine ⟨rfl, rfl, ⟨kept, ?_⟩, hsession.trans ⟨rfl, rfl, rfl⟩⟩
  show [Frame.scope called.args] ++ called.stack = _
  rw [hargs, hstack]
  rfl

/-! ## What comes out of a level -/

theorem passes_of_handsOn {control : Control} {frame : Frame} (hout : control.isOutcome = true)
    (hframe : frame.handsOn = true) : frame.Passes control := by
  intro c rest hcontrol hstack
  have hready := c.stack_ready.trans hstack
  rw [step_eq_advance]
  cases control with
  | give v =>
    rw [advance_of_give (c.control_ready.trans hcontrol) hready]
    cases frame with
    | activation | scope => exact ⟨rfl, rfl⟩
    | _ => contradiction
  | raise e =>
    rw [advance_of_raise (c.control_ready.trans hcontrol) hready]
    cases frame with
    | activation | scope => exact ⟨rfl, rfl⟩
    | _ => contradiction
  -- Only outcomes are handed on.
  | eval | body | call | malformed => contradiction

end Config

end ObjectProtocol
