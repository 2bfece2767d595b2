import ObjectProtocol.Proofs.BuiltTypes
import ObjectProtocol.Proofs.Provenance.Sessions

/-!
# Where the types of a run come from

A step stays within a realm if it performs no operation that makes something outside.  So in everything
that scripts come to, all types have been built by registrations and all instances are sound.
-/

namespace ObjectProtocol

variable {P : Realm}

namespace Config

/-- Everything that the machine and its session hold is `Within` the realm. -/
structure Within (P : Realm) (c : Config) : Prop where
  control : ∀ v ∈ c.control.values, v.Within P
  stack : ∀ frame ∈ c.stack, ∀ v ∈ frame.values, v.Within P
  args : ∀ v ∈ c.args, v.Within P
  session : c.session.Within P

variable {c : Config}

theorem Within.of_performs (h : c.Within P) {op : Op Code} {operands : List Value}
    {rest : List Frame} (hperforms : c.Performs op operands rest) : ∀ v ∈ operands, v.Within P := by
  have hwaiting {v : Value} {frame : Frame} (hcontrol : c.control = .give v)
      (hstack : c.stack = frame :: rest) : ∀ u ∈ (v :: frame.values).reverse, u.Within P := by
    intro u hu
    rcases List.mem_cons.1 (List.mem_reverse.1 hu) with rfl | hu
    · exact h.control u (by rw [hcontrol]; exact List.mem_cons_self)
    · exact h.stack frame (by rw [hstack]; exact List.mem_cons_self) u hu
  cases hperforms with
  | bare | noValues => exact fun v hv => by contradiction
  | operands hcontrol hstack => exact hwaiting hcontrol hstack
  | values hcontrol hstack => exact hwaiting hcontrol hstack

theorem Within.below_performs (h : c.Within P) {op : Op Code} {operands : List Value}
    {rest : List Frame} (hperforms : c.Performs op operands rest) :
    Within P { c with stack := rest } :=
  ⟨h.control, fun _ hframe => h.stack _ (hperforms.mem_stack hframe), h.args, h.session⟩

/-- Whatever operation the next step performs, it `RunsWithin` the realm. -/
def RunsWithin (P : Realm) (c : Config) : Prop :=
  ∀ op operands rest, c.Performs op operands rest → op.RunsWithin P operands c.session

/-! ## Moves of the machine -/

theorem Within.control_of (h : c.Within P) {control : Control}
    (hcontrol : ∀ v ∈ control.values, v.Within P) : Within P { c with control } :=
  ⟨hcontrol, h.stack, h.args, h.session⟩

theorem Within.give (h : c.Within P) {v : Value} (hv : v.Within P) :
    Within P { c with control := .give v } :=
  h.control_of (List.forall_mem_singleton.2 hv)

theorem Within.silent (h : c.Within P) {control : Control} (hcontrol : control.values = []) :
    Within P { c with control } :=
  h.control_of (by simp [hcontrol])

theorem Within.push (h : c.Within P) (frame : Frame) (hframe : ∀ v ∈ frame.values, v.Within P) :
    (c.push frame).Within P :=
  ⟨h.control, List.forall_mem_cons.2 ⟨hframe, h.stack⟩, h.args, h.session⟩

theorem Within.pushEval (h : c.Within P) (frame : Frame) (e : Expr)
    (hframe : ∀ v ∈ frame.values, v.Within P) :
    Within P { c.push frame with control := .eval e } :=
  (h.push frame hframe).silent rfl

theorem Within.enter (h : c.Within P) {f : Host → Entry × Host}
    (hf : Entry.Made P (f c.session.host)) : (c.enter f).Within P := by
  obtain ⟨control, stack, args, session⟩ := c
  obtain ⟨hentry, hhost⟩ := hf
  have hsession : Session.Within P { session with host := (f session.host).2 } :=
    ⟨hhost, h.session.globals, h.session.modules⟩
  unfold Config.enter onHost onSession Session.onHost
  dsimp only at hentry ⊢
  split
  · rename_i v heq
    rw [heq] at hentry
    exact ⟨List.forall_mem_singleton.2 hentry, h.stack, h.args, hsession⟩
  · exact ⟨fun v hv => by contradiction, h.stack, h.args, hsession⟩
  · rename_i target args' heq
    rw [heq] at hentry
    exact ⟨List.forall_mem_cons.2 hentry, h.stack, h.args, hsession⟩
  · -- The arguments outside move to the frame, those of the body take their place.
    rename_i code args' heq
    rw [heq] at hentry
    exact ⟨fun v hv => by contradiction, List.forall_mem_cons.2 ⟨h.args, h.stack⟩, hentry,
      hsession⟩

theorem Within.giveSketch (h : c.Within P) {sketch : Sketch} (hsketch : sketch.Within P) :
    (c.giveSketch sketch).Within P := by
  have hmade := hsketch.build h.session.host.store
  exact ⟨List.forall_mem_singleton.2 hmade.value, h.stack, h.args,
    ⟨h.session.host.runtime, hmade.store⟩, h.session.globals, h.session.modules⟩

theorem Within.operate (h : c.Within P) {op : Op Code} {operands : List Value}
    (hrun : op.RunsWithin P operands c.session) : (c.operate op operands).Within P := by
  obtain ⟨control, stack, args, session⟩ := c
  obtain ⟨hrequest, hsession⟩ := hrun
  have hafter (control : Control) (hcontrol : ∀ v ∈ control.values, v.Within P) :
      Within P ⟨control, stack, args, (op.run operands session).2⟩ :=
    ⟨hcontrol, h.stack, h.args, hsession⟩
  unfold Config.operate onSession
  dsimp only at hrequest ⊢
  split
  · rename_i v heq
    rw [heq] at hrequest
    exact hafter _ (List.forall_mem_singleton.2 hrequest)
  · exact hafter _ fun v hv => by contradiction
  · rename_i target args' heq
    rw [heq] at hrequest
    exact hafter _ (List.forall_mem_cons.2 hrequest)
  · rename_i t d receiver heq
    rw [heq] at hrequest
    -- The method is called on the operand, under a frame that checks its answer.
    have hpushed := (hafter control h.control).push (.length t)
      (List.forall_mem_singleton.2 (.type hrequest.1))
    exact hpushed.enter
      (hpushed.session.host.runMethod d hrequest.2 fun v hv => by contradiction)
  · exact hafter _ fun v hv => by contradiction

theorem Within.operands (h : c.Within P) {op : Op Code} {done : List Value} {todo : List Expr}
    (hrun : todo = [] → op.RunsWithin P done.reverse c.session) (hv : ∀ v ∈ done, v.Within P) :
    (c.operands op done todo).Within P := by
  cases todo with
  | nil => exact h.operate (hrun rfl)
  | cons e todo => exact h.pushEval (.operand op done todo) e hv

theorem Within.entries (h : c.Within P) {made : Mapping} (hm : made.Within P)
    (pairs : List (Expr × Expr)) : (c.entries made pairs).Within P := by
  cases pairs with
  | nil =>
    have hmade := h.session.host.store.newDict hm
    exact ⟨List.forall_mem_singleton.2 hmade.value, h.stack, h.args,
      ⟨h.session.host.runtime, hmade.store⟩, h.session.globals, h.session.modules⟩
  | cons pair rest =>
    exact h.pushEval (.key made pair.2 rest) pair.1 (Mapping.within_iff.1 hm)

theorem Within.repetitions (h : c.Within P) (body : Expr) {done : List Value} {left : Nat}
    (hrun : left = 0 → Op.RunsWithin P (.object .list) done.reverse c.session)
    (hv : ∀ v ∈ done, v.Within P) : (c.repetitions body done left).Within P := by
  cases left with
  | zero => exact h.operate (hrun rfl)
  | succ left => exact h.pushEval (.repetition left body done) body hv

theorem Within.eval (h : c.Within P) {e : Expr} (hcontrol : c.control = .eval e)
    (hrun : c.RunsWithin P) : (c.eval e).Within P := by
  have hnone : ∀ v ∈ ([] : List Value), v.Within P := fun v hv => by contradiction
  cases e with
  | null | bool | int | float => exact h.give (.plain rfl)
  | str text => exact h.giveSketch (.text text)
  | dict pairs => exact h.entries Mapping.within_empty pairs
  -- With no operands to evaluate the operation is performed at once.
  | apply op es =>
    refine h.operands (fun hnil => hrun op [] c.stack (.bare ?_)) hnone
    rw [hcontrol, hnil]
  | arg i =>
    refine h.give ?_
    rw [List.getD_eq_getElem?_getD]
    exact Value.within_getD_null fun v hv => h.args v (List.mem_of_getElem? hv)
  | args => exact h.giveSketch (.tupleOf fun v hv => h.args v (List.mem_toArray.1 hv))
  | seq | raise => exact h.silent rfl
  | ite condition yes no => exact h.pushEval (.condition yes no) condition hnone
  | attempt body => exact h.pushEval .attempt body hnone
  -- Repeating zero times gives an empty list, which the store must make.
  | «repeat» count body =>
    refine h.repetitions body (fun hzero => hrun (.object .list) [] c.stack ?_) hnone
    exact .noValues (hcontrol.trans (congrArg (fun n => Control.eval (.repeat n body)) hzero))

theorem Within.body (h : c.Within P) (es : List Expr) : (c.body es).Within P := by
  match es with
  | [] => exact h.give (.plain rfl)
  | [e] => exact h.silent rfl
  | e :: e' :: rest =>
    exact h.pushEval (.sequence (e' :: rest)) e fun v hv => by contradiction

/-! ## Calls -/

theorem Within.dispatch (h : c.Within P) {target : Value} (ht : target.Within P)
    {args : List Value} (hargs : ∀ v ∈ args, v.Within P) :
    (c.dispatch target args).Within P := by
  cases target with
  | function f =>
    refine Within.enter h (f := fun h => h.runFunction f args) ?_
    exact h.session.host.runFunction f hargs
  | method id receiver d =>
    refine Within.enter h (f := fun h => h.runMethod d receiver args) ?_
    exact h.session.host.runMethod d ht.of_method.1 hargs
  | type t =>
    unfold Config.dispatch
    dsimp only
    split
    · exact h.silent rfl
    · -- The instance is made first, then its initializer is entered.
      have hhost := h.session.host.newInstance ht.of_type
      have hnew : Within P (c.onHost fun h => h.newInstance t).2 :=
        ⟨h.control, h.stack, h.args, hhost, h.session.globals, h.session.modules⟩
      refine (hnew.push (.initializer _) (List.forall_mem_singleton.2 (.plain rfl))).enter ?_
      exact hhost.setUp t _ hargs
  | object ref =>
    unfold Config.dispatch
    dsimp only
    split
    · exact h.silent rfl
    · split
      · exact h.enter (h.session.host.runMethod _ ht hargs)
      · exact h.silent rfl
  | null | bool | int | float | str | tuple | list | dict | iterator => exact h.silent rfl

theorem Within.setDepth (h : c.Within P) (depth : Nat) : (c.setDepth depth).Within P :=
  ⟨h.control, h.stack, h.args,
    ⟨⟨h.session.host.runtime.builtin, h.session.host.runtime.registered⟩,
      h.session.host.store⟩, h.session.globals, h.session.modules⟩

theorem Within.keptBy (h : c.Within P) {target : Value} (ht : target.Within P)
    {args : List Value} (hargs : ∀ v ∈ args, v.Within P) :
    ∀ v ∈ c.keptBy target args, v.Within P := by
  have hboth := List.forall_mem_cons.2 ⟨ht, hargs⟩
  cases target with
  | object ref =>
    exact List.forall_mem_cons.2 ⟨.type (h.session.host.store.instances ref).type, hboth⟩
  | _ => exact hboth

theorem Within.call (h : c.Within P) {target : Value} (ht : target.Within P)
    {args : List Value} (hargs : ∀ v ∈ args, v.Within P) : (c.call target args).Within P := by
  unfold Config.call
  split
  · exact h.silent rfl
  · exact ((h.setDepth _).push (.activation _) (h.keptBy ht hargs)).dispatch ht hargs

/-! ## Steps -/

theorem Within.receive (h : c.Within P) {v : Value} (hv : v.Within P) {frame : Frame}
    (hframe : ∀ v ∈ frame.values, v.Within P)
    (hrun : ∀ op operands rest, Performs ⟨.give v, frame :: rest, c.args, c.session⟩ op operands rest →
      op.RunsWithin P operands c.session) :
    (c.receive v frame).Within P := by
  cases frame with
  -- The last operand has arrived, or the next one is evaluated.
  | operand op done todo =>
    refine h.operands (fun hnil => hrun op _ [] (.operands rfl ?_))
      (List.forall_mem_cons.2 ⟨hv, hframe⟩)
    rw [hnil]
  | condition yes no => exact h.silent rfl
  | sequence rest => exact h.silent rfl
  | repetition left body done =>
    refine h.repetitions body (fun hzero => hrun (.object .list) _ [] ?_)
      (List.forall_mem_cons.2 ⟨hv, hframe⟩)
    exact .values rfl (congrArg (fun n => [Frame.repetition n body done]) hzero)
  | attempt =>
    have hsketch : Sketch.Within P (.tuple [.text "ok", .given v]) := by
      refine .tuple (List.forall_mem_cons.2 ⟨.text _, ?_⟩)
      exact List.forall_mem_singleton.2 (.given hv)
    exact h.giveSketch hsketch
  | key made value rest =>
    exact h.pushEval (.entry made v rest) value (List.forall_mem_cons.2 ⟨hv, hframe⟩)
  | entry made key rest =>
    obtain ⟨hkey, hmade⟩ := List.forall_mem_cons.1 hframe
    exact h.entries ((Mapping.within_iff.2 hmade).insert hkey hv) rest
  | activation kept => exact (h.setDepth _).give hv
  -- The arguments of the caller are back in force.
  | scope outside => exact ⟨List.forall_mem_singleton.2 hv, h.stack, hframe, h.session⟩
  | initializer receiver => exact h.control_of hframe
  | length t =>
    unfold Config.receive
    dsimp only
    split
    · exact h.give (.plain rfl)
    · exact h.silent rfl

theorem Within.unwind (h : c.Within P) (e : Exception) (frame : Frame)
    (hframe : ∀ v ∈ frame.values, v.Within P) : (c.unwind e frame).Within P := by
  cases frame with
  | attempt =>
    have hsketch : Sketch.Within P (.tuple [.text "err", .text e.kind.name, .text e.message]) := by
      refine .tuple (List.forall_mem_cons.2 ⟨.text _, List.forall_mem_cons.2 ⟨.text _, ?_⟩⟩)
      exact List.forall_mem_singleton.2 (.text _)
    exact h.giveSketch hsketch
  | activation kept => exact (h.setDepth _).silent rfl
  | scope outside => exact ⟨fun v hv => by contradiction, h.stack, hframe, h.session⟩
  | operand | condition | sequence | repetition | key | entry | initializer | length =>
    exact h.silent rfl

theorem Within.advance (h : c.Within P) (hrun : c.RunsWithin P) : c.advance.Within P := by
  obtain ⟨control, stack, args, session⟩ := c
  cases control with
  | eval e => exact h.eval rfl hrun
  | body es => exact h.body es
  | call target args' =>
    obtain ⟨ht, hargs⟩ := List.forall_mem_cons.1 h.control
    exact h.call ht hargs
  | malformed => exact h
  | give v =>
    match stack with
    | [] => exact h
    | frame :: rest =>
      obtain ⟨hframe, hrest⟩ := List.forall_mem_cons.1 h.stack
      have hpopped : Within P ⟨.give v, rest, args, session⟩ :=
        ⟨h.control, hrest, h.args, h.session⟩
      refine hpopped.receive (List.forall_mem_singleton.1 h.control) hframe ?_
      intro op operands below hperforms
      -- What is on the stack below does not matter.
      cases hperforms with
      | operands hcontrol hstack =>
        exact hrun op _ rest (.operands hcontrol (by rw [(List.cons.inj hstack).1]))
      | values hcontrol hstack =>
        exact hrun _ _ rest (.values hcontrol (by rw [(List.cons.inj hstack).1]))
  | raise e =>
    match stack with
    | [] => exact h
    | frame :: rest =>
      obtain ⟨hframe, hrest⟩ := List.forall_mem_cons.1 h.stack
      have hpopped : Within P ⟨.raise e, rest, args, session⟩ :=
        ⟨h.control, hrest, h.args, h.session⟩
      exact hpopped.unwind e frame hframe

end Config

theorem Session.Within.sweep {s : Session} (h : s.Within P) (others : Unit → List Value) :
    (s.sweep others).Within P := by
  obtain ⟨gone, lingering, heq⟩ := s.exists_sweep_eq others
  rw [heq]
  exact ⟨⟨h.host.runtime, h.host.store.with _ _⟩, h.globals, h.modules⟩

theorem Config.Within.sweep {c : Config} (h : c.Within P) : c.sweep.Within P := by
  have hsession := h.session.sweep fun () => c.roots
  unfold Config.sweep
  generalize c.session.sweep (fun () => c.roots) = session at hsession
  exact ⟨h.control, h.stack, h.args, hsession⟩

theorem Config.Within.ready {c : Config} (h : c.Within P) : c.ready.Within P := by
  rcases c.ready_cases with heq | heq
  · rw [heq]
    exact h
  · rw [heq]
    exact h.sweep

/-- `step` stays within the realm if the operation does that it performs. -/
theorem Config.Within.step_of_runs {c : Config} (h : c.Within P) (hrun : c.ready.RunsWithin P) :
    c.step.Within P := by
  rw [c.step_eq_advance]
  exact h.ready.advance hrun

theorem Config.Within.step {c : Config} (h : c.Within P) (hP : Hereditary P)
    (hbinds : c.ready.session.host.store.Binds P)
    (hallowed : ∀ op operands rest, c.ready.Performs op operands rest →
      op.Allowed P c.ready.session operands) : c.step.Within P :=
  h.step_of_runs fun op operands rest hperforms =>
    op.within_run hP hbinds (hallowed op operands rest hperforms)
      (h.ready.of_performs hperforms) h.ready.session

/-! ## Scripts -/

namespace TypeObject.Built

theorem hereditary : Hereditary Built where
  absent := .builtin 0 ""
  base _ _ h hb := h.base? hb

theorem builds (d : TypeDecl Code) (id : Identity) : Realm.Builds Built d id :=
  fun _ _ hbase hbuild => .declared hbase hbuild

theorem hasSample : Realm.HasSample Built where
  builds _ _ _ _ hbuild := .declared (fun _ hb => by contradiction) hbuild
  functions _ _ _ := trivial

theorem binds (s : Store) : s.Binds Built := fun _ _ _ _ => trivial

theorem allowed (op : Op Code) (s : Session) (operands : List Value) :
    op.Allowed Built s operands := by
  cases op with
  | object op =>
    show op.Allowed Built operands
    -- Only binding a method asks for anything, and the realm admits every method.
    unfold ObjectOp.Allowed
    split
    · exact fun _ _ => trivial
    · exact trivial
  | draw op => exact trivial
  | declare d => exact builds d _
  | closure name body => exact fun _ => trivial
  | session op =>
    cases op with
    | loadSample => exact hasSample
    | makeModule => exact fun _ _ _ _ _ => trivial
    | getVariable | setVariable | dropVariable | moduleAttr | moduleGet | moduleInfo =>
      exact trivial

end TypeObject.Built

def Realm.HasBuiltin (P : Realm) : Prop := ∀ id name, P.type (.builtin id name)

theorem Realm.HasBuiltin.typeObject (h : P.HasBuiltin) (first : Identity) (b : Builtin) :
    P.type (b.typeObject first) := h _ _

theorem Runtime.within_start {first : Identity} (hbuiltin : ∀ b : Builtin, P.type (b.typeObject first))
    (options : Options) : (Runtime.start options first).Within P := by
  refine ⟨hbuiltin, fun t ht => ?_⟩
  rw [log_start] at ht
  obtain ⟨b, -, rfl⟩ := List.mem_map.1 ht
  exact hbuiltin b

namespace Session

variable {s : Session}

theorem within_start (hP : Hereditary P) (hbuiltin : ∀ b : Builtin, P.type (b.typeObject 0))
    (options : Options) : (start options).Within P where
  host := ⟨Runtime.within_start hbuiltin options, Store.within_of_empty hP _⟩
  globals := Table.within_empty
  modules m hm := by contradiction

theorem Within.restart (h : s.Within P)
    (hbuiltin : ∀ b : Builtin, P.type (b.typeObject s.host.store.nextId)) (options : Options) :
    (s.restart options).Within P := by
  unfold Session.restart
  refine Within.sweep ?_ _
  refine ⟨⟨Runtime.within_start hbuiltin options, h.host.store.with _ _⟩, h.globals, ?_⟩
  intro m hm
  contradiction

theorem Within.equip (h : s.Within P) (hsample : P.HasSample) (setup : Setup) :
    (s.equip setup).Within P := by
  unfold Session.equip
  split
  · exact (h.loadSample hsample).2
  · exact h

end Session

theorem Config.within_begin {s : Session} (hs : s.Within P) (e : Expr) :
    Config.Within P { control := .eval e, session := s } :=
  ⟨fun v hv => by contradiction, fun f hf => by contradiction, fun v hv => by contradiction, hs⟩

open TypeObject

/-- In every `Reachable` configuration every type is `Built` and every instance is `Sound`. -/
theorem Config.Reachable.within {c : Config} (h : c.Reachable) : c.Within Built := by
  have hbuiltin : Realm.HasBuiltin Built := .builtin
  induction h with
  | start setup e =>
    have hstart := Session.within_start Built.hereditary (hbuiltin.typeObject 0) setup.options
    exact within_begin (hstart.equip Built.hasSample setup) e
  | step hc ih =>
    exact ih.step Built.hereditary (Built.binds _) fun op operands _ _ =>
      Built.allowed op _ operands
  | next e hc hend ih => exact within_begin ih.session e
  | restart setup e hc hend ih =>
    have hrestart := ih.session.restart (hbuiltin.typeObject _) setup.options
    exact within_begin (hrestart.equip Built.hasSample setup) e

end ObjectProtocol
