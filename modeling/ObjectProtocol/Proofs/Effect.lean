import ObjectProtocol.Proofs.Iteration.Fresh
import ObjectProtocol.Proofs.Run

/-!
# What a step does to the session

Most steps only move the machine.  Those that work on the session make a value, run an operation, or
begin a call: a function or a method is run, or an instance is made and initialized.  `Config.Effect`
lists the ways, each with what the machine has found when it takes it, and `effect_advance` is the only
place that looks at every control and frame; what holds of the objects of a run follows from the cases.
-/

namespace ObjectProtocol

def Session.withHost (s : Session) (h : Host) : Session := { s with host := h }

namespace Entry

def control : Entry → Control
  | give v => .give v
  | raise e => .raise e
  | call target args => .call target args
  | run code _ => .body code

def frames (outside : List Value) : Entry → List Frame
  | run .. => [.scope outside]
  | give _ | raise _ | call .. => []

def argsOver (outside : List Value) : Entry → List Value
  | run _ args => args
  | give _ | raise _ | call .. => outside

end Entry

def Request.control? : Request → Option Control
  | value v => some (.give v)
  | raise e => some (.raise e)
  | call target args => some (.call target args)
  | malformed => some .malformed
  | measure .. => none

theorem Op.run_object_of_eq {op : ObjectOp} {operands : List Value} {s : Session} {request : Request}
    {store : Store} (h : op.run operands s.host.runtime s.host.store = (request, store)) :
    (Op.object op : Op Code).run operands s = (request, s.setStore store) := by
  unfold Op.run Session.onStore
  dsimp only
  rw [h]
  rfl

namespace Config

def counted (c : Config) : Session := (c.setDepth (c.depth + 1)).session

/-- What the session of a configuration may become by `Config.advance`. -/
inductive Effect (c : Config) : Session → Prop
  /-- Nothing is done, or a call is counted that is refused later, or no longer counted. -/
  | count (depth : Nat) : Effect c (c.setDepth depth).session
  | make (sketch : Sketch) : sketch.Fresh →
    Effect c (c.session.withHost (c.session.host.build sketch).2)
  /-- A dictionary is made. -/
  | makeDict (m : Mapping) : Effect c (c.session.setStore (c.session.host.store.newDict m).2)
  | operate {op : Op Code} {operands : List Value} {rest : List Frame} :
    c.Performs op operands rest → Effect c (op.run operands c.session).2
  /-- An operation is run that asks a method for a length. -/
  | measure {op : Op Code} {operands : List Value} {rest : List Frame} {t : TypeObject}
    {d : Descriptor} {receiver : Value} : c.Performs op operands rest →
    (op.run operands c.session).1 = .measure t d receiver →
    Effect c ((op.run operands c.session).2.withHost
      ((op.run operands c.session).2.host.runMethod d receiver []).2)
  | function {f : Function} {args : List Value} : c.control = .call (.function f) args →
    Effect c (c.counted.withHost (c.counted.host.runFunction f args).2)
  | method {id : Identity} {receiver : Value} {d : Descriptor} {args : List Value} :
    c.control = .call (.method id receiver d) args →
    Effect c (c.counted.withHost (c.counted.host.runMethod d receiver args).2)
  /-- An instance is called by the method of its type. -/
  | object {ref : Ref} {d : Descriptor} {args : List Value} :
    c.control = .call (.object ref) args →
    (c.session.host.store.instanceAt ref).type.findMethod? "__call__" = some d →
    Effect c (c.counted.withHost (c.counted.host.runMethod d (.object ref) args).2)
  | create {t : TypeObject} {args : List Value} : c.control = .call (.type t) args →
    Effect c (c.counted.withHost
      ((c.counted.host.newInstance t).2.setUp t (c.counted.host.newInstance t).1 args).2)

variable {c : Config}

theorem Effect.same (c : Config) : c.Effect c.session := .count c.depth

theorem session_enter (c : Config) (f : Host → Entry × Host) :
    (c.enter f).session = c.session.withHost (f c.session.host).2 := by
  obtain ⟨control, stack, args, session⟩ := c
  unfold enter onHost onSession Session.onHost
  dsimp only
  split <;> rfl

/-- A call goes on with what it begins with; a host body has its own arguments, and those of the function
outside are kept below it in a `Frame.scope`. -/
theorem enter_eq {f : Host → Entry × Host} {entry : Entry} {h : Host}
    (hf : f c.session.host = (entry, h)) : c.enter f =
      { control := entry.control
        stack := entry.frames c.args ++ c.stack
        args := entry.argsOver c.args
        session := c.session.withHost h } := by
  obtain ⟨control, stack, args, session⟩ := c
  unfold enter onHost onSession Session.onHost
  dsimp only at hf ⊢
  rw [hf]
  cases entry <;> rfl

section Performs

variable {op : Op Code} {operands : List Value} {rest : List Frame}

theorem operate_of_control? {request : Request} {s : Session} {control : Control}
    (hrun : op.run operands c.session = (request, s)) (hcontrol : request.control? = some control) :
    c.operate op operands = { c with control, session := s } := by
  obtain ⟨before, stack, args, session⟩ := c
  dsimp only at hrun
  unfold operate onSession
  dsimp only
  rw [hrun]
  cases request <;> cases hcontrol <;> rfl

theorem Performs.advance_of_value (h : c.Performs op operands rest) {v : Value} {s : Session}
    (hrun : op.run operands c.session = (.value v, s)) :
    c.advance = { c with control := .give v, stack := rest, session := s } := by
  rw [h.advance_eq, operate_of_control? (c := { c with stack := rest }) hrun rfl]

theorem Performs.advance_of_raise (h : c.Performs op operands rest) {e : Exception} {s : Session}
    (hrun : op.run operands c.session = (.raise e, s)) :
    c.advance = { c with control := .raise e, stack := rest, session := s } := by
  rw [h.advance_eq, operate_of_control? (c := { c with stack := rest }) hrun rfl]

theorem Performs.step_of_value (h : c.Performs op operands rest) {v : Value} {s : Session}
    (hrun : op.run operands c.ready.session = (.value v, s)) :
    c.step = { c.ready with control := .give v, stack := rest, session := s } := by
  rw [step_eq_advance]
  exact h.ready.advance_of_value hrun

theorem Performs.step_of_raise (h : c.Performs op operands rest) {e : Exception} {s : Session}
    (hrun : op.run operands c.ready.session = (.raise e, s)) :
    c.step = { c.ready with control := .raise e, stack := rest, session := s } := by
  rw [step_eq_advance]
  exact h.ready.advance_of_raise hrun

theorem Performs.step_of_call (h : c.Performs op operands rest) {target : Value} {args : List Value}
    {s : Session} (hrun : op.run operands c.ready.session = (.call target args, s)) :
    c.step = { c.ready with control := .call target args, stack := rest, session := s } := by
  rw [step_eq_advance, h.ready.advance_eq,
    operate_of_control? (c := { c.ready with stack := rest }) hrun rfl]

theorem Performs.step_of_callMethod {name : String} {ref : Ref} {args : List Value} {d : Descriptor}
    (h : c.Performs (.object (.callMethod name)) (.object ref :: args) rest)
    (hget : c.ready.session.host.store.getAttr (.object ref) name = .ok (.method (.object ref) d)) :
    c.step = { c.ready with
      control := .call (.method c.ready.session.host.store.nextId (.object ref) d) args
      stack := rest
      session := c.ready.session.setStore
        (c.ready.session.host.store.newMethod (.object ref) d).2 } := by
  refine h.step_of_call (Op.run_object_of_eq ?_)
  unfold ObjectOp.run
  dsimp only
  rw [hget]
  rfl

theorem Performs.session_advance (h : c.Performs op operands rest) :
    c.advance.session = (op.run operands c.session).2 ∨
    ∃ t d receiver, (op.run operands c.session).1 = .measure t d receiver ∧
      c.advance.session = (op.run operands c.session).2.withHost
        ((op.run operands c.session).2.host.runMethod d receiver []).2 := by
  rw [h.advance_eq]
  cases hrequest : (op.run operands c.session).1 with
  -- Only a length goes on within the same step.
  | measure t d receiver =>
    refine Or.inr ⟨t, d, receiver, rfl, ?_⟩
    unfold Config.operate onSession
    dsimp only
    rw [hrequest]
    dsimp only
    rw [session_enter]
    rfl
  | value v | raise e | call target args | malformed =>
    rw [operate_of_control? (c := { c with stack := rest }) (Prod.ext hrequest rfl) rfl]
    exact Or.inl rfl

theorem Performs.effect (h : c.Performs op operands rest) : c.Effect c.advance.session := by
  rcases h.session_advance with heq | ⟨t, d, receiver, hrequest, heq⟩
  · rw [heq]
    exact .operate h
  · rw [heq]
    exact .measure h hrequest

end Performs

theorem effect_eval {e : Expr} (h : c.control = .eval e) : c.Effect c.advance.session := by
  have hadvance := advance_of_eval h
  cases e with
  | str text =>
    rw [hadvance]
    exact .make _ (.text text)
  | args =>
    rw [hadvance]
    exact .make _ (.tupleOf c.args.toArray)
  | dict pairs =>
    rw [hadvance]
    cases pairs with
    | nil => exact .makeDict {}
    | cons pair rest => exact .same c
  -- Without operands the operation is run at once, and the same goes for a body that is not repeated.
  | apply op es =>
    cases es with
    | nil => exact Performs.effect (.bare h)
    | cons e es =>
      rw [hadvance]
      exact .same c
  | «repeat» count body =>
    cases count with
    | zero => exact Performs.effect (.noValues h)
    | succ count =>
      rw [hadvance]
      exact .same c
  | null | bool | int | float | arg | seq | ite | attempt | raise =>
    rw [hadvance]
    exact .same c

theorem effect_call {target : Value} {args : List Value} (h : c.control = .call target args) :
    c.Effect c.advance.session := by
  rw [advance_of_call h]
  unfold call
  split
  · exact .same c
  · -- The call is counted first; what the callee does, it does to the counted session.
    have hcounted : ((c.setDepth (c.depth + 1)).push (.activation (c.keptBy target args))).session =
        c.counted := rfl
    have hidle : c.Effect c.counted := .count (c.depth + 1)
    generalize hc' : (c.setDepth (c.depth + 1)).push (.activation (c.keptBy target args)) = c'
      at hcounted
    dsimp only
    rw [hc']
    cases target with
    | function f =>
      show c.Effect (c'.enter _).session
      rw [session_enter, hcounted]
      exact .function h
    | method id receiver d =>
      show c.Effect (c'.enter _).session
      rw [session_enter, hcounted]
      exact .method h
    | type t =>
      unfold dispatch
      dsimp only
      split
      · exact hcounted ▸ hidle
      · rw [session_enter]
        have hcreate := Effect.create h
        rw [← hcounted] at hcreate
        exact hcreate
    | object ref =>
      unfold dispatch
      dsimp only
      split
      · exact hcounted ▸ hidle
      · rename_i t hlive
        split
        · rename_i d hd
          obtain rfl := c'.session.host.store.live_yields _ t hlive
          rw [hcounted] at hd
          rw [session_enter, hcounted]
          exact .object h hd
        · exact hcounted ▸ hidle
    -- A value that is not callable leaves nothing but the count, which goes again with the frame.
    | null | bool | int | float | str | tuple | list | dict | iterator =>
      exact hcounted ▸ hidle

theorem effect_give {v : Value} {frame : Frame} {rest : List Frame} (h : c.control = .give v)
    (hstack : c.stack = frame :: rest) : c.Effect c.advance.session := by
  have hadvance := advance_of_give h hstack
  cases frame with
  | operand op done todo =>
    cases todo with
    | nil => exact Performs.effect (.operands h hstack)
    | cons e todo =>
      rw [hadvance]
      exact .same c
  | repetition left body done =>
    cases left with
    | zero => exact Performs.effect (.values h hstack)
    | succ left =>
      rw [hadvance]
      exact .same c
  -- What comes out of a `try` is wrapped in a tuple that has to be made.
  | attempt =>
    rw [hadvance]
    refine .make (.tuple [.text "ok", .given v]) (.tuple ?_)
    exact List.forall_mem_cons.2 ⟨.text _, List.forall_mem_singleton.2 (.given v)⟩
  | entry made key pairs =>
    rw [hadvance]
    cases pairs with
    | nil => exact .makeDict (made.insert c.session.host.store.equal key v)
    | cons pair pairs => exact .same c
  | activation kept =>
    rw [hadvance]
    exact .count (c.depth - 1)
  | length t =>
    rw [hadvance]
    unfold receive
    dsimp only
    split <;> exact .same c
  | condition | sequence | key | scope | initializer =>
    rw [hadvance]
    exact .same c

theorem effect_raise {e : Exception} {frame : Frame} {rest : List Frame} (h : c.control = .raise e)
    (hstack : c.stack = frame :: rest) : c.Effect c.advance.session := by
  rw [advance_of_raise h hstack]
  cases frame with
  | attempt =>
    refine .make (.tuple [.text "err", .text e.kind.name, .text e.message]) (.tuple ?_)
    refine List.forall_mem_cons.2 ⟨.text _, List.forall_mem_cons.2 ⟨.text _, ?_⟩⟩
    exact List.forall_mem_singleton.2 (.text _)
  | activation kept => exact .count (c.depth - 1)
  | operand | condition | sequence | repetition | key | entry | scope | initializer | length =>
    exact .same c

/-- Every `advance` has one of the effects listed in `Effect`. -/
theorem effect_advance (c : Config) : c.Effect c.advance.session := by
  cases hcontrol : c.control with
  | eval e => exact effect_eval hcontrol
  | body es =>
    rw [advance_of_body hcontrol]
    match es with
    | [] | [e] | e :: e' :: rest => exact .same c
  | call target args => exact effect_call hcontrol
  | malformed =>
    rw [advance_of_malformed hcontrol]
    exact .same c
  | give v =>
    cases hstack : c.stack with
    | nil =>
      rw [advance_of_nil (hcontrol ▸ rfl) hstack]
      exact .same c
    | cons frame rest => exact effect_give hcontrol hstack
  | raise e =>
    cases hstack : c.stack with
    -- The exception has come out, and the configuration stays as it is.
    | nil =>
      rw [advance_of_nil (hcontrol ▸ rfl) hstack]
      exact .same c
    | cons frame rest => exact effect_raise hcontrol hstack

end Config

end ObjectProtocol
