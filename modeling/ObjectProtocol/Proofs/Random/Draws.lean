import ObjectProtocol.Proofs.Calls.Balance
import ObjectProtocol.Proofs.History
import ObjectProtocol.Proofs.Random.Chances
import ObjectProtocol.Proofs.Registering

/-!
# What a step draws

`Config.draw?` says which steps ask the generator: it goes down to the routine that a step runs, past
everything that may turn the call away before, such as the depth limit or rejected arguments.  The
generator moves by the outputs of that draw, and where there is none it stays.
-/

namespace ObjectProtocol

open ObjectProtocol.Random (Generator)

inductive Draw
  /-- Heads or tails. -/
  | coin
  /-- Whether an operation that can be made to fail fails this time. -/
  | fault
deriving DecidableEq, Repr

def Draw.outputs (p : Float) : Draw → Nat
  | coin => 1
  | fault => Generator.outputs p

def Runtime.drawn (rt : Runtime) (draw : Option Draw) : Generator :=
  rt.generator.skip (draw.elim 0 (Draw.outputs rt.options.faultProbability))

@[simp] theorem Runtime.drawn_none (rt : Runtime) : rt.drawn none = rt.generator := rfl

/-! ## Routines -/

def DrawOp.draw : DrawOp → Draw
  | coin => .coin
  | injectFault => .fault

theorem DrawOp.generator_run (op : DrawOp) (h : Host) :
    (op.run h).2.runtime.generator = h.runtime.drawn op.draw := by
  cases op with
  | coin => rfl
  | injectFault => exact h.runtime.generator.chance_snd _

def SampleFunction.draw? : SampleFunction → Option Draw
  | randomFail | returnBool => some .coin
  | typ | raiseExc | forgetRaise | idCheck | returnTrue | returnFalse | returnNone | vsum | vsum2 =>
    none

def FunctionRoutine.draw? : FunctionRoutine → Option Draw
  | stock _ => none
  | sample f => f.draw?

theorem FunctionRoutine.generator_run (r : FunctionRoutine) (h : Host) (a : Args) :
    (r.run h a).2.runtime.generator = h.runtime.drawn r.draw? := by
  cases r with
  | stock r => rfl
  | sample f =>
    cases f with
    | randomFail =>
      unfold run SampleFunction.run
      dsimp only
      split <;> rfl
    | typ | raiseExc | forgetRaise | idCheck | returnTrue | returnFalse | returnBool | returnNone
    | vsum | vsum2 => rfl

/-- `maybe_incr` and `maybe_incr2` ask for a fault, unless there is no counter to move. -/
def BoxMethod.draw? (m : BoxMethod) (i : Instance) : Option Draw :=
  match m with
  | maybeIncr =>
    match Sample.Box.counter i with
    | .ok _ => some .fault
    | .error _ => none
  | getContents | getCounter | getData | brokenGetData | getDataDict | incr | callback => none

def MethodRoutine.draw? (r : MethodRoutine) (i : Instance) : Option Draw :=
  match r with
  | box m => m.draw? i
  | stock _ | onInstance _ | rawLength => none

theorem BoxMethod.generator_run (m : BoxMethod) (h : Host) (ref : Ref) (a : Args) :
    (m.run h ref a).2.runtime.generator =
      h.runtime.drawn (m.draw? (h.store.instanceAt ref)) := by
  cases m with
  | maybeIncr =>
    unfold run draw? Sample.Box.maybeIncr
    dsimp only
    cases Sample.Box.counter (h.store.instanceAt ref) with
    | error f => rfl
    | ok n => exact h.runtime.generator.chance_snd _
  | incr => exact congrArg Runtime.generator (Host.runtime_answer h _)
  | getContents | getCounter | getData | brokenGetData | getDataDict | callback => rfl

theorem MethodRoutine.generator_run (r : MethodRoutine) (h : Host) (ref : Ref) (a : Args) :
    (r.run h ref a).2.runtime.generator =
      h.runtime.drawn (r.draw? (h.store.instanceAt ref)) := by
  cases r with
  | stock r => rfl
  | onInstance r => exact congrArg Runtime.generator (Host.runtime_answer h _)
  | box m => exact m.generator_run h ref a
  | rawLength => rfl

/-! ## Calls -/

namespace Host

def functionDraw? (h : Host) (f : Function) (args : List Value) : Option Draw :=
  match f.body with
  | .host _ => none
  | .native spec routine =>
    match spec.parse h.store args with
    | .ok _ => routine.draw?
    | .error _ => none

/-- What `runMethod` draws: nothing if it is host code, if its receiver is no instance or if its arguments
are rejected. -/
def methodDraw? (h : Host) (d : Descriptor) (receiver : Value) (args : List Value) : Option Draw :=
  match d.method.body, receiver with
  | .native routine, .object ref =>
    match d.method.spec.parse h.store args with
    | .ok _ => routine.draw? (h.store.instanceAt ref)
    | .error _ => none
  | _, _ => none

def setUpDraw? (h : Host) (t : TypeObject) (ref : Ref) (args : List Value) : Option Draw :=
  (t.findMethod? "__init__").bind fun d => h.methodDraw? d (.object ref) args

def callDraw? (h : Host) (target : Value) (args : List Value) : Option Draw :=
  match target with
  | .function f => h.functionDraw? f args
  | .method _ receiver d => h.methodDraw? d receiver args
  | .type t =>
    match h.refusal? t args with
    | some _ => none
    | none => (h.newInstance t).2.setUpDraw? t (h.newInstance t).1 args
  | .object ref =>
    match h.store.live (h.store.instanceAt ref).type with
    | .error _ => none
    | .ok t => (t.findMethod? "__call__").bind fun d => h.methodDraw? d target args
  | _ => none

theorem generator_runFunction (h : Host) (f : Function) (args : List Value) :
    (h.runFunction f args).2.runtime.generator = h.runtime.drawn (h.functionDraw? f args) := by
  unfold runFunction functionDraw?
  cases f.body with
  | host code => rfl
  | native spec routine =>
    dsimp only
    cases spec.parse h.store args with
    | error f => rfl
    | ok a =>
      dsimp only
      rw [Entry.runtime_ofAnswer]
      exact routine.generator_run h a

theorem generator_runMethod (h : Host) (d : Descriptor) (receiver : Value) (args : List Value) :
    (h.runMethod d receiver args).2.runtime.generator =
      h.runtime.drawn (h.methodDraw? d receiver args) := by
  unfold runMethod methodDraw?
  cases d.method.body with
  | host code =>
    dsimp only
    split <;> rfl
  | native routine =>
    cases receiver with
    | object ref =>
      dsimp only
      cases d.method.spec.parse h.store args with
      | error f => rfl
      | ok a =>
        dsimp only
        rw [Entry.runtime_ofAnswer]
        exact routine.generator_run h ref a
    -- A native method draws only for an instance.
    | null | bool | int | float | str | tuple | list | dict | type | function | method | iterator =>
      rfl

theorem generator_setUp (h : Host) (t : TypeObject) (ref : Ref) (args : List Value) :
    (h.setUp t ref args).2.runtime.generator = h.runtime.drawn (h.setUpDraw? t ref args) := by
  unfold setUp setUpDraw?
  cases t.findMethod? "__init__" with
  | some d => exact h.generator_runMethod d (.object ref) args
  | none =>
    -- A slot only writes to the instance.
    dsimp only
    split
    · split <;> rfl
    · split <;> rfl

end Host

/-! ## Operations -/

/-- What `Op.run` draws itself, before it asks for a call or a length. -/
def Op.draw? (op : Op Code) (operands : List Value) : Option Draw :=
  match op, operands with
  | draw op, [] => some op.draw
  | _, _ => none

theorem Host.Provided.generator_eq {h h' : Host} (hh : h.Provided h') :
    h'.runtime.generator = h.runtime.generator := by
  obtain ⟨registry, heq⟩ := hh.exists_registry
  rw [heq]

theorem Op.generator_run (op : Op Code) (operands : List Value) (s : Session) :
    (op.run operands s).2.host.runtime.generator = s.host.runtime.drawn (op.draw? operands) := by
  cases op with
  | object op => rfl
  | draw op =>
    cases operands with
    | nil => exact op.generator_run s.host
    | cons v rest => rfl
  | declare d =>
    show (s.host.declare d operands).2.runtime.generator = s.host.runtime.generator
    rw [(s.host.registers_declare d operands).runtime_eq]
  | closure name body => rfl
  | session op => exact (op.serves_run operands s).host.generator_eq

theorem Op.draw?_of_measure {op : Op Code} {operands : List Value} {s : Session} {t : TypeObject}
    {d : Descriptor} {receiver : Value} (h : (op.run operands s).1 = .measure t d receiver) :
    op.draw? operands = none := by
  cases op with
  | draw op => cases operands <;> contradiction
  | object | declare | closure | session => rfl

/-- `Op.draw?` together with the method that the operation asks for a length. -/
def Op.fullDraw? (op : Op Code) (operands : List Value) (s : Session) : Option Draw :=
  match op.run operands s with
  | (.measure _ d receiver, s') => s'.host.methodDraw? d receiver []
  | _ => op.draw? operands

/-! ## Steps -/

namespace Config

def generator (c : Config) : Generator := c.session.host.runtime.generator

/-- What `advance` draws; a call at the depth limit draws nothing. -/
def advanceDraw? (c : Config) : Option Draw :=
  match c.control with
  | .call target args =>
    if c.limit ≤ c.depth then none else c.counted.host.callDraw? target args
  | _ => c.performed?.bind fun (op, operands) => op.fullDraw? operands c.session

def draw? (c : Config) : Option Draw := c.ready.advanceDraw?

variable {c : Config}

theorem generator_operate (c : Config) (op : Op Code) (operands : List Value) :
    (c.operate op operands).generator =
      c.session.host.runtime.drawn (op.fullDraw? operands c.session) := by
  have hown := op.generator_run operands c.session
  have hlevel := op.level_run operands c.session
  unfold operate onSession Op.fullDraw?
  dsimp only
  cases hrun : op.run operands c.session with
  | mk request s =>
    rw [hrun] at hown hlevel
    cases request with
    | value v | raise e | call target args | malformed => exact hown
    | measure t d receiver =>
      -- Only the method that is asked for the length may draw.
      rw [Op.draw?_of_measure (congrArg Prod.fst hrun), Runtime.drawn_none] at hown
      dsimp only
      unfold generator
      rw [session_enter]
      show (s.host.runMethod d receiver []).2.runtime.generator = _
      rw [s.host.generator_runMethod, Runtime.drawn, Runtime.drawn, hown, hlevel.1]

theorem generator_dispatch (c : Config) (target : Value) (args : List Value) :
    (c.dispatch target args).generator =
      c.session.host.runtime.drawn (c.session.host.callDraw? target args) := by
  unfold generator dispatch Host.callDraw?
  cases target with
  | function f =>
    dsimp only
    rw [session_enter]
    exact Host.generator_runFunction _ f args
  | method id receiver d =>
    dsimp only
    rw [session_enter]
    exact Host.generator_runMethod _ d receiver args
  -- A refused construction draws nothing, and one that starts draws in its initializer.
  | type t =>
    dsimp only
    cases c.session.host.refusal? t args with
    | some e => rfl
    | none =>
      dsimp only
      rw [session_enter]
      exact Host.generator_setUp _ t _ args
  | object ref =>
    dsimp only
    cases c.session.host.store.live (c.session.host.store.instanceAt ref).type with
    | error e => rfl
    | ok t =>
      dsimp only
      cases t.findMethod? "__call__" with
      | none => rfl
      | some d =>
        dsimp only
        rw [session_enter]
        exact Host.generator_runMethod _ d _ args
  | null | bool | int | float | str | tuple | list | dict | iterator => rfl

theorem generator_call (c : Config) (target : Value) (args : List Value) :
    (c.call target args).generator = c.session.host.runtime.drawn
      (if c.limit ≤ c.depth then none else c.counted.host.callDraw? target args) := by
  unfold call limit
  split
  · rfl
  · -- Counting the call draws nothing.
    exact generator_dispatch _ target args

/-- `advance` moves the generator by `advanceDraw?`. -/
theorem generator_advance (c : Config) :
    c.advance.generator = c.session.host.runtime.drawn c.advanceDraw? := by
  unfold advanceDraw?
  split
  · rename_i target args hcontrol
    rw [advance_of_call hcontrol]
    exact c.generator_call target args
  · rename_i hcontrol
    cases hperformed : c.performed? with
    | some p =>
      obtain ⟨rest, h⟩ := performed?_eq_some_iff.1 hperformed
      rw [h.advance_eq]
      exact generator_operate _ p.1 p.2
    | none =>
      -- Neither a call begins nor an operation is run, so the session is at most added to.
      have hperforms {op : Op Code} {operands : List Value} {rest : List Frame} :
          ¬ c.Performs op operands rest := fun h => by
        rw [performed?_eq_some_iff.2 ⟨rest, h⟩] at hperformed
        contradiction
      have heffect := c.effect_advance
      unfold generator
      generalize c.advance.session = s at heffect
      cases heffect with
      | count depth | make sketch | makeDict m => rfl
      | operate h | measure h => exact absurd h hperforms
      | function h | method h | object h | create h => exact absurd h (hcontrol _ _)

theorem generator_step (c : Config) :
    c.step.generator = c.session.host.runtime.drawn c.draw? := by
  rw [step_eq_advance, generator_advance, runtime_ready]
  rfl

theorem generator_step_of_none (h : c.draw? = none) : c.step.generator = c.generator := by
  rw [generator_step, h, Runtime.drawn_none]
  rfl

theorem options_step (c : Config) :
    c.step.session.host.runtime.options = c.session.host.runtime.options := by
  rw [step_eq_advance, ← c.runtime_ready]
  have heffect := c.ready.effect_advance
  generalize c.ready.advance.session = s at heffect
  cases heffect with
  | count depth | make sketch | makeDict m => rfl
  | @operate op operands => exact (op.level_run operands c.ready.session).1
  | @measure op operands =>
    exact (Host.drawnTo_runMethod _ _ _ []).options_eq.trans
      (op.level_run operands c.ready.session).1
  | function => exact (Host.drawnTo_runFunction _ _ _).options_eq
  | method | object => exact (Host.drawnTo_runMethod _ _ _ _).options_eq
  | create => exact (Host.drawnTo_setUp _ _ _ _).options_eq

end Config

end ObjectProtocol
