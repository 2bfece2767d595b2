import ObjectProtocol.Call
import ObjectProtocol.Operation

/-!
# The machine

Evaluation goes in small steps.  A configuration has a control, which says what is being done, a stack
of frames, which say what is to be done with the outcome, the arguments of the innermost host
function, and the session.  Every call takes a frame, `Frame.activation`, and counts as one level of
depth until that frame is left, with a value or with an exception; a call at the depth limit is
refused before anything else happens.  Host bodies run under a frame of their own, `Frame.scope`,
which gives the arguments back to the function outside.
-/

namespace ObjectProtocol

/-- What is to be done with the outcome of what is being evaluated. -/
inductive Frame
  /-- An operand: `done` are the operands before it, latest first. -/
  | operand (op : Op Code) (done : List Value) (todo : List Expr)
  /-- A condition. -/
  | condition (yes no : Expr)
  /-- An expression of a sequence that is followed by others. -/
  | sequence (rest : List Expr)
  /-- One of several evaluations of the same expression, with the values before it, latest first. -/
  | repetition (left : Nat) (body : Expr) (done : List Value)
  /-- The body of a `try`. -/
  | attempt
  /-- The key of an entry, with the entries made so far. -/
  | key (made : Mapping) (value : Expr) (rest : List (Expr × Expr))
  /-- The value of an entry. -/
  | entry (made : Mapping) (key : Value) (rest : List (Expr × Expr))
  /-- A call; the values are those it holds on to. -/
  | activation (kept : List Value)
  /-- A host body; the arguments are those of the function outside. -/
  | scope (outside : List Value)
  /-- An initializer, whose value does not matter. -/
  | initializer (receiver : Value)
  /-- A method that is asked for a length; the type is that of its receiver. -/
  | length (t : TypeObject)

inductive Control
  | eval (e : Expr)
  /-- Expressions in sequence. -/
  | body (es : List Expr)
  /-- A value for the topmost frame. -/
  | give (v : Value)
  /-- An exception on its way to a `try`. -/
  | raise (e : Exception)
  | call (target : Value) (args : List Value)
  /-- Something that does not mean anything. -/
  | malformed

structure Config where
  control : Control
  stack : List Frame := []
  args : List Value := []
  session : Session

/-! ## Calls -/

namespace Config

@[inline] def onSession {α : Type} (c : Config) (f : Session → α × Session) : α × Config :=
  match c with
  | ⟨control, stack, args, session⟩ =>
    let (a, session) := f session
    (a, ⟨control, stack, args, session⟩)

/-- Lets `f` work on the host and keeps the rest. -/
@[inline] def onHost {α : Type} (c : Config) (f : Host → α × Host) : α × Config :=
  c.onSession fun s => s.onHost f

def enter (c : Config) (f : Host → Entry × Host) : Config :=
  let (entry, c) := c.onHost f
  match entry with
  | .give v => { c with control := .give v }
  | .raise e => { c with control := .raise e }
  | .call target args => { c with control := .call target args }
  | .run code args =>
    { c with control := .body code, stack := .scope c.args :: c.stack, args }

def push (c : Config) (frame : Frame) : Config := { c with stack := frame :: c.stack }

def notCallable (c : Config) (target : Value) : Exception :=
  ⟨.typeError, "'" ++ c.session.host.store.typeName target ++ "' object is not callable"⟩

/-- Calls a value, on a `Frame.call` that has been pushed for it. -/
def dispatch (c : Config) (target : Value) (args : List Value) : Config :=
  match target with
  | .function f => c.enter fun h => h.runFunction f args
  | .method _ receiver d => c.enter fun h => h.runMethod d receiver args
  | .type t =>
    match c.session.host.refusal? t args with
    | some e => { c with control := .raise e }
    | none =>
      -- The initializer's frame is taken after the allocation, so a refusal finds none to leave.
      let (ref, c) := c.onHost fun h => h.newInstance t
      (c.push (.initializer (.object ref))).enter fun h => h.setUp t ref args
  | .object ref =>
    let store := c.session.host.store
    match store.live (store.instanceAt ref).type with
    | .error e => { c with control := .raise e }
    | .ok t =>
      match t.findMethod? "__call__" with
      | some d => c.enter fun h => h.runMethod d target args
      | none => { c with control := .raise (c.notCallable target) }
  | target => { c with control := .raise (c.notCallable target) }

/-- What a `Frame.activation` holds on to: the callee, its type if it is an instance, and the arguments.
-/
def keptBy (c : Config) (target : Value) (args : List Value) : List Value :=
  match target with
  | .object ref => .type (c.session.host.store.instanceAt ref).type :: target :: args
  | target => target :: args

def depth (c : Config) : Nat := c.session.host.runtime.depth

def setDepth (c : Config) (depth : Nat) : Config :=
  match c with
  | ⟨control, stack, args, ⟨⟨runtime, store⟩, globals, modules, lingering⟩⟩ =>
    ⟨control, stack, args, ⟨⟨{ runtime with depth }, store⟩, globals, modules, lingering⟩⟩

def tooDeep : Exception := ⟨.recursionError, "maximum recursion depth exceeded"⟩

/-- Calls a value, or raises `tooDeep` when `maxCallDepth` calls are active. -/
def call (c : Config) (target : Value) (args : List Value) : Config :=
  -- The limit comes first: beyond it nothing is parsed, allocated or drawn.
  if c.session.host.runtime.options.maxCallDepth ≤ c.depth then { c with control := .raise tooDeep }
  else
    let kept := c.keptBy target args
    ((c.setDepth (c.depth + 1)).push (.activation kept)).dispatch target args

/-! ## Steps -/

def giveSketch (c : Config) (sketch : Sketch) : Config :=
  let (v, c) := c.onHost fun h => h.build sketch
  { c with control := .give v }

def operate (c : Config) (op : Op Code) (operands : List Value) : Config :=
  let (request, c) := c.onSession fun s => op.run operands s
  match request with
  | .value v => { c with control := .give v }
  | .raise e => { c with control := .raise e }
  | .call target args => { c with control := .call target args }
  -- No frame of depth is taken for this one.
  | .measure t d receiver => (c.push (.length t)).enter fun h => h.runMethod d receiver []
  | .malformed => { c with control := .malformed }

/-- Evaluates the next operand, or goes on with `operate` when there is none; `done` are the values
before, latest first. -/
def operands (c : Config) (op : Op Code) (done : List Value) : List Expr → Config
  | [] => c.operate op done.reverse
  | e :: todo => { c.push (.operand op done todo) with control := .eval e }

def entries (c : Config) (made : Mapping) : List (Expr × Expr) → Config
  | [] =>
    let (v, c) := c.onSession fun s => s.onStore fun _ store => store.newDict made
    { c with control := .give v }
  | (key, value) :: rest => { c.push (.key made value rest) with control := .eval key }

/-- Evaluates the body once more, or makes the list of its values when it has been evaluated often enough.
-/
def repetitions (c : Config) (body : Expr) (done : List Value) : Nat → Config
  | 0 => c.operate (.object .list) done.reverse
  | left + 1 => { c.push (.repetition left body done) with control := .eval body }

def eval (c : Config) : Expr → Config
  | .null => { c with control := .give .null }
  | .bool b => { c with control := .give (.bool b) }
  | .int i => { c with control := .give (.int i) }
  | .float x => { c with control := .give (.float x) }
  | .str text => c.giveSketch (.text text)
  | .dict pairs => c.entries {} pairs
  | .apply op es => c.operands op [] es
  | .arg i => { c with control := .give (c.args.getD i .null) }
  | .args => c.giveSketch (.tupleOf c.args.toArray)
  | .seq es => { c with control := .body es }
  | .ite condition yes no => { c.push (.condition yes no) with control := .eval condition }
  | .repeat count body => c.repetitions body [] count
  | .attempt body => { c.push .attempt with control := .eval body }
  | .raise e => { c with control := .raise e }

def body (c : Config) : List Expr → Config
  | [] => { c with control := .give .null }
  | [e] => { c with control := .eval e }
  | e :: rest => { c.push (.sequence rest) with control := .eval e }

def receive (c : Config) (v : Value) : Frame → Config
  | .operand op done todo => c.operands op (v :: done) todo
  | .condition yes no =>
    { c with control := .eval (if c.session.host.store.isTruthy v then yes else no) }
  | .sequence rest => { c with control := .body rest }
  | .repetition left body done => c.repetitions body (v :: done) left
  | .attempt => c.giveSketch (.tuple [.text "ok", .given v])
  | .key made value rest => { c.push (.entry made v rest) with control := .eval value }
  | .entry made key rest => c.entries (made.insert c.session.host.store.equal key v) rest
  | .activation _ => { c.setDepth (c.depth - 1) with control := .give v }
  | .scope outside => { c with control := .give v, args := outside }
  | .initializer receiver => { c with control := .give receiver }
  | .length _ =>
    match c.session.host.store.toNative v with
    | .ok n => { c with control := .give (.ofNative n.clampNonneg) }
    | .error f => { c with control := .raise f.toException }

/-- Lets an exception pass a frame that was taken off the stack; only `Frame.attempt` stops it. -/
def unwind (c : Config) (e : Exception) : Frame → Config
  | .attempt => c.giveSketch (.tuple [.text "err", .text e.kind.name, .text e.message])
  | .activation _ => { c.setDepth (c.depth - 1) with control := .raise e }
  | .scope outside => { c with control := .raise e, args := outside }
  | _ => { c with control := .raise e }

/-- `step` without a `sweep`. A configuration that has come to an end stays as it is. -/
def advance (c : Config) : Config :=
  match c.control, c.stack with
  | .eval e, _ => c.eval e
  | .body es, _ => c.body es
  | .call target args, _ => c.call target args
  | .give v, frame :: rest => ({ c with stack := rest }).receive v frame
  | .raise e, frame :: rest => ({ c with stack := rest }).unwind e frame
  | _, _ => c

end Config

/-! ## Liveness during a run -/

def Frame.values : Frame → List Value
  | operand _ done _ => done
  | repetition _ _ done => done
  | key made _ _ => made.entries.toList.flatMap fun pair => [pair.1, pair.2]
  | entry made k _ => k :: made.entries.toList.flatMap fun pair => [pair.1, pair.2]
  | activation kept => kept
  | scope outside => outside
  | initializer receiver => [receiver]
  | length t => [.type t]
  | condition .. | sequence _ | attempt => []

def Control.values : Control → List Value
  | give v => [v]
  | call target args => target :: args
  | eval _ | body _ | raise _ | malformed => []

namespace Config

/-- All values that the machine itself holds on to, for `Session.sweep`. -/
def roots (c : Config) : List Value :=
  c.control.values ++ c.args ++ c.stack.flatMap Frame.values

def asksForType (c : Config) : Bool :=
  match c.control, c.stack with
  | .call .., _ => true
  | .give _, .operand (.object op) _ [] :: _ => op.asksForType
  | _, _ => false

def sweep (c : Config) : Config := { c with session := c.session.sweep fun () => c.roots }

/-- One step. Whether a type is released shows only when somebody asks for it, and one that nobody owns
stays without an owner until then, so it is enough to `sweep` before a step that `asksForType`. -/
def step (c : Config) : Config :=
  if !c.session.lingering.isEmpty && c.asksForType then c.sweep.advance else c.advance

end Config

/-! ## Runs -/

inductive Outcome
  | value (v : Value)
  | exception (e : Exception)
  | malformed
  /-- The allowed number of steps did not suffice. -/
  | unfinished

namespace Config

def outcome? (c : Config) : Option Outcome :=
  match c.control, c.stack with
  | .give v, [] => some (.value v)
  | .raise e, [] => some (.exception e)
  | .malformed, _ => some .malformed
  | _, _ => none

/-- Takes `step`s until the end, at most the given number of them. -/
def run : Nat → Config → Outcome × Session
  | 0, c => (c.outcome?.getD .unfinished, c.session)
  | n + 1, c =>
    match c.outcome? with
    | some outcome => (outcome, c.session)
    | none => run n c.step

end Config

/-- More steps than any evaluation that ends in practice takes; the fuel of `run`. -/
def stepLimit : Nat := 0x4000000000000000

namespace Session

def evaluate (s : Session) (e : Expr) : Outcome × Session :=
  Config.run stepLimit { control := .eval e, session := s }

end Session

end ObjectProtocol
