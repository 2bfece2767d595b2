import ObjectProtocol.Proofs.Operations.Writes
import ObjectProtocol.Proofs.Run

/-!
# What a step does to the stack

`Config.Shift` says it once for all steps: frames are laid on the stack without a call, or by a call,
which also counts one level of depth; or an outcome passes the topmost frame, and if that is the frame
of a call, the level is given back.  `Config.shift_step` is the only place that looks at every form of
expression, operation and frame; whatever holds of stack and depth follows from the four cases.
-/

namespace ObjectProtocol

/-! ## Operations -/

namespace Runtime

/-- Both runtimes have the same options and the same `depth`. -/
def Level (rt rt' : Runtime) : Prop := rt'.options = rt.options ∧ rt'.depth = rt.depth

variable {rt rt' : Runtime}

theorem Level.refl (rt : Runtime) : rt.Level rt := ⟨rfl, rfl⟩

theorem DrawnTo.level (h : rt.DrawnTo rt') : rt.Level rt' := ⟨h.options_eq, h.depth_eq⟩

end Runtime

theorem Host.Provided.level {h h' : Host} (hh : h.Provided h') : h.runtime.Level h'.runtime := by
  obtain ⟨registry, heq⟩ := hh.exists_registry
  rw [heq]
  exact ⟨rfl, rfl⟩

theorem Op.level_run (op : Op Code) (operands : List Value) (s : Session) :
    s.host.runtime.Level (op.run operands s).2.host.runtime := by
  cases op with
  | object op => exact .refl _
  | draw op =>
    unfold Op.run
    dsimp only
    split
    · exact (op.drawnTo_run s.host).level
    · exact .refl _
  | declare d =>
    have hdeclare : s.host.Provided (s.host.declare d operands).2 :=
      .registers (s.host.registers_declare d operands)
    exact hdeclare.level
  | closure name body => exact .refl _
  | session op => exact (op.serves_run operands s).host.level

/-! ## Frames -/

namespace Frame

def isActivation : Frame → Bool
  | activation _ => true
  | _ => false

def isPlain : Frame → Bool
  | operand .. | condition .. | sequence _ | repetition .. | attempt | key .. | entry .. => true
  | activation _ | scope _ | initializer _ | length _ => false

theorem isActivation_of_isPlain {frame : Frame} (h : frame.isPlain = true) :
    frame.isActivation = false := by
  cases frame with
  | activation kept => contradiction
  | _ => rfl

end Frame

/-- What a step lays on a stack without a `Frame.activation`. -/
inductive Laid : List Frame → Prop
  | nothing : Laid []
  | plain {frame : Frame} : frame.isPlain = true → Laid [frame]
  | length (t : TypeObject) : Laid [.length t]
  /-- A host body that is run for a length. -/
  | lengthBody (outside : List Value) (t : TypeObject) : Laid [.scope outside, .length t]

/-- What a call lays on its own `Frame.activation`. -/
inductive LaidInCall : List Frame → Prop
  | routine : LaidInCall []
  | body (outside : List Value) : LaidInCall [.scope outside]
  | initializer (receiver : Value) : LaidInCall [.initializer receiver]
  | initializerBody (outside : List Value) (receiver : Value) :
    LaidInCall [.scope outside, .initializer receiver]

namespace Config

def limit (c : Config) : Nat := c.session.host.runtime.options.maxCallDepth

inductive Shift (c c' : Config) : Prop
  | lay {top : List Frame} : Laid top → c'.stack = top ++ c.stack → c'.depth = c.depth → Shift c c'
  | call {top : List Frame} {kept : List Value} : LaidInCall top →
    c'.stack = top ++ .activation kept :: c.stack → c.depth < c.limit → c'.depth = c.depth + 1 →
    Shift c c'
  | pass {frame : Frame} {rest top : List Frame} : c.control.isOutcome = true →
    c.stack = frame :: rest → frame.isActivation = false → Laid top → c'.stack = top ++ rest →
    c'.depth = c.depth → Shift c c'
  | leave {kept : List Value} {rest : List Frame} : c.control.isOutcome = true →
    c.stack = .activation kept :: rest → c'.stack = rest → c'.depth = c.depth - 1 → Shift c c'

/-- The frames `top` were laid on the stack, without a call. -/
structure Grows (c c' : Config) (top : List Frame) : Prop where
  stack : c'.stack = top ++ c.stack
  depth : c'.depth = c.depth
  limit : c'.limit = c.limit

section Grows

variable (c : Config)

theorem grows_control (control : Control) : c.Grows { c with control } [] := ⟨rfl, rfl, rfl⟩

theorem grows_push (frame : Frame) (control : Control) :
    c.Grows { c.push frame with control } [frame] := ⟨rfl, rfl, rfl⟩

theorem grows_giveSketch (sketch : Sketch) : c.Grows (c.giveSketch sketch) [] := ⟨rfl, rfl, rfl⟩

theorem exists_grows_enter (f : Host → Entry × Host)
    (hf : c.session.host.runtime.DrawnTo (f c.session.host).2.runtime) :
    ∃ top, (top = [] ∨ top = [.scope c.args]) ∧ c.Grows (c.enter f) top := by
  obtain ⟨control, stack, args, session⟩ := c
  have hdepth := hf.depth_eq
  have hlimit := congrArg Options.maxCallDepth hf.options_eq
  unfold enter onHost onSession Session.onHost
  dsimp only
  split
  · exact ⟨[], Or.inl rfl, rfl, hdepth, hlimit⟩
  · exact ⟨[], Or.inl rfl, rfl, hdepth, hlimit⟩
  · exact ⟨[], Or.inl rfl, rfl, hdepth, hlimit⟩
  · exact ⟨[.scope args], Or.inr rfl, rfl, hdepth, hlimit⟩

theorem exists_grows_operate (op : Op Code) (operands : List Value) :
    ∃ top, Laid top ∧ c.Grows (c.operate op operands) top := by
  obtain ⟨control, stack, args, session⟩ := c
  have hlevel := op.level_run operands session
  have hdepth := hlevel.2
  have hlimit := congrArg Options.maxCallDepth hlevel.1
  unfold operate onSession
  dsimp only
  split
  · exact ⟨[], .nothing, rfl, hdepth, hlimit⟩
  · exact ⟨[], .nothing, rfl, hdepth, hlimit⟩
  · exact ⟨[], .nothing, rfl, hdepth, hlimit⟩
  · -- A length is asked of a method, which is run on the frame of that question.
    rename_i t d receiver _
    obtain ⟨top, htop, hgrows⟩ := exists_grows_enter
      (push ⟨control, stack, args, (op.run operands session).2⟩ (.length t))
      (fun h => h.runMethod d receiver []) (Host.drawnTo_runMethod _ d receiver [])
    have hstack := hgrows.stack
    refine ⟨top ++ [.length t], ?_, ?_, hgrows.depth.trans hdepth, hgrows.limit.trans hlimit⟩
    · obtain rfl | rfl := htop
      · exact .length t
      · exact .lengthBody args t
    · rw [hstack, List.append_assoc]
      rfl
  · exact ⟨[], .nothing, rfl, hdepth, hlimit⟩

theorem exists_grows_operands (op : Op Code) (done : List Value) (todo : List Expr) :
    ∃ top, Laid top ∧ c.Grows (c.operands op done todo) top := by
  cases todo with
  | nil => exact c.exists_grows_operate op done.reverse
  | cons e todo => exact ⟨_, .plain rfl, c.grows_push _ _⟩

theorem exists_grows_entries (made : Mapping) (pairs : List (Expr × Expr)) :
    ∃ top, Laid top ∧ c.Grows (c.entries made pairs) top := by
  cases pairs with
  | nil => exact ⟨[], .nothing, rfl, rfl, rfl⟩
  | cons pair rest => exact ⟨_, .plain rfl, c.grows_push _ _⟩

theorem exists_grows_repetitions (body : Expr) (done : List Value) (left : Nat) :
    ∃ top, Laid top ∧ c.Grows (c.repetitions body done left) top := by
  cases left with
  | zero => exact c.exists_grows_operate (.object .list) done.reverse
  | succ left => exact ⟨_, .plain rfl, c.grows_push _ _⟩

theorem exists_grows_eval (e : Expr) : ∃ top, Laid top ∧ c.Grows (c.eval e) top := by
  cases e with
  | null | bool | int | float | arg | raise | seq =>
    exact ⟨[], .nothing, c.grows_control _⟩
  | str text => exact ⟨[], .nothing, c.grows_giveSketch (.text text)⟩
  | args => exact ⟨[], .nothing, c.grows_giveSketch (.tupleOf c.args.toArray)⟩
  -- These may be done at once, when there is nothing to evaluate first.
  | dict pairs => exact c.exists_grows_entries {} pairs
  | apply op es => exact c.exists_grows_operands op [] es
  | ite | attempt => exact ⟨_, .plain rfl, c.grows_push _ _⟩
  | «repeat» count body => exact c.exists_grows_repetitions body [] count

theorem exists_grows_body (es : List Expr) : ∃ top, Laid top ∧ c.Grows (c.body es) top := by
  match es with
  | [] => exact ⟨[], .nothing, c.grows_control _⟩
  | [e] => exact ⟨[], .nothing, c.grows_control _⟩
  | e :: e' :: rest => exact ⟨_, .plain rfl, c.grows_push _ _⟩

theorem exists_grows_receive (v : Value) {frame : Frame} (h : frame.isActivation = false) :
    ∃ top, Laid top ∧ c.Grows (c.receive v frame) top := by
  cases frame with
  | operand op done todo => exact c.exists_grows_operands op (v :: done) todo
  | condition | sequence | scope | initializer =>
    exact ⟨[], .nothing, rfl, rfl, rfl⟩
  | repetition left body done => exact c.exists_grows_repetitions body (v :: done) left
  | attempt => exact ⟨[], .nothing, c.grows_giveSketch (.tuple [.text "ok", .given v])⟩
  | key => exact ⟨_, .plain rfl, c.grows_push _ _⟩
  | entry made key rest => exact c.exists_grows_entries _ rest
  | activation => contradiction
  -- A length checks the value that it receives, and lays nothing either way.
  | length t =>
    refine ⟨[], .nothing, ?_⟩
    unfold receive
    dsimp only
    split
    · exact c.grows_control _
    · exact c.grows_control _

theorem grows_unwind (e : Exception) {frame : Frame} (h : frame.isActivation = false) :
    c.Grows (c.unwind e frame) [] := by
  cases frame with
  | attempt => exact c.grows_giveSketch (.tuple [.text "err", .text e.kind.name, .text e.message])
  | activation => contradiction
  | operand | condition | sequence | repetition | key | entry | scope | initializer | length =>
    exact ⟨rfl, rfl, rfl⟩

end Grows

/-! ## Calls -/

theorem exists_grows_dispatch (c : Config) (target : Value) (args : List Value) :
    ∃ top, LaidInCall top ∧ c.Grows (c.dispatch target args) top := by
  have hcontrol (control : Control) :
      ∃ top, LaidInCall top ∧ c.Grows { c with control } top :=
    ⟨[], .routine, c.grows_control control⟩
  have henter {f : Host → Entry × Host} (hf : ∀ h : Host, h.runtime.DrawnTo (f h).2.runtime) :
      ∃ top, LaidInCall top ∧ c.Grows (c.enter f) top := by
    obtain ⟨top, rfl | rfl, hgrows⟩ := c.exists_grows_enter f (hf _)
    · exact ⟨_, .routine, hgrows⟩
    · exact ⟨_, .body _, hgrows⟩
  cases target with
  | function f => exact henter fun h => h.drawnTo_runFunction f args
  | method id receiver d => exact henter fun h => h.drawnTo_runMethod d receiver args
  | type t =>
    unfold dispatch
    dsimp only
    split
    · exact hcontrol _
    · -- The initializer's frame lies between that of the call and that of its body.
      obtain ⟨ref, c', hnew, hstack, hruntime⟩ :
          ∃ ref c', c.onHost (fun h => h.newInstance t) = (ref, c') ∧ c'.stack = c.stack ∧
            c'.session.host.runtime = c.session.host.runtime := ⟨_, _, rfl, rfl, rfl⟩
      rw [hnew]
      obtain ⟨top, htop, hgrows⟩ := exists_grows_enter (c'.push (.initializer (.object ref)))
        (fun h => h.setUp t ref args) (Host.drawnTo_setUp _ t ref args)
      refine ⟨top ++ [.initializer (.object ref)], ?_, ?_, ?_, ?_⟩
      · obtain rfl | rfl := htop
        · exact .initializer _
        · exact .initializerBody _ _
      · rw [hgrows.stack, List.append_assoc, ← hstack]
        rfl
      · exact hgrows.depth.trans (congrArg Runtime.depth hruntime)
      · exact hgrows.limit.trans (congrArg (fun rt => rt.options.maxCallDepth) hruntime)
  | object ref =>
    unfold dispatch
    dsimp only
    split
    · exact hcontrol _
    · split
      · exact henter fun h => h.drawnTo_runMethod _ _ args
      · exact hcontrol _
  | null | bool | int | float | str | tuple | list | dict | iterator => exact hcontrol _

theorem call_of_limit_le {c : Config} (h : c.limit ≤ c.depth) (target : Value)
    (args : List Value) : c.call target args = { c with control := .raise tooDeep } := if_pos h

theorem call_of_depth_lt {c : Config} (h : c.depth < c.limit) (target : Value) (args : List Value) :
    c.call target args =
      ((c.setDepth (c.depth + 1)).push (.activation (c.keptBy target args))).dispatch target args :=
  if_neg (Nat.not_le_of_lt h)

theorem shift_call (c : Config) (target : Value) (args : List Value) :
    c.Shift (c.call target args) ∧ (c.call target args).limit = c.limit := by
  by_cases h : c.limit ≤ c.depth
  · -- The call is refused, and no frame is laid.
    rw [call_of_limit_le h]
    exact ⟨.lay .nothing rfl rfl, rfl⟩
  · -- The level is counted before the callee runs on the frame.
    have hlt := Nat.lt_of_not_le h
    obtain ⟨top, htop, hgrows⟩ := exists_grows_dispatch
      ((c.setDepth (c.depth + 1)).push (.activation (c.keptBy target args))) target args
    rw [call_of_depth_lt hlt]
    exact ⟨.call htop hgrows.stack hlt hgrows.depth, hgrows.limit⟩

/-! ## Steps -/

/-- Every `advance` is a `Shift`, and leaves the limit as it is. -/
theorem shift_advance (c : Config) : c.Shift c.advance ∧ c.advance.limit = c.limit := by
  have hlay {c' : Config} (h : ∃ top, Laid top ∧ c.Grows c' top) :
      c.Shift c' ∧ c'.limit = c.limit := by
    obtain ⟨top, htop, hgrows⟩ := h
    exact ⟨.lay htop hgrows.stack hgrows.depth, hgrows.limit⟩
  obtain ⟨control, stack, args, session⟩ := c
  cases control with
  -- The stack grows
  | eval e => exact hlay (exists_grows_eval _ e)
  | body es => exact hlay (exists_grows_body _ es)
  | call target args => exact shift_call _ target args
  | malformed => exact ⟨.lay .nothing rfl rfl, rfl⟩
  -- The topmost frame is taken off
  | give v =>
    match stack with
    | [] => exact ⟨.lay .nothing rfl rfl, rfl⟩
    | frame :: rest =>
      cases h : frame.isActivation with
      | true =>
        cases frame with
        | activation kept => exact ⟨.leave rfl rfl rfl rfl, rfl⟩
        | _ => contradiction
      | false =>
        obtain ⟨top, htop, hgrows⟩ := exists_grows_receive ⟨.give v, rest, args, session⟩ v h
        exact ⟨.pass rfl rfl h htop hgrows.stack hgrows.depth, hgrows.limit⟩
  | raise e =>
    match stack with
    | [] => exact ⟨.lay .nothing rfl rfl, rfl⟩
    | frame :: rest =>
      cases h : frame.isActivation with
      | true =>
        cases frame with
        | activation kept => exact ⟨.leave rfl rfl rfl rfl, rfl⟩
        | _ => contradiction
      | false =>
        have hgrows := grows_unwind ⟨.raise e, rest, args, session⟩ e h
        exact ⟨.pass rfl rfl h .nothing hgrows.stack hgrows.depth, hgrows.limit⟩

theorem shift_step (c : Config) : c.Shift c.step ∧ c.step.limit = c.limit := by
  unfold step
  split
  · -- Types are released first, which changes neither stack nor depth.
    obtain ⟨hshift, hlimit⟩ := c.sweep.shift_advance
    have hd : c.sweep.depth = c.depth := congrArg Runtime.depth c.runtime_sweep
    have hl : c.sweep.limit = c.limit :=
      congrArg (fun rt => rt.options.maxCallDepth) c.runtime_sweep
    refine ⟨?_, hlimit.trans hl⟩
    cases hshift with
    | lay htop hstack hdepth => exact .lay htop hstack (hdepth.trans hd)
    | call htop hstack hlt hdepth => exact .call htop hstack (hl ▸ hd ▸ hlt) (hd ▸ hdepth)
    | pass hout hstack hact htop hstack' hdepth =>
      exact .pass hout hstack hact htop hstack' (hdepth.trans hd)
    | leave hout hstack hstack' hdepth => exact .leave hout hstack hstack' (hd ▸ hdepth)
  · exact c.shift_advance

end Config

end ObjectProtocol
