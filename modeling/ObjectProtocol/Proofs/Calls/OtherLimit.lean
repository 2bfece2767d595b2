import ObjectProtocol.Proofs.Calls.Balance

/-!
# Another depth limit

Nothing reads the depth limit but the check of a call and the text that describes the runtime.  So slots,
routines, registrations and operations commute with `Runtime.withLimit`: they answer the same, and leave
the same host but for the limit.
-/

namespace ObjectProtocol

/-! ## Another limit -/

def Runtime.withLimit (rt : Runtime) (limit : Nat) : Runtime :=
  { rt with options := { rt.options with maxCallDepth := limit } }

def Host.withLimit (h : Host) (limit : Nat) : Host :=
  { h with runtime := h.runtime.withLimit limit }

def Session.withLimit (s : Session) (limit : Nat) : Session :=
  { s with host := s.host.withLimit limit }

def Config.withLimit (c : Config) (limit : Nat) : Config :=
  { c with session := c.session.withLimit limit }

/-- `Host.withLimit` commutes with `f`: the limit plays no part in what `f` does. -/
def Host.Unlimited {α : Type} (f : Host → α × Host) : Prop :=
  ∀ h limit, f (h.withLimit limit) = ((f h).1, (f h).2.withLimit limit)

section Commuting

variable {limit : Nat}

/-! ## Slots and routines -/

theorem IterSlot.run_withLimit (slot : IterSlot) (rt : Runtime) (i : Instance)
    (inside : Value → Except Exception Sketch) :
    slot.run (rt.withLimit limit) i inside = slot.run rt i inside := by
  cases slot <;> rfl

namespace Runtime

@[simp] theorem depth_withLimit (rt : Runtime) : (rt.withLimit limit).depth = rt.depth := rfl

@[simp] theorem registry_withLimit (rt : Runtime) :
    (rt.withLimit limit).registry = rt.registry := rfl

theorem typeOf_withLimit (rt : Runtime) (s : Store) (v : Value) :
    (rt.withLimit limit).typeOf s v = rt.typeOf s v := by
  cases v <;> rfl

theorem isInstance_withLimit (rt : Runtime) (s : Store) (v : Value) (t : TypeObject) :
    (rt.withLimit limit).isInstance s v t = rt.isInstance s v t := by
  unfold isInstance
  rw [typeOf_withLimit]

end Runtime

namespace Store

theorem iterWithin_withLimit (s : Store) (rt : Runtime) (n : Nat) (v : Value) :
    s.iterWithin (rt.withLimit limit) n v = s.iterWithin rt n v := by
  induction n generalizing v with
  | zero =>
    unfold iterWithin
    simp only [IterSlot.run_withLimit]
    rfl
  | succ n ih =>
    unfold iterWithin
    simp only [IterSlot.run_withLimit, ih]
    rfl

theorem iter_withLimit (s : Store) (rt : Runtime) (v : Value) :
    s.iter (rt.withLimit limit) v = s.iter rt v :=
  s.iterWithin_withLimit rt s.instances.size v

theorem collect_withLimit (s : Store) (rt : Runtime) (v : Value) :
    s.collect (rt.withLimit limit) v = s.collect rt v := by
  unfold collect
  rw [iter_withLimit]

end Store

theorem Host.unlimited_coin : Unlimited coin := fun _ _ => rfl

theorem SampleFunction.unlimited_run (f : SampleFunction) (a : Args) :
    Host.Unlimited fun h => f.run h a := by
  intro h limit
  cases f with
  | typ =>
    have htype (v : Value) : (h.withLimit limit).runtime.typeOf (h.withLimit limit).store v =
        h.runtime.typeOf h.store v := h.runtime.typeOf_withLimit h.store v
    unfold SampleFunction.run
    simp only [htype]
  | randomFail =>
    unfold SampleFunction.run
    simp only [Host.unlimited_coin h limit]
    split <;> rfl
  | returnBool => rfl
  | raiseExc | forgetRaise | idCheck | returnTrue | returnFalse | returnNone | vsum | vsum2 => rfl

theorem FunctionRoutine.unlimited_run (r : FunctionRoutine) (a : Args) :
    Host.Unlimited fun h => r.run h a := by
  intro h limit
  cases r with
  | stock r => rfl
  | sample f => exact f.unlimited_run a h limit

theorem Sample.Box.unlimited_maybeIncr (ref : Ref) :
    Host.Unlimited fun h => maybeIncr h ref := by
  intro h limit
  have hcounter : counter ((h.withLimit limit).store.instanceAt ref) =
      counter (h.store.instanceAt ref) := rfl
  unfold maybeIncr
  dsimp only
  rw [hcounter]
  cases counter (h.store.instanceAt ref) with
  | error f => rfl
  | ok n => rfl

theorem Host.unlimited_answer (x : Except NativeError (Answer × Change)) :
    Unlimited fun h => h.answer x := by
  intro h limit
  cases x <;> rfl

theorem BoxMethod.unlimited_run (m : BoxMethod) (ref : Ref) (a : Args) :
    Host.Unlimited fun h => m.run h ref a := by
  intro h limit
  cases m with
  | maybeIncr => exact Sample.Box.unlimited_maybeIncr ref h limit
  | incr => exact Host.unlimited_answer _ h limit
  | getContents | getCounter | getData | brokenGetData | getDataDict | callback => rfl

theorem MethodRoutine.unlimited_run (r : MethodRoutine) (ref : Ref) (a : Args) :
    Host.Unlimited fun h => r.run h ref a := by
  intro h limit
  cases r with
  | stock r => rfl
  | onInstance r => exact Host.unlimited_answer _ h limit
  | box m => exact m.unlimited_run ref a h limit
  | rawLength => rfl

theorem Entry.ofAnswer_withLimit (x : Except NativeError Answer) (h : Host) :
    ofAnswer (x, h.withLimit limit) = ((ofAnswer (x, h)).1, (ofAnswer (x, h)).2.withLimit limit) := by
  cases x with
  | error e => rfl
  | ok answer => cases answer <;> rfl

namespace Host

theorem unlimited_runMethod (d : Descriptor) (receiver : Value) (args : List Value) :
    Unlimited fun h => h.runMethod d receiver args := by
  intro h limit
  dsimp only
  have hstore : (h.withLimit limit).store = h.store := rfl
  unfold runMethod
  rw [hstore]
  split
  · rename_i routine _
    split
    · rename_i ref
      split
      · rename_i a _
        have hrun := routine.unlimited_run ref a h limit
        dsimp only at hrun
        rw [hrun]
        exact Entry.ofAnswer_withLimit _ _
      · rfl
    · rfl
  · -- A host method only has its arguments counted.
    split <;> rfl

theorem unlimited_runFunction (f : Function) (args : List Value) :
    Unlimited fun h => h.runFunction f args := by
  intro h limit
  dsimp only
  have hstore : (h.withLimit limit).store = h.store := rfl
  unfold runFunction
  rw [hstore]
  split
  · rfl
  · -- A native function parses its arguments before its routine sees the host.
    rename_i spec routine _
    split
    · rename_i a _
      have hrun := routine.unlimited_run a h limit
      dsimp only at hrun
      rw [hrun]
      exact Entry.ofAnswer_withLimit _ _
    · rfl

theorem unlimited_setUp (t : TypeObject) (ref : Ref) (args : List Value) :
    Unlimited fun h => h.setUp t ref args := by
  intro h limit
  dsimp only
  have hstore : (h.withLimit limit).store = h.store := rfl
  unfold setUp
  rw [hstore]
  split
  · rename_i d _
    exact unlimited_runMethod d (.object ref) args h limit
  · split
    · rename_i slot _
      dsimp only
      split <;> rfl
    · split <;> rfl

/-! ## Declarations and modules -/

theorem register_withLimit (h : Host) (d : TypeDecl Code) (base : Option TypeObject) :
    (h.withLimit limit).register d base =
      (h.register d base).map fun r => (r.1, r.2.withLimit limit) := by
  have hsame : (h.withLimit limit).runtime.registry.register (h.withLimit limit).store.nextId d base =
      h.runtime.registry.register h.store.nextId d base := rfl
  unfold register
  rw [hsame]
  cases h.runtime.registry.register h.store.nextId d base <;> rfl

theorem unlimited_declare (d : TypeDecl Code) (operands : List Value) :
    Unlimited fun h => h.declare d operands := by
  intro h limit
  dsimp only
  unfold declare
  simp only [register_withLimit]
  split
  · cases h.register d none <;> rfl
  · rename_i base
    cases h.register d (some base) <;> rfl
  · rfl

end Host

namespace Sample

theorem addFunctions_withLimit (m : Module) (h : Host)
    (fs : List (String × ArgSpec × SampleFunction)) :
    addFunctions m (h.withLimit limit) fs =
      ((addFunctions m h fs).1, (addFunctions m h fs).2.withLimit limit) := by
  induction fs generalizing m h with
  | nil => rfl
  | cons f fs ih =>
    obtain ⟨name, spec, f⟩ := f
    exact ih _ (h.newNative name spec (.sample f)).2

theorem load_withLimit (h : Host) :
    load (h.withLimit limit) = (load h).map fun r => (r.1, r.2.withLimit limit) := by
  unfold load
  rw [h.register_withLimit]
  -- Three types are registered in a row, each on the host that the one before has left.
  cases h.register boxDecl none with
  | error f => rfl
  | ok box =>
    dsimp only [Except.map]
    rw [box.2.register_withLimit]
    cases box.2.register counterIteratorDecl none with
    | error f => rfl
    | ok iterator =>
      dsimp only [Except.map]
      rw [iterator.2.register_withLimit]
      cases iterator.2.register counterDecl none with
      | error f => rfl
      | ok counter =>
        dsimp only [Except.map]
        rw [addFunctions_withLimit]

end Sample

namespace Session

theorem addExports_withLimit (m : Module) (h : Host) (decls : List ExportDecl)
    (operands : List Value) :
    addExports m (h.withLimit limit) decls operands =
      (addExports m h decls operands).map fun r => (r.1, r.2.withLimit limit) := by
  fun_induction addExports m h decls operands with
  | case1 => rfl
  | case2 m h name spec r rest operands v h₁ hnew ih =>
    have hnative : (h.withLimit limit).newNative name spec r = (v, h₁.withLimit limit) := by
      show ((h.newNative name spec r).1, (h.newNative name spec r).2.withLimit limit) = _
      rw [hnew]
    rw [addExports, hnative]
    exact ih
  | case3 _ _ _ _ _ _ ih => exact ih
  | case4 _ _ _ _ _ _ ih => exact ih
  | case5 _ _ _ _ _ _ ih => exact ih
  | case6 => simp only [addExports, Option.map_none]

theorem loadSample_withLimit (s : Session) :
    (s.withLimit limit).loadSample = (s.loadSample.1, s.loadSample.2.withLimit limit) := by
  have hload : Sample.load (s.withLimit limit).host = _ := Sample.load_withLimit s.host
  unfold loadSample
  rw [hload]
  cases Sample.load s.host <;> rfl

end Session

/-! ## Operations -/

theorem ObjectOp.run_withLimit (op : ObjectOp) (operands : List Value) (rt : Runtime) (s : Store)
    (h : ¬ (op = .debugRuntime ∧ operands = [])) :
    op.run operands (rt.withLimit limit) s = op.run operands rt s := by
  unfold run
  simp only [s.iter_withLimit, s.collect_withLimit, rt.typeOf_withLimit, rt.isInstance_withLimit,
    rt.depth_withLimit, rt.registry_withLimit]
  split
  all_goals first | exact absurd ⟨rfl, rfl⟩ h | rfl

theorem SessionOp.run_withLimit (op : SessionOp) (operands : List Value) (s : Session) :
    op.run operands (s.withLimit limit) =
      ((op.run operands s).1, (op.run operands s).2.withLimit limit) := by
  have hmodules : (s.withLimit limit).modules = s.modules := rfl
  have honModule (module : String) (f : Module → Request) :
      onModule (s.withLimit limit) module f =
        ((onModule s module f).1, (onModule s module f).2.withLimit limit) := by
    unfold onModule
    rw [hmodules]
    cases s.modules.get? module <;> rfl
  have hglobals : (s.withLimit limit).globals = s.globals := rfl
  have hhost : (s.withLimit limit).host = s.host.withLimit limit := rfl
  unfold run
  simp only [honModule, hmodules, hglobals, hhost, Session.addExports_withLimit,
    Session.loadSample_withLimit]
  split
  · split <;> rfl
  · rfl
  · rfl
  · rfl
  · rfl
  · split <;> rfl
  · -- Making a module is the one operation here that may make function objects.
    rename_i name version exported
    cases Session.addExports { name, version } s.host exported operands <;> rfl
  · rfl
  · rfl

/-- No operation but `debugRuntime` depends on the limit. -/
theorem Op.run_withLimit (op : Op Code) (operands : List Value) (s : Session)
    (h : ¬ (op = .object .debugRuntime ∧ operands = [])) :
    op.run operands (s.withLimit limit) =
      ((op.run operands s).1, (op.run operands s).2.withLimit limit) := by
  cases op with
  | object op =>
    obtain ⟨⟨rt, store⟩, globals, modules, lingering⟩ := s
    -- Only `debugRuntime` without operands shows the options.
    have hop : op.run operands (rt.withLimit limit) store = op.run operands rt store :=
      op.run_withLimit operands rt store fun hboth => h ⟨congrArg Op.object hboth.1, hboth.2⟩
    unfold Op.run Session.onStore Session.withLimit Host.withLimit
    dsimp only
    rw [hop]
  | draw op =>
    cases operands with
    | nil => cases op <;> rfl
    | cons v operands => rfl
  | declare d =>
    have hrun (s : Session) : (Op.declare d).run operands s =
        ((s.host.declare d operands).1, { s with host := (s.host.declare d operands).2 }) := rfl
    have hdeclare : (s.withLimit limit).host.declare d operands =
        ((s.host.declare d operands).1, (s.host.declare d operands).2.withLimit limit) :=
      Host.unlimited_declare d operands s.host limit
    rw [hrun, hdeclare, hrun]
    rfl
  | closure name body => rfl
  | session op => exact op.run_withLimit operands s

namespace Session

theorem sweep_withLimit (s : Session) (others : Unit → List Value) :
    (s.withLimit limit).sweep others = (s.sweep others).withLimit limit := by
  unfold sweep
  dsimp only [withLimit, Host.withLimit, Runtime.withLimit, held]
  split
  · rfl
  · split <;> rfl

end Session

end Commuting

end ObjectProtocol
