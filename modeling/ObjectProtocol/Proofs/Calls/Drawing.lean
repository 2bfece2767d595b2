import ObjectProtocol.Operation
import ObjectProtocol.Call

/-!
# What routines leave of a runtime

Native routines work on the store.  Of the runtime they can only advance the generator: options,
depth and registry are as before, whether a routine answers or fails.
-/

namespace ObjectProtocol

namespace Runtime

/-- The second runtime is the first one with its `generator` at another place, or at the same. -/
def DrawnTo (rt rt' : Runtime) : Prop := ∃ g, rt' = { rt with generator := g }

variable {rt rt' rt'' : Runtime}

theorem DrawnTo.refl (rt : Runtime) : rt.DrawnTo rt := ⟨rt.generator, rfl⟩

theorem DrawnTo.of_eq (h : rt' = rt) : rt.DrawnTo rt' := h ▸ DrawnTo.refl rt

theorem DrawnTo.trans (h : rt.DrawnTo rt') (h' : rt'.DrawnTo rt'') : rt.DrawnTo rt'' := by
  obtain ⟨g, rfl⟩ := h
  obtain ⟨g', rfl⟩ := h'
  exact ⟨g', rfl⟩

theorem DrawnTo.depth_eq (h : rt.DrawnTo rt') : rt'.depth = rt.depth := by
  obtain ⟨g, rfl⟩ := h
  rfl

theorem DrawnTo.options_eq (h : rt.DrawnTo rt') : rt'.options = rt.options := by
  obtain ⟨g, rfl⟩ := h
  rfl

theorem DrawnTo.registry_eq (h : rt.DrawnTo rt') : rt'.registry = rt.registry := by
  obtain ⟨g, rfl⟩ := h
  rfl

end Runtime

namespace Host

/-! ## Making and changing objects -/

@[simp] theorem runtime_answer (h : Host) (x : Except NativeError (Answer × Change)) :
    (h.answer x).2.runtime = h.runtime := by
  cases x <;> rfl

/-! ## Draws -/

theorem drawnTo_coin (h : Host) : h.runtime.DrawnTo h.coin.2.runtime := ⟨_, rfl⟩

theorem drawnTo_injectFault (h : Host) : h.runtime.DrawnTo h.injectFault.2.runtime := ⟨_, rfl⟩

end Host

/-! ## Routines -/

open Host Runtime.DrawnTo

theorem SampleFunction.drawnTo_run (f : SampleFunction) (h : Host) (a : Args) :
    h.runtime.DrawnTo (f.run h a).2.runtime := by
  cases f with
  | randomFail =>
    unfold SampleFunction.run
    dsimp only
    split
    · exact drawnTo_coin h
    · exact drawnTo_coin h
  | returnBool => exact drawnTo_coin h
  -- The others do not draw.
  | typ | raiseExc | forgetRaise | idCheck | returnTrue | returnFalse | returnNone | vsum | vsum2 =>
    exact refl _

theorem FunctionRoutine.drawnTo_run (r : FunctionRoutine) (h : Host) (a : Args) :
    h.runtime.DrawnTo (r.run h a).2.runtime := by
  cases r with
  | stock r => exact refl _
  | sample f => exact f.drawnTo_run h a

theorem Sample.Box.drawnTo_maybeIncr (h : Host) (ref : Ref) :
    h.runtime.DrawnTo (maybeIncr h ref).2.runtime := by
  unfold maybeIncr
  dsimp only
  split
  · exact refl _
  · exact drawnTo_injectFault h

theorem BoxMethod.drawnTo_run (m : BoxMethod) (h : Host) (ref : Ref) (a : Args) :
    h.runtime.DrawnTo (m.run h ref a).2.runtime := by
  cases m with
  | maybeIncr => exact Sample.Box.drawnTo_maybeIncr h ref
  | incr => exact of_eq (runtime_answer h _)
  | getContents | getCounter | getData | brokenGetData | getDataDict | callback =>
    exact refl _

theorem MethodRoutine.drawnTo_run (r : MethodRoutine) (h : Host) (ref : Ref) (a : Args) :
    h.runtime.DrawnTo (r.run h ref a).2.runtime := by
  cases r with
  | stock r => exact refl _
  | onInstance r => exact of_eq (runtime_answer h _)
  | box m => exact m.drawnTo_run h ref a
  | rawLength => exact refl _

/-! ## Calls -/

theorem Entry.runtime_ofAnswer (r : Except NativeError Answer × Host) :
    (ofAnswer r).2.runtime = r.2.runtime := by
  obtain ⟨answer | answer, h⟩ := r
  · rfl
  · cases answer <;> rfl

namespace Host

theorem drawnTo_runMethod (h : Host) (d : Descriptor) (receiver : Value) (args : List Value) :
    h.runtime.DrawnTo (h.runMethod d receiver args).2.runtime := by
  unfold runMethod
  split
  · -- A native method runs on an instance of its type, and if the arguments parse.
    split
    · split
      · exact (MethodRoutine.drawnTo_run _ h _ _).trans (of_eq (Entry.runtime_ofAnswer _))
      · exact refl _
    · exact refl _
  · -- A host method is only entered.
    split
    · exact refl _
    · exact refl _

theorem drawnTo_runFunction (h : Host) (f : Function) (args : List Value) :
    h.runtime.DrawnTo (h.runFunction f args).2.runtime := by
  unfold runFunction
  split
  · exact refl _
  · split
    · exact (FunctionRoutine.drawnTo_run _ h _).trans (of_eq (Entry.runtime_ofAnswer _))
    · exact refl _

theorem drawnTo_setUp (h : Host) (t : TypeObject) (ref : Ref) (args : List Value) :
    h.runtime.DrawnTo (h.setUp t ref args).2.runtime := by
  unfold setUp
  split
  · exact drawnTo_runMethod h _ _ args
  · -- Slots write to the instance only.
    split
    · dsimp only
      split
      · exact refl _
      · exact refl _
    · split
      · exact refl _
      · exact refl _

end Host

/-! ## Operations -/

theorem Sample.runtime_addFunctions (m : Module) (h : Host)
    (fs : List (String × ArgSpec × SampleFunction)) :
    (addFunctions m h fs).2.runtime = h.runtime := by
  induction fs generalizing m h with
  | nil => rfl
  | cons f fs ih => exact ih _ _

theorem DrawOp.drawnTo_run (op : DrawOp) (h : Host) :
    h.runtime.DrawnTo (op.run h).2.runtime := by
  cases op with
  | coin => exact drawnTo_coin h
  | injectFault => exact drawnTo_injectFault h

end ObjectProtocol
