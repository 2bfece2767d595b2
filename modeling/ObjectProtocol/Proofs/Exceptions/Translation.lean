import ObjectProtocol.Proofs.Exceptions.Failures
import ObjectProtocol.Proofs.Exceptions.Unwinding

/-!
# Native failures become exceptions once

`Config.Fails` says that the next step runs native code which ends with an error.  The step raises
`NativeError.toException` of that error, and from there on it is an exception like any other: no frame on
the way translates it again, and an exception of host code that reaches native code passes it as it is.
-/

namespace ObjectProtocol

/-! ## Steps -/

namespace Config

variable {c : Config} {e : Exception} {x : NativeError}

/-- The exception has just been raised, and nothing that was laid on the stack for it is `attempt`. -/
structure RaisesOn (c : Config) (below : List Frame) (e : Exception) : Prop where
  control : c.control = .raise e
  stack : ∃ top, .attempt ∉ top ∧ c.stack = top ++ below

theorem raisesOn_control (c : Config) (e : Exception) :
    RaisesOn { c with control := .raise e } c.stack e :=
  ⟨rfl, [], List.not_mem_nil, rfl⟩

theorem raisesOn_enter {f : Host → Entry × Host} (hf : (f c.session.host).1 = .raise e) :
    (c.enter f).RaisesOn c.stack e := by
  obtain ⟨control, stack, args, session⟩ := c
  dsimp only at hf
  unfold enter onHost onSession Session.onHost
  dsimp only
  rw [hf]
  exact ⟨rfl, [], List.not_mem_nil, rfl⟩

theorem RaisesOn.of_cons {frame : Frame} {below : List Frame} (h : c.RaisesOn (frame :: below) e)
    (hframe : frame ≠ .attempt) : c.RaisesOn below e := by
  obtain ⟨hcontrol, top, htop, hstack⟩ := h
  refine ⟨hcontrol, top ++ [frame], ?_, by rw [hstack, List.append_assoc]; rfl⟩
  intro hmem
  rcases List.mem_append.1 hmem with hmem | hmem
  · exact htop hmem
  · exact hframe (List.mem_singleton.1 hmem).symm

theorem refusal?_of_check {h : Host} {t : TypeObject} {args : List Value} {slot : NewSlot}
    {f : Failure} (hkind : t.own.kind ≠ .builtin) (hslot : t.findSlot? (·.new) = some slot)
    (hcheck : slot.check h.store args = .error f) : h.refusal? t args = some f.toException := by
  unfold Host.refusal?
  rw [if_neg hkind, hslot]
  dsimp only [Option.elim]
  rw [hcheck]

theorem setUp_of_method {h : Host} {t : TypeObject} {ref : Ref} {args : List Value} {d : Descriptor}
    (hmethod : t.findMethod? "__init__" = some d)
    (hfails : h.MethodFails d (.object ref) args x) :
    (h.setUp t ref args).1 = .raise x.toException := by
  unfold Host.setUp
  rw [hmethod]
  exact hfails.runMethod

theorem setUp_of_slot {h : Host} {t : TypeObject} {ref : Ref} {args : List Value} {slot : InitSlot}
    {f : Failure} (hmethod : t.findMethod? "__init__" = none)
    (hslot : t.findSlot? (·.init) = some slot)
    (hrun : (slot.run h.store (h.store.instanceAt ref) args).1 = .error f) :
    (h.setUp t ref args).1 = .raise f.toException := by
  unfold Host.setUp
  rw [hmethod, hslot]
  dsimp only
  rw [hrun]

theorem raisesOn_construct {t : TypeObject} {args : List Value}
    (hrefusal : c.session.host.refusal? t args = none)
    (hsetUp : ((c.session.host.newInstance t).2.setUp t (c.session.host.newInstance t).1 args).1 =
      .raise e) : (c.dispatch (.type t) args).RaisesOn c.stack e := by
  obtain ⟨control, stack, args', session⟩ := c
  dsimp only at hrefusal hsetUp
  have hentered := raisesOn_enter
    (c := push ⟨control, stack, args', { session with host := (session.host.newInstance t).2 }⟩
      (.initializer (.object (session.host.newInstance t).1)))
    (f := fun h => h.setUp t (session.host.newInstance t).1 args) hsetUp
  unfold dispatch
  dsimp only
  rw [hrefusal]
  exact hentered.of_cons (by simp)

theorem raisesOn_dispatch {target : Value} {args : List Value}
    (h : c.session.host.CallFails target args x) :
    (c.dispatch target args).RaisesOn c.stack x.toException := by
  cases h with
  | arguments hbody hparse =>
    refine raisesOn_enter (f := fun h => h.runFunction _ args) ?_
    unfold Host.runFunction
    rw [hbody]
    dsimp only
    rw [hparse]
    rfl
  | routine hbody hparse hrun =>
    refine raisesOn_enter (f := fun h => h.runFunction _ args) ?_
    unfold Host.runFunction
    rw [hbody]
    dsimp only
    rw [hparse]
    exact Host.entry_of_error hrun
  | method hfails => exact raisesOn_enter (f := fun h => h.runMethod _ _ args) hfails.runMethod
  -- An instance is called by its `__call__`, on the frame of the call.
  | @object ref t d _ _ hlive hmethod hfails =>
    have hcall : c.dispatch (.object ref) args =
        c.enter fun h => h.runMethod d (.object ref) args := by
      unfold dispatch
      dsimp only
      rw [hlive]
      dsimp only
      rw [hmethod]
    rw [hcall]
    exact raisesOn_enter hfails.runMethod
  -- The refusal comes before the instance is made.
  | @allocation t _ slot f hkind hslot hcheck =>
    have hrefusal := refusal?_of_check hkind hslot hcheck
    have hcall : c.dispatch (.type t) args = { c with control := .raise f.toException } := by
      unfold dispatch
      dsimp only
      rw [hrefusal]
    rw [hcall]
    exact c.raisesOn_control _
  | initializer hrefusal hmethod hfails =>
    exact raisesOn_construct hrefusal (setUp_of_method hmethod hfails)
  | initialization hrefusal hmethod hslot hrun =>
    exact raisesOn_construct hrefusal (setUp_of_slot hmethod hslot hrun)

theorem raisesOn_call {target : Value} {args : List Value} (hdepth : c.depth < c.limit)
    (h : (c.setDepth (c.depth + 1)).session.host.CallFails target args x) :
    (c.call target args).RaisesOn c.stack x.toException := by
  have hcall : c.call target args =
      ((c.setDepth (c.depth + 1)).push (.activation (c.keptBy target args))).dispatch
        target args := if_neg (Nat.not_le_of_lt hdepth)
  rw [hcall]
  have hdispatch := raisesOn_dispatch
    (c := (c.setDepth (c.depth + 1)).push (.activation (c.keptBy target args))) h
  exact hdispatch.of_cons (by simp)

theorem raisesOn_operate {op : Op Code} {operands : List Value}
    (h : c.session.OperationFails op operands x) :
    (c.operate op operands).RaisesOn c.stack x.toException := by
  obtain ⟨control, stack, args, session⟩ := c
  dsimp only at h
  have hraise (hrun : (op.run operands session).1 = .raise x.toException) :
      (operate ⟨control, stack, args, session⟩ op operands).RaisesOn stack x.toException := by
    unfold operate onSession
    dsimp only
    rw [hrun]
    exact ⟨rfl, [], List.not_mem_nil, rfl⟩
  cases h with
  | object hfails => exact hraise hfails.run_eq
  | @measured v t d _ hmeasure hfails =>
    -- The method has a frame that turns its value into a length.
    have hop : Op.run (.object .len) [v] session = (.measure t d v, session) := by
      unfold Op.run Session.onStore ObjectOp.run
      dsimp only
      rw [hmeasure]
    have hrun : operate ⟨control, stack, args, session⟩ (.object .len) [v] =
        (push ⟨control, stack, args, session⟩ (.length t)).enter fun h => h.runMethod d v [] := by
      unfold operate onSession
      dsimp only
      rw [hop]
    rw [hrun]
    have hentered := raisesOn_enter (c := push ⟨control, stack, args, session⟩ (.length t))
      (f := fun h => h.runMethod d v []) hfails.runMethod
    exact hentered.of_cons (by simp)
  | declare hfault =>
    refine hraise ?_
    unfold Op.run Host.declare
    dsimp only
    rw [Host.register_of_fault hfault]
    rfl
  | derive hfault =>
    refine hraise ?_
    unfold Op.run Host.declare
    dsimp only
    rw [Host.register_of_fault hfault]
    rfl
  | loadSample hload =>
    refine hraise ?_
    unfold Op.run SessionOp.run Session.loadSample
    dsimp only
    rw [hload]
    rfl

/-- The next step runs native code that ends with a `NativeError`. -/
inductive Fails (c : Config) : NativeError → Prop
  | call {target : Value} {args : List Value} {x : NativeError} : c.control = .call target args →
    c.depth < c.limit → (c.setDepth (c.depth + 1)).session.host.CallFails target args x → Fails c x
  | operation {op : Op Code} {operands : List Value} {rest : List Frame} {x : NativeError} :
    c.Performs op operands rest → c.session.OperationFails op operands x → Fails c x
  /-- What a method has answered for a length is no native integer. -/
  | length {v : Value} {t : TypeObject} {rest : List Frame} {f : Failure} : c.control = .give v →
    c.stack = .length t :: rest → c.session.host.store.toNative v = .error f → Fails c (.failure f)

end Config

end ObjectProtocol
