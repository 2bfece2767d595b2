import ObjectProtocol.Proofs.Calls.Balance
import ObjectProtocol.Proofs.Subclasses.Mirroring

/-!
# Runs alongside each other

Two configurations are followed step by step.  When native code has been entered in both and has come to
the same value, or to exceptions of the same kind, the frames of the call are left in both, one after the
other, and what comes out below is alike.
-/

namespace ObjectProtocol

/-! ## Frames of calls -/

namespace Frame

def passing : Frame → Control → Control
  | initializer receiver, .give _ => .give receiver
  | _, control => control

/-- Both are `Frame.activation`, or both `Frame.initializer` of the same place. -/
inductive LeftAlike : Frame → Frame → Prop
  | activation (kept kept' : List Value) : LeftAlike (.activation kept) (.activation kept')
  | initializer (receiver : Value) : LeftAlike (.initializer receiver) (.initializer receiver)

variable {frame frame' : Frame}

theorem LeftAlike.isLeft (h : LeftAlike frame frame') :
    LeftAlike frame frame ∧ LeftAlike frame' frame' := by
  cases h with
  | activation kept kept' => exact ⟨.activation kept kept, .activation kept' kept'⟩
  | initializer receiver => exact ⟨.initializer receiver, .initializer receiver⟩

theorem LeftAlike.passing (h : LeftAlike frame frame') {control control' : Control}
    (hcontrol : control.Alike control') : (frame.passing control).Alike (frame'.passing control') := by
  cases hcontrol with
  | give v =>
    cases h with
    | activation => exact .give v
    | initializer receiver => exact .give receiver
  | raise hkind =>
    cases h with
    | activation | initializer => exact .raise hkind

end Frame

/-- Above `below` the two stacks have frames that are `LeftAlike`. -/
inductive StacksAlike (below : List Frame) : List Frame → List Frame → Prop
  | refl : StacksAlike below below below
  | cons {frame frame' : Frame} {stack stack' : List Frame} : frame.LeftAlike frame' →
    StacksAlike below stack stack' → StacksAlike below (frame :: stack) (frame' :: stack')

theorem StacksAlike.length_le {below stack stack' : List Frame} (h : StacksAlike below stack stack') :
    below.length ≤ stack.length ∧ below.length ≤ stack'.length := by
  induction h with
  | refl => exact ⟨Nat.le_refl _, Nat.le_refl _⟩
  | cons _ _ ih => exact ⟨Nat.le_succ_of_le ih.1, Nat.le_succ_of_le ih.2⟩

namespace Config

variable {c c' : Config} {below : List Frame} {ref ref' : Ref}

/-! ## Steps -/

theorem isOutcome_of_alike {control control' : Control} (h : control.Alike control') :
    control.isOutcome = true ∧ control'.isOutcome = true := by
  cases h with
  | give v | raise hkind => exact ⟨rfl, rfl⟩

theorem step_of_leftAlike {frame : Frame} {rest : List Frame} (hout : c.control.isOutcome = true)
    (hstack : c.stack = frame :: rest) (hframe : frame.LeftAlike frame) :
    c.step.control = frame.passing c.control ∧ c.step.stack = rest ∧
      c.step.session.host.store = c.ready.session.host.store := by
  have hready := c.stack_ready.trans hstack
  rw [step_eq_advance]
  cases hcontrol : c.control with
  | give v =>
    rw [advance_of_give (c.control_ready.trans hcontrol) hready]
    cases hframe with
    | activation | initializer => exact ⟨rfl, rfl, rfl⟩
  | raise e =>
    rw [advance_of_raise (c.control_ready.trans hcontrol) hready]
    cases hframe with
    | activation | initializer => exact ⟨rfl, rfl, rfl⟩
  -- Nothing is passed to the frame while the control is no outcome.
  | eval | body | call | malformed =>
    rw [hcontrol] at hout
    contradiction

theorem mirrors_ready (h : c.session.host.store.Mirrors ref c'.session.host.store ref') :
    c.ready.session.host.store.Mirrors ref c'.ready.session.host.store ref' := by
  obtain ⟨released, heq⟩ := c.exists_store_ready
  obtain ⟨released', heq'⟩ := c'.exists_store_ready
  rw [heq, heq']
  exact h.withReleased released released'

/-! ## Ends -/

/-- What is going on in the two configurations on top of `below` ends after as many steps, with the same
value or with exceptions of the same kind, and in stores that `Mirrors` each other. -/
def EndsAlike (c c' : Config) (below : List Frame) (ref ref' : Ref) : Prop :=
  ∃ n, (∀ k < n, ¬ (c.after k).SettledOn below ∧ ¬ (c'.after k).SettledOn below) ∧
    (c.after n).SettledOn below ∧ (c'.after n).SettledOn below ∧
    (c.after n).control.Alike (c'.after n).control ∧
    (c.after n).session.host.store.Mirrors ref (c'.after n).session.host.store ref'

theorem EndsAlike.now (hcontrol : c.control.Alike c'.control) (hstack : c.stack = below)
    (hstack' : c'.stack = below)
    (hstore : c.session.host.store.Mirrors ref c'.session.host.store ref') :
    c.EndsAlike c' below ref ref' :=
  ⟨0, fun k hk => by contradiction, ⟨(isOutcome_of_alike hcontrol).1, hstack⟩,
    ⟨(isOutcome_of_alike hcontrol).2, hstack'⟩, hcontrol, hstore⟩

theorem EndsAlike.of_step (hbusy : ¬ c.SettledOn below) (hbusy' : ¬ c'.SettledOn below)
    (h : c.step.EndsAlike c'.step below ref ref') : c.EndsAlike c' below ref ref' := by
  obtain ⟨n, hrun, hend⟩ := h
  rw [after_step, after_step] at hend
  refine ⟨n + 1, fun k hk => ?_, hend⟩
  cases k with
  | zero => exact ⟨hbusy, hbusy'⟩
  | succ k =>
    rw [← after_step, ← after_step]
    exact hrun k (Nat.lt_of_succ_lt_succ hk)

theorem endsAlike_of_stacksAlike {stack stack' : List Frame} (h : StacksAlike below stack stack')
    (hstack : c.stack = stack) (hstack' : c'.stack = stack') (hcontrol : c.control.Alike c'.control)
    (hstore : c.session.host.store.Mirrors ref c'.session.host.store ref') :
    c.EndsAlike c' below ref ref' := by
  -- By induction on the frames above: one step takes one off each stack.
  induction h generalizing c c' with
  | refl => exact .now hcontrol hstack hstack' hstore
  | @cons frame frame' stack stack' hframes h ih =>
    have hbusy {c : Config} {frame : Frame} {stack : List Frame} (hstack : c.stack = frame :: stack)
        (hle : below.length ≤ stack.length) : ¬ c.SettledOn below :=
      not_settledOn (Or.inr (by rw [hstack, List.length_cons]; omega))
    obtain ⟨hout, hout'⟩ := isOutcome_of_alike hcontrol
    obtain ⟨hpassed, hleft, hkept⟩ := step_of_leftAlike hout hstack hframes.isLeft.1
    obtain ⟨hpassed', hleft', hkept'⟩ := step_of_leftAlike hout' hstack' hframes.isLeft.2
    refine .of_step (hbusy hstack h.length_le.1) (hbusy hstack' h.length_le.2) (ih hleft hleft' ?_ ?_)
    · rw [hpassed, hpassed']
      exact hframes.passing hcontrol
    · -- Leaving a frame writes to nothing, but types may have been released before.
      rw [hkept, hkept']
      exact mirrors_ready hstore

/-- Native code that is entered on such stacks ends alike if its entries are `EnteredAlike`. -/
theorem endsAlike_enter {f f' : Host → Entry × Host}
    (h : EnteredAlike ref ref' (f c.session.host) (f' c'.session.host))
    (hstacks : StacksAlike below c.stack c'.stack) :
    (c.enter f).EndsAlike (c'.enter f') below ref ref' := by
  obtain ⟨hcontrol, hstore⟩ := h
  -- What gives or raises at once has laid no frame.
  have hframes {entry entry' : Entry} (h : entry.control.Alike entry'.control) (outside : List Value) :
      entry.frames outside = [] ∧ entry'.frames outside = [] := by
    cases entry <;> cases entry' <;> cases h <;> exact ⟨rfl, rfl⟩
  have henter (c : Config) (f : Host → Entry × Host) := enter_eq (c := c) (f := f) rfl
  obtain ⟨hnone, -⟩ := hframes hcontrol c.args
  obtain ⟨-, hnone'⟩ := hframes hcontrol c'.args
  rw [henter c f, henter c' f', hnone, hnone']
  exact endsAlike_of_stacksAlike hstacks rfl rfl hcontrol hstore

/-- Calls at the same depth are refused alike, or both are made. -/
theorem endsAlike_of_call {target target' : Value} {args args' : List Value}
    (hcontrol : c.control = .call target args) (hcontrol' : c'.control = .call target' args')
    (hstack : c.stack = below) (hstack' : c'.stack = below) (hdepth : c'.depth = c.depth)
    (hlimit : c'.limit = c.limit)
    (hstore : c.session.host.store.Mirrors ref c'.session.host.store ref')
    (hcalled : c.depth < c.limit → c.step.EndsAlike c'.step below ref ref') :
    c.EndsAlike c' below ref ref' := by
  have hbusy {c : Config} {target : Value} {args : List Value} (h : c.control = .call target args) :
      ¬ c.SettledOn below := not_settledOn (Or.inl (by rw [h]; rfl))
  refine .of_step (hbusy hcontrol) (hbusy hcontrol') ?_
  rcases Nat.lt_or_ge c.depth c.limit with hlt | hle
  · exact hcalled hlt
  · -- At the limit both calls raise before they look at the target.
    have hrefused {c : Config} {target : Value} {args : List Value}
        (h : c.control = .call target args) (hle : c.limit ≤ c.depth) :
        c.step = { c.ready with control := .raise tooDeep } := by
      rw [step_eq_advance, advance_of_call (c.control_ready.trans h),
        call_of_limit_le (by rwa [depth_ready, limit_ready])]
    rw [hrefused hcontrol hle, hrefused hcontrol' (by rwa [hdepth, hlimit])]
    exact .now (.raise rfl) (c.stack_ready.trans hstack) (c'.stack_ready.trans hstack')
      (mirrors_ready hstore)

theorem endsAlike_call_method {id id' : Identity} {d : Descriptor} {r : MethodRoutine}
    {args : List Value} (hcontrol : c.control = .call (.method id (.object ref) d) args)
    (hcontrol' : c'.control = .call (.method id' (.object ref') d) args) (hstack : c.stack = below)
    (hstack' : c'.stack = below) (hdepth : c'.depth = c.depth) (hlimit : c'.limit = c.limit)
    (hstore : c.session.host.store.Mirrors ref c'.session.host.store ref')
    (hbody : d.method.body = .native r) (hr : r.isLocal = true) : c.EndsAlike c' below ref ref' := by
  refine endsAlike_of_call hcontrol hcontrol' hstack hstack' hdepth hlimit hstore fun hlt => ?_
  rw [step_call_of_depth_lt hcontrol hlt,
    step_call_of_depth_lt hcontrol' (by rwa [hdepth, hlimit])]
  unfold dispatch
  dsimp only
  refine endsAlike_enter (Host.enteredAlike_runMethod ?_ hbody hr args) (.cons (.activation _ _) ?_)
  · exact mirrors_ready hstore
  · show StacksAlike below c.ready.stack c'.ready.stack
    rw [c.stack_ready, c'.stack_ready, hstack, hstack']
    exact .refl

end Config

end ObjectProtocol
