import ObjectProtocol.Proofs.Calls.Shift

/-!
# Call frames are balanced and bounded

The depth counts the activation frames of the evaluation that is going on, on top of what it was when
the evaluation began.  So it is back where it was as soon as the stack is, with a value or with an
exception, and no call takes it over the limit.
-/

namespace ObjectProtocol

inductive Task
  | evaluate (e : Expr)
  /-- An operation on values. -/
  | operate (op : Op Code) (operands : List Value)
  | call (target : Value) (args : List Value)

/-- The number of `Frame.activation`s on a stack. -/
def activations (stack : List Frame) : Nat := stack.countP Frame.isActivation

@[simp] theorem activations_append (top rest : List Frame) :
    activations (top ++ rest) = activations top + activations rest := List.countP_append

theorem activations_cons_of_false {frame : Frame} (h : frame.isActivation = false)
    (rest : List Frame) : activations (frame :: rest) = activations rest :=
  List.countP_cons_of_neg (by simp [h])

@[simp] theorem activations_activation (kept : List Value) (rest : List Frame) :
    activations (.activation kept :: rest) = activations rest + 1 := List.countP_cons_of_pos rfl

theorem Laid.activations_eq {top : List Frame} (h : Laid top) : activations top = 0 := by
  cases h with
  | nothing => rfl
  | length t => rfl
  | lengthBody outside t => rfl
  | plain hplain => exact activations_cons_of_false (Frame.isActivation_of_isPlain hplain) []

theorem LaidInCall.activations_eq {top : List Frame} (h : LaidInCall top) :
    activations top = 0 := by
  cases h <;> rfl

namespace Config

def start (c : Config) : Task → Config
  | .evaluate e => { c with control := .eval e }
  | .operate op operands => c.operate op operands
  | .call target args => { c with control := .call target args }

/-- What began with depth `d` on top of `below` is still on top of it, and `activations` counts the levels
of depth gained since. -/
def Accounts (c : Config) (below : List Frame) (d : Nat) : Prop :=
  ∃ above, c.stack = above ++ below ∧ c.depth = d + activations above

theorem accounts_start (c : Config) (task : Task) : (c.start task).Accounts c.stack c.depth := by
  cases task with
  | evaluate e => exact ⟨[], rfl, rfl⟩
  | call target args => exact ⟨[], rfl, rfl⟩
  | operate op operands =>
    obtain ⟨top, htop, hgrows⟩ := c.exists_grows_operate op operands
    refine ⟨top, hgrows.stack, ?_⟩
    rw [htop.activations_eq]
    exact hgrows.depth

theorem level_start (c : Config) (task : Task) :
    (c.start task).depth = c.depth ∧ (c.start task).limit = c.limit := by
  cases task with
  | evaluate e => exact ⟨rfl, rfl⟩
  | call target args => exact ⟨rfl, rfl⟩
  | operate op operands =>
    obtain ⟨top, -, hgrows⟩ := c.exists_grows_operate op operands
    exact ⟨hgrows.depth, hgrows.limit⟩

variable {c : Config} {below : List Frame} {d : Nat}

/-- Until the evaluation ends, a step takes its frames from above `below` only. -/
theorem Accounts.step (h : c.Accounts below d) (hrun : ¬ c.SettledOn below) :
    c.step.Accounts below d := by
  obtain ⟨above, hstack, hdepth⟩ := h
  obtain ⟨hshift, -⟩ := c.shift_step
  cases hshift with
  -- What is laid comes on top of `above`; a call brings its level along.
  | @lay top htop hstack' hdepth' =>
    refine ⟨top ++ above, ?_, ?_⟩
    · rw [hstack', hstack, List.append_assoc]
    · rw [hdepth', hdepth, activations_append, htop.activations_eq, Nat.zero_add]
  | @call top kept htop hstack' hlt hdepth' =>
    refine ⟨top ++ .activation kept :: above, ?_, ?_⟩
    · rw [hstack', hstack, List.append_assoc]
      rfl
    · rw [hdepth', hdepth, activations_append, htop.activations_eq, activations_activation]
      omega
  -- What is taken off was on top of `above`, for the evaluation has not ended.
  | @pass frame rest top hout hstack' hact htop hnew hdepth' =>
    cases above with
    | nil => exact absurd ⟨hout, hstack⟩ hrun
    | cons frame' above =>
      obtain ⟨rfl, rfl⟩ : frame = frame' ∧ rest = above ++ below := by
        rw [hstack] at hstack'
        exact ⟨(List.cons.inj hstack').1.symm, (List.cons.inj hstack').2.symm⟩
      refine ⟨top ++ above, by rw [hnew, List.append_assoc], ?_⟩
      rw [hdepth', hdepth, activations_append, htop.activations_eq,
        activations_cons_of_false hact, Nat.zero_add]
  | @leave kept rest hout hstack' hnew hdepth' =>
    cases above with
    | nil => exact absurd ⟨hout, hstack⟩ hrun
    | cons frame' above =>
      obtain ⟨rfl, rfl⟩ : frame' = .activation kept ∧ rest = above ++ below := by
        rw [hstack] at hstack'
        exact ⟨(List.cons.inj hstack').1, (List.cons.inj hstack').2.symm⟩
      refine ⟨above, hnew, ?_⟩
      rw [hdepth', hdepth, activations_activation]
      omega

theorem Accounts.after (h : c.Accounts below d) (n : Nat)
    (hrun : ∀ k < n, ¬ (c.after k).SettledOn below) : (c.after n).Accounts below d := by
  induction n with
  | zero => exact h
  | succ n ih =>
    exact (ih fun k hk => hrun k (Nat.lt_succ_of_lt hk)).step (hrun n (Nat.lt_succ_self n))

theorem Accounts.exists_settledOn {above : List Frame} {n : Nat}
    (h : c.Accounts (above ++ below) d) (habove : above ≠ []) (hend : (c.after n).stack = below) :
    ∃ k < n, (c.after k).SettledOn (above ++ below) := by
  refine Classical.byContradiction fun hnone => ?_
  obtain ⟨top, hstack, -⟩ := h.after n fun k hk hsettled => hnone ⟨k, hk, hsettled⟩
  have hlength := congrArg List.length (hend.symm.trans hstack)
  have hpositive := List.length_pos_iff.2 habove
  simp only [List.length_append] at hlength
  omega

theorem Accounts.step_of_nil (h : c.Accounts [] d) : c.step.Accounts [] d := by
  by_cases hend : c.SettledOn []
  · rw [hend.step_eq]
    exact h
  · exact h.step hend

theorem Accounts.depth_eq (h : c.Accounts below d) (hend : c.stack = below) : c.depth = d := by
  obtain ⟨above, hstack, hdepth⟩ := h
  have habove : above = [] := List.append_left_eq_self.1 (hstack.symm.trans hend)
  rw [hdepth, habove]
  rfl

theorem limit_after (c : Config) (n : Nat) : (c.after n).limit = c.limit := by
  induction n with
  | zero => rfl
  | succ n ih => exact (c.after n).shift_step.2.trans ih

theorem depth_step_le (c : Config) : c.step.depth ≤ max c.depth c.limit := by
  obtain ⟨hshift, -⟩ := c.shift_step
  cases hshift <;> omega

theorem depth_after_le (c : Config) (n : Nat) : (c.after n).depth ≤ max c.depth c.limit := by
  induction n with
  | zero => exact Nat.le_max_left _ _
  | succ n ih =>
    have hstep := (c.after n).depth_step_le
    rw [limit_after] at hstep
    rw [after_succ]
    omega

theorem step_call_of_limit_le {target : Value} {args : List Value}
    (hc : c.control = .call target args) (hd : c.limit ≤ c.depth) :
    ∃ ready, (ready = c ∨ ready = c.sweep) ∧ c.step = { ready with control := .raise tooDeep } := by
  -- Whichever types are released before, depth and limit are the same.
  have hadvance {ready : Config} (hcontrol : ready.control = c.control)
      (hruntime : ready.session.host.runtime = c.session.host.runtime) :
      ready.advance = { ready with control := .raise tooDeep } := by
    have hlimit : ready.limit ≤ ready.depth := by
      unfold limit depth
      rw [hruntime]
      exact hd
    rw [← call_of_limit_le hlimit target args]
    unfold advance
    rw [hcontrol, hc]
  unfold step
  split
  · exact ⟨c.sweep, Or.inr rfl, hadvance rfl c.runtime_sweep⟩
  · exact ⟨c, Or.inl rfl, hadvance rfl rfl⟩

theorem step_of_limit_le {target : Value} {args : List Value} (hcontrol : c.control = .call target args)
    (hdepth : c.limit ≤ c.depth) : c.step.control = .raise tooDeep ∧ c.step.stack = c.stack := by
  obtain ⟨ready, hready, hstep⟩ := step_call_of_limit_le hcontrol hdepth
  rw [hstep]
  rcases hready with rfl | rfl <;> exact ⟨rfl, rfl⟩

theorem depth_ready (c : Config) : c.ready.depth = c.depth := congrArg Runtime.depth c.runtime_ready

theorem limit_ready (c : Config) : c.ready.limit = c.limit :=
  congrArg (fun rt => rt.options.maxCallDepth) c.runtime_ready

theorem step_call_of_depth_lt {target : Value} {args : List Value}
    (hcontrol : c.control = .call target args) (hdepth : c.depth < c.limit) :
    c.step = ((c.ready.setDepth (c.ready.depth + 1)).push
      (.activation (c.ready.keptBy target args))).dispatch target args := by
  rw [step_eq_advance, advance_of_call (c.control_ready.trans hcontrol),
    call_of_depth_lt (by rwa [depth_ready, limit_ready])]

/-! ## Scripts -/

theorem level_equip (s : Session) (setup : Setup) :
    s.host.runtime.Level (s.equip setup).host.runtime := (s.provided_equip setup).level

theorem depth_restart (s : Session) (options : Options) :
    (s.restart options).host.runtime.depth = 0 := by
  unfold Session.restart
  obtain ⟨gone, lingering, heq⟩ := Session.exists_sweep_eq _ _
  rw [heq]
  rfl

/-- In a script every level of `depth` belongs to a `Frame.activation`. -/
theorem Reachable.accounts (h : c.Reachable) : c.Accounts [] 0 := by
  -- Each expression of a script begins at depth 0, where the one before has left it.
  induction h with
  | start setup e => exact ⟨[], rfl, (level_equip _ setup).2⟩
  | step hc ih => exact ih.step_of_nil
  | @next c e hc hend ih => exact ⟨[], rfl, ih.depth_eq hend.2⟩
  | @restart c setup e hc hend ih =>
    exact ⟨[], rfl, (level_equip _ setup).2.trans (depth_restart _ _)⟩

theorem Reachable.depth_eq (h : c.Reachable) : c.depth = activations c.stack := by
  obtain ⟨above, hstack, hdepth⟩ := h.accounts
  rw [hdepth, hstack, List.append_nil, Nat.zero_add]

theorem Reachable.depth_le (h : c.Reachable) : c.depth ≤ c.limit := by
  induction h with
  | start setup e =>
    exact Nat.le_trans (Nat.le_of_eq (level_equip _ setup).2) (Nat.zero_le _)
  | @step c hc ih =>
    have hle := c.depth_step_le
    rw [c.shift_step.2]
    omega
  | next e hc hend ih => exact ih
  | @restart c setup e hc hend ih =>
    exact Nat.le_trans (Nat.le_of_eq ((level_equip _ setup).2.trans (depth_restart _ _)))
      (Nat.zero_le _)

/-! ## Main result -/

/-- For every configuration and every `Task`: until the task is done, `activations` of the frames above
`c.stack` are the levels of depth gained since `c`; when it is done, with a value or with an exception,
`depth` is what it was. The depth never passes `limit` unless it had done so before, which no `Reachable`
configuration does, and a call at the limit raises a `recursionError` and does nothing else. -/
theorem calls_balanced (c : Config) (task : Task) (n : Nat)
    (hrun : ∀ k < n, ¬ ((c.start task).after k).SettledOn c.stack) :
    let later := (c.start task).after n
    (∃ above, later.stack = above ++ c.stack ∧ later.depth = c.depth + activations above) ∧
      (later.SettledOn c.stack → later.depth = c.depth) ∧
      later.depth ≤ max c.depth c.limit ∧
      (∀ target args, later.control = .call target args → c.limit ≤ later.depth →
        ∃ ready, (ready = later ∨ ready = later.sweep) ∧
          later.step = { ready with control := .raise tooDeep }) ∧
      ∀ reached : Config, reached.Reachable → reached.depth ≤ reached.limit := by
  intro later
  have haccounts : later.Accounts c.stack c.depth := (c.accounts_start task).after n hrun
  have hlimit : later.limit = c.limit := (limit_after _ n).trans (c.level_start task).2
  refine ⟨haccounts, fun hend => haccounts.depth_eq hend.2, ?_, ?_, fun reached h => h.depth_le⟩
  · rw [← (c.level_start task).1, ← (c.level_start task).2]
    exact depth_after_le _ n
  · intro target args hcall hle
    exact step_call_of_limit_le hcall (hlimit ▸ hle)

def selfCaller : Value :=
  .function ⟨0, "f", .host [.apply (.object .call) [.arg 0, .arg 0]]⟩

def oneCallAllowed : Config :=
  { control := .give .null, stack := [.attempt], session := .start { maxCallDepth := 1 } }

def selfCall : Config := oneCallAllowed.start (.call selfCaller [selfCaller])

/-- With `maxCallDepth` 1 the second call is refused, and the exception leaves the first one. -/
theorem calls_balanced_selfCall :
    (∀ k < 10, ¬ (selfCall.after k).SettledOn oneCallAllowed.stack) ∧
      (selfCall.after 7).depth = oneCallAllowed.limit ∧
      (selfCall.after 10).SettledOn oneCallAllowed.stack ∧
      (selfCall.after 10).depth = oneCallAllowed.depth := by
  -- Frames cannot be compared, but their numbers can.
  have hbusy : ∀ k < 10, (selfCall.after k).control.isOutcome = false ∨
      (selfCall.after k).stack.length ≠ oneCallAllowed.stack.length := by
    decide +kernel
  have hrun : ∀ k < 10, ¬ (selfCall.after k).SettledOn oneCallAllowed.stack := by
    rintro k hk ⟨hout, hstack⟩
    rcases hbusy k hk with h | h
    · rw [hout] at h
      contradiction
    · exact h (congrArg List.length hstack)
  have hend : (selfCall.after 10).SettledOn oneCallAllowed.stack := ⟨rfl, rfl⟩
  obtain ⟨-, hdepth, -⟩ := calls_balanced oneCallAllowed (.call selfCaller [selfCaller]) 10 hrun
  exact ⟨hrun, rfl, hend, hdepth hend⟩

end Config

end ObjectProtocol
