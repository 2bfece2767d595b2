import ObjectProtocol.Script

/-!
# Runs

A run takes one step after another.  `Config.after` is the configuration some steps later, and
`Config.Reachable` collects everything that scripts come to: a configuration in the middle of an
expression as well as one at its end, and what follows after other expressions and restarts.
-/

namespace ObjectProtocol

/-- `sweep` touches only `released` and `lingering`. -/
theorem Session.exists_sweep_eq (s : Session) (others : Unit → List Value) :
    ∃ gone lingering, s.sweep others =
      { s.setStore { s.host.store with released := gone ++ s.host.store.released } with
        lingering } := by
  unfold sweep
  dsimp only
  split
  · exact ⟨[], s.lingering, rfl⟩
  · split
    · exact ⟨[], s.lingering, rfl⟩
    · exact ⟨_, _, rfl⟩

/-- All that `restart` does to the store: the new built-in types get identities, and types are released.
-/
theorem Session.exists_store_restart (s : Session) (options : Options) :
    ∃ nextId released, (s.restart options).host.store = { s.host.store with nextId, released } := by
  unfold restart
  dsimp only
  obtain ⟨gone, lingering, heq⟩ := Session.exists_sweep_eq _ _
  rw [heq]
  exact ⟨_, _, rfl⟩

/-- Only `released` and `lingering` may have changed. -/
def Session.ReleasedTo (s s' : Session) : Prop :=
  ∃ released lingering, s' = { s.setStore { s.host.store with released } with lingering }

theorem Session.releasedTo_sweep (s : Session) (others : Unit → List Value) :
    s.ReleasedTo (s.sweep others) := by
  obtain ⟨gone, lingering, hsweep⟩ := s.exists_sweep_eq others
  exact ⟨_, lingering, hsweep⟩

def Control.isOutcome : Control → Bool
  | .give _ | .raise _ => true
  | .eval _ | .body _ | .call .. | .malformed => false

namespace Config

theorem runtime_sweep (c : Config) :
    c.sweep.session.host.runtime = c.session.host.runtime := by
  obtain ⟨gone, lingering, heq⟩ := c.session.exists_sweep_eq fun () => c.roots
  unfold sweep
  rw [heq]
  rfl

/-- The configuration that `step` advances: types that nobody owns have been released, if somebody may ask
for them. -/
def ready (c : Config) : Config :=
  if !c.session.lingering.isEmpty && c.asksForType then c.sweep else c

theorem step_eq_advance (c : Config) : c.step = c.ready.advance := by
  unfold step ready
  split <;> rfl

theorem ready_cases (c : Config) : c.ready = c ∨ c.ready = c.sweep := by
  unfold ready
  split
  · exact Or.inr rfl
  · exact Or.inl rfl

theorem releasedTo_ready (c : Config) : c.session.ReleasedTo c.ready.session := by
  rcases c.ready_cases with heq | heq
  · exact ⟨_, _, by rw [heq]; rfl⟩
  · rw [heq]
    exact c.session.releasedTo_sweep fun () => c.roots

theorem runtime_ready (c : Config) : c.ready.session.host.runtime = c.session.host.runtime := by
  obtain ⟨released, lingering, hreleased⟩ := c.releasedTo_ready
  rw [hreleased]
  rfl

theorem exists_store_ready (c : Config) :
    ∃ released, c.ready.session.host.store = { c.session.host.store with released } := by
  obtain ⟨released, lingering, hreleased⟩ := c.releasedTo_ready
  exact ⟨released, by rw [hreleased]; rfl⟩

/-- If nobody asks for a type, no type is released. -/
theorem ready_of_asksForType {c : Config} (h : c.asksForType = false) : c.ready = c := by
  unfold ready
  rw [h, Bool.and_false, if_neg Bool.false_ne_true]

theorem step_of_asksForType {c : Config} (h : c.asksForType = false) : c.step = c.advance := by
  rw [step_eq_advance, ready_of_asksForType h]

/-- An outcome makes an operation ask only if it is the value of the last operand. -/
theorem asksForType_of_isOutcome {c : Config} (hout : c.control.isOutcome = true)
    (hframe : ∀ op done rest, c.stack ≠ .operand (.object op) done [] :: rest) :
    c.asksForType = false := by
  unfold asksForType
  split
  · rename_i hcall
    rw [hcall] at hout
    contradiction
  · rename_i hstack
    exact absurd hstack (hframe _ _ _)
  · rfl

theorem asksForType_of_raise {c : Config} {e : Exception} (h : c.control = .raise e) :
    c.asksForType = false := by
  unfold asksForType
  rw [h]

theorem ready_eq {c : Config} (h : c.session.lingering = []) : c.ready = c := by
  unfold ready
  rw [h]
  rfl

@[simp] theorem control_ready (c : Config) : c.ready.control = c.control := by
  rcases c.ready_cases with h | h
  · rw [h]
  · rw [h]
    rfl

@[simp] theorem stack_ready (c : Config) : c.ready.stack = c.stack := by
  rcases c.ready_cases with h | h
  · rw [h]
  · rw [h]
    rfl

@[simp] theorem args_ready (c : Config) : c.ready.args = c.args := by
  rcases c.ready_cases with h | h
  · rw [h]
  · rw [h]
    rfl

section Advance

variable {c : Config}

theorem advance_of_eval {e : Expr} (h : c.control = .eval e) : c.advance = c.eval e := by
  unfold advance
  rw [h]

theorem advance_of_body {es : List Expr} (h : c.control = .body es) : c.advance = c.body es := by
  unfold advance
  rw [h]

theorem advance_of_call {target : Value} {args : List Value} (h : c.control = .call target args) :
    c.advance = c.call target args := by
  unfold advance
  rw [h]

theorem advance_of_give {v : Value} {frame : Frame} {rest : List Frame} (h : c.control = .give v)
    (hstack : c.stack = frame :: rest) :
    c.advance = ({ c with stack := rest }).receive v frame := by
  unfold advance
  rw [h, hstack]

theorem advance_of_raise {e : Exception} {frame : Frame} {rest : List Frame}
    (h : c.control = .raise e) (hstack : c.stack = frame :: rest) :
    c.advance = ({ c with stack := rest }).unwind e frame := by
  unfold advance
  rw [h, hstack]

theorem advance_of_malformed (h : c.control = .malformed) : c.advance = c := by
  unfold advance
  rw [h]

theorem advance_of_nil (h : c.control.isOutcome = true) (hstack : c.stack = []) :
    c.advance = c := by
  unfold advance
  rw [hstack]
  cases hcontrol : c.control with
  | give v | raise e | malformed => rfl
  | eval | body | call =>
    rw [hcontrol] at h
    contradiction

end Advance

/-- The next `advance` runs the operation on the operands, on top of the frames `rest`. -/
inductive Performs (c : Config) : Op Code → List Value → List Frame → Prop
  | bare {op : Op Code} : c.control = .eval (.apply op []) → Performs c op [] c.stack
  | operands {op : Op Code} {v : Value} {done : List Value} {rest : List Frame} :
    c.control = .give v → c.stack = .operand op done [] :: rest →
      Performs c op (v :: done).reverse rest
  /-- The values of repeated evaluations become a list, even if there are none. -/
  | noValues {body : Expr} : c.control = .eval (.repeat 0 body) →
    Performs c (.object .list) [] c.stack
  | values {v : Value} {body : Expr} {done : List Value} {rest : List Frame} :
    c.control = .give v → c.stack = .repetition 0 body done :: rest →
      Performs c (.object .list) (v :: done).reverse rest

theorem Performs.advance_eq {c : Config} {op : Op Code} {operands : List Value}
    {rest : List Frame} (h : c.Performs op operands rest) :
    c.advance = ({ c with stack := rest }).operate op operands := by
  obtain ⟨control, stack, args, session⟩ := c
  cases h with
  | bare hcontrol | noValues hcontrol =>
    dsimp only at hcontrol
    subst hcontrol
    rfl
  | operands hcontrol hstack | values hcontrol hstack =>
    dsimp only at hcontrol hstack
    subst hcontrol hstack
    rfl

theorem Performs.ready {c : Config} {op : Op Code} {operands : List Value} {rest : List Frame}
    (h : c.Performs op operands rest) : c.ready.Performs op operands rest := by
  cases h with
  | bare hcontrol =>
    rw [← c.stack_ready]
    exact .bare (c.control_ready.trans hcontrol)
  | operands hcontrol hstack =>
    exact .operands (c.control_ready.trans hcontrol) (c.stack_ready.trans hstack)
  | noValues hcontrol =>
    rw [← c.stack_ready]
    exact .noValues (c.control_ready.trans hcontrol)
  | values hcontrol hstack =>
    exact .values (c.control_ready.trans hcontrol) (c.stack_ready.trans hstack)

theorem Performs.mem_stack {c : Config} {op : Op Code} {operands : List Value} {rest : List Frame}
    (h : c.Performs op operands rest) {frame : Frame} (hframe : frame ∈ rest) :
    frame ∈ c.stack := by
  cases h with
  | bare | noValues => exact hframe
  | operands _ hstack | values _ hstack =>
    rw [hstack]
    exact List.mem_cons_of_mem _ hframe

/-- The configuration `n` steps later. -/
def after (c : Config) : Nat → Config
  | 0 => c
  | n + 1 => (c.after n).step

/-- An evaluation that began on top of the frames `below` has ended, with a value or an exception. -/
def SettledOn (c : Config) (below : List Frame) : Prop :=
  c.control.isOutcome = true ∧ c.stack = below

theorem not_settledOn {c : Config} {below : List Frame}
    (h : c.control.isOutcome = false ∨ c.stack.length ≠ below.length) : ¬ c.SettledOn below := by
  rintro ⟨hout, hstack⟩
  rcases h with h | h
  · rw [hout] at h
    contradiction
  · exact h (congrArg List.length hstack)

theorem SettledOn.asksForType_eq {c : Config} (h : c.SettledOn []) : c.asksForType = false :=
  asksForType_of_isOutcome h.1 fun _ _ _ hstack => by
    rw [h.2] at hstack
    contradiction

theorem SettledOn.step_eq {c : Config} (h : c.SettledOn []) : c.step = c :=
  (step_of_asksForType h.asksForType_eq).trans (advance_of_nil h.1 h.2)

/-- The configurations that scripts come to: `Setup`s, expressions one after the other, and restarts. -/
inductive Reachable : Config → Prop
  /-- A script begins in a new session. -/
  | start (setup : Setup) (e : Expr) :
    Reachable { control := .eval e, session := .ofSetup setup }
  | step {c : Config} : Reachable c → Reachable c.step
  /-- When an expression has ended, the next one begins in the session that it left. -/
  | next {c : Config} (e : Expr) : Reachable c → c.SettledOn [] →
    Reachable { control := .eval e, session := c.session }
  /-- Between two expressions the runtime may be started anew. -/
  | restart {c : Config} (setup : Setup) (e : Expr) : Reachable c → c.SettledOn [] →
    Reachable { control := .eval e, session := (c.session.restart setup.options).equip setup }

/-- What a configuration comes to: what `Reachable` collects, from this configuration on. -/
inductive LeadsTo (c : Config) : Config → Prop
  | refl : LeadsTo c c
  | step {c' : Config} : LeadsTo c c' → LeadsTo c c'.step
  | next {c' : Config} (e : Expr) : LeadsTo c c' → c'.SettledOn [] →
    LeadsTo c { control := .eval e, session := c'.session }
  | restart {c' : Config} (setup : Setup) (e : Expr) : LeadsTo c c' → c'.SettledOn [] →
    LeadsTo c { control := .eval e, session := (c'.session.restart setup.options).equip setup }

theorem Reachable.leadsTo {c c' : Config} (h : c.Reachable) (hc : c.LeadsTo c') :
    c'.Reachable := by
  induction hc with
  | refl => exact h
  | step _ ih => exact ih.step
  | next e _ hend ih => exact ih.next e hend
  | restart setup e _ hend ih => exact ih.restart setup e hend

@[simp] theorem after_zero (c : Config) : c.after 0 = c := rfl

theorem after_succ (c : Config) (n : Nat) : c.after (n + 1) = (c.after n).step := rfl

theorem after_step (c : Config) (n : Nat) : c.step.after n = c.after (n + 1) := by
  induction n with
  | zero => rfl
  | succ n ih => rw [after_succ, ih, ← after_succ]

theorem after_add (c : Config) (n m : Nat) : (c.after n).after m = c.after (n + m) := by
  induction m with
  | zero => rfl
  | succ m ih => rw [after_succ, ih, ← Nat.add_assoc, after_succ]

theorem forall_after_add {c : Config} {P : Config → Prop} {m n : Nat}
    (hfirst : ∀ k < m, P (c.after k)) (hthen : ∀ k < n, P ((c.after m).after k)) :
    ∀ k < m + n, P (c.after k) := by
  intro k hk
  by_cases hlt : k < m
  · exact hfirst k hlt
  · obtain ⟨j, rfl⟩ : ∃ j, k = m + j := ⟨k - m, by omega⟩
    rw [← after_add]
    exact hthen j (by omega)

theorem SettledOn.after_eq {c : Config} (h : c.SettledOn []) (n : Nat) : c.after n = c := by
  induction n with
  | zero => rfl
  | succ n ih => rw [after_succ, ih, h.step_eq]

theorem Reachable.after {c : Config} (h : c.Reachable) (n : Nat) : (c.after n).Reachable := by
  induction n with
  | zero => exact h
  | succ n ih => exact ih.step

theorem LeadsTo.after {c c' : Config} (h : c.LeadsTo c') (n : Nat) : c.LeadsTo (c'.after n) := by
  induction n with
  | zero => exact h
  | succ n ih => exact ih.step

/-- What `run` ends with is where the steps lead. -/
theorem exists_run_eq (fuel : Nat) (c : Config) :
    ∃ n ≤ fuel, run fuel c = ((c.after n).outcome?.getD .unfinished, (c.after n).session) ∧
      (n = fuel ∨ (c.after n).outcome?.isSome) := by
  induction fuel generalizing c with
  | zero => exact ⟨0, Nat.le_refl 0, rfl, Or.inl rfl⟩
  | succ fuel ih =>
    unfold run
    cases h : c.outcome? with
    | some outcome => exact ⟨0, Nat.zero_le _, by simp [h], Or.inr (by simp [h])⟩
    | none =>
      -- The rest of the run begins one step later, with one step less to go.
      obtain ⟨n, hn, heq, hend⟩ := ih c.step
      rw [after_step] at heq hend
      refine ⟨n + 1, Nat.succ_le_succ hn, heq, ?_⟩
      exact hend.imp (fun h => by rw [h]) id

end Config

end ObjectProtocol
