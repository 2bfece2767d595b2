import ObjectProtocol.Proofs.Calls.OtherLimit

/-!
# Raising the depth limit

All moves of the machine commute with another limit, a call that is not refused among them.  So a run that
no call was refused in goes the same way, configuration by configuration, under every greater limit.
-/

namespace ObjectProtocol

/-! ## Moves of the machine -/

namespace Config

variable {c : Config} {limit : Nat}

theorem enter_withLimit (c : Config) {f : Host → Entry × Host} (hf : Host.Unlimited f) :
    (c.withLimit limit).enter f = (c.enter f).withLimit limit := by
  obtain ⟨control, stack, args, session⟩ := c
  have hhost := hf session.host limit
  unfold Config.enter onHost onSession Session.onHost withLimit Session.withLimit
  dsimp only
  rw [hhost]
  dsimp only
  split <;> rfl

theorem operate_withLimit (c : Config) (op : Op Code) (operands : List Value)
    (h : ¬ (op = .object .debugRuntime ∧ operands = [])) :
    (c.withLimit limit).operate op operands = (c.operate op operands).withLimit limit := by
  obtain ⟨control, stack, args, session⟩ := c
  have hrun : op.run operands (session.withLimit limit) =
      ((op.run operands session).1, (op.run operands session).2.withLimit limit) :=
    op.run_withLimit operands session h
  unfold Config.operate onSession withLimit
  dsimp only
  rw [hrun]
  dsimp only
  split
  · rfl
  · rfl
  · rfl
  · -- A length that is asked of a method lays a frame before the method is entered.
    rename_i t d receiver _
    exact enter_withLimit (push ⟨control, stack, args, (op.run operands session).2⟩ (.length t))
      (Host.unlimited_runMethod d receiver [])
  · rfl

theorem operands_withLimit (c : Config) (op : Op Code) (done : List Value) (todo : List Expr)
    (h : ¬ (op = .object .debugRuntime ∧ done = [] ∧ todo = [])) :
    (c.withLimit limit).operands op done todo = (c.operands op done todo).withLimit limit := by
  cases todo with
  | nil =>
    refine c.operate_withLimit op done.reverse fun hboth => h ⟨hboth.1, ?_, rfl⟩
    exact List.reverse_eq_nil_iff.1 hboth.2
  | cons e todo => rfl

theorem entries_withLimit (c : Config) (made : Mapping) (pairs : List (Expr × Expr)) :
    (c.withLimit limit).entries made pairs = (c.entries made pairs).withLimit limit := by
  cases pairs <;> rfl

theorem repetitions_withLimit (c : Config) (body : Expr) (done : List Value) (left : Nat) :
    (c.withLimit limit).repetitions body done left =
      (c.repetitions body done left).withLimit limit := by
  cases left with
  | zero =>
    refine c.operate_withLimit (.object .list) done.reverse fun hboth => ?_
    cases hboth.1
  | succ left => rfl

/-- `debugRuntime` is about to run on no operands: its text shows the options. -/
def printsOptions (c : Config) : Bool :=
  match c.control with
  | .eval (.apply (.object .debugRuntime) []) => true
  | _ => false

/-- The next step is a `call` at the limit. -/
def refuses (c : Config) : Bool :=
  match c.control with
  | .call .. => c.limit ≤ c.depth
  | _ => false

theorem eval_withLimit (c : Config) (e : Expr) (h : e ≠ .apply (.object .debugRuntime) []) :
    (c.withLimit limit).eval e = (c.eval e).withLimit limit := by
  cases e with
  | dict pairs => exact c.entries_withLimit {} pairs
  | apply op es =>
    refine c.operands_withLimit op [] es fun hall => h ?_
    rw [hall.1, hall.2.2]
  | «repeat» count body => exact c.repetitions_withLimit body [] count
  | null | bool | int | float | str | arg | args | seq | ite | attempt | raise => rfl

theorem body_withLimit (c : Config) (es : List Expr) :
    (c.withLimit limit).body es = (c.body es).withLimit limit := by
  match es with
  | [] | [e] | e :: e' :: rest => rfl

theorem dispatch_withLimit (c : Config) (target : Value) (args : List Value) :
    (c.withLimit limit).dispatch target args = (c.dispatch target args).withLimit limit := by
  cases target with
  | function f => exact c.enter_withLimit (Host.unlimited_runFunction f args)
  | method id receiver d => exact c.enter_withLimit (Host.unlimited_runMethod d receiver args)
  | type t =>
    unfold Config.dispatch
    dsimp only
    have hrefusal : (c.withLimit limit).session.host.refusal? t args =
        c.session.host.refusal? t args := rfl
    rw [hrefusal]
    split
    · rfl
    · -- The instance has been made, and its initializer is entered on a frame.
      exact enter_withLimit
        ((c.onHost fun h => h.newInstance t).2.push (.initializer _)) (Host.unlimited_setUp t _ args)
  | object ref =>
    unfold Config.dispatch
    have hstore : (c.withLimit limit).session.host.store = c.session.host.store := rfl
    dsimp only
    rw [hstore]
    split
    · rfl
    · split
      · exact c.enter_withLimit (Host.unlimited_runMethod _ _ args)
      · rfl
  | null | bool | int | float | str | tuple | list | dict | iterator => rfl

theorem call_withLimit (c : Config) (target : Value) (args : List Value) (hlt : c.depth < c.limit)
    (hle : c.limit ≤ limit) :
    (c.withLimit limit).call target args = (c.call target args).withLimit limit := by
  have hbelow : ¬ c.session.host.runtime.options.maxCallDepth ≤ c.depth := Nat.not_le_of_lt hlt
  have habove : ¬ limit ≤ (c.withLimit limit).depth := by
    show ¬ limit ≤ c.depth
    omega
  unfold call
  rw [if_neg hbelow]
  show (if limit ≤ (c.withLimit limit).depth then _ else _) = _
  rw [if_neg habove]
  exact dispatch_withLimit
    ((c.setDepth (c.depth + 1)).push (.activation (c.keptBy target args))) target args

theorem receive_withLimit (c : Config) (v : Value) (frame : Frame) :
    (c.withLimit limit).receive v frame = (c.receive v frame).withLimit limit := by
  cases frame with
  | operand op done todo =>
    refine c.operands_withLimit op (v :: done) todo fun hall => ?_
    cases hall.2.1
  | repetition left body done => exact c.repetitions_withLimit body (v :: done) left
  | entry made key rest => exact c.entries_withLimit _ rest
  | length t =>
    unfold Config.receive
    have hstore : (c.withLimit limit).session.host.store = c.session.host.store := rfl
    dsimp only
    rw [hstore]
    split <;> rfl
  | condition | sequence | attempt | key | activation | scope | initializer => rfl

theorem unwind_withLimit (c : Config) (e : Exception) (frame : Frame) :
    (c.withLimit limit).unwind e frame = (c.unwind e frame).withLimit limit := by
  cases frame <;> rfl

theorem advance_withLimit (c : Config) (hle : c.limit ≤ limit) (hcall : c.refuses = false)
    (hprint : c.printsOptions = false) :
    (c.withLimit limit).advance = c.advance.withLimit limit := by
  obtain ⟨control, stack, args, session⟩ := c
  cases control with
  | eval e =>
    refine eval_withLimit _ e fun heq => ?_
    subst heq
    contradiction
  | body es => exact body_withLimit _ es
  -- The only place where the limit is compared: `hcall` says that it is not reached.
  | call target callArgs =>
    exact call_withLimit _ target callArgs (Nat.lt_of_not_le (of_decide_eq_false hcall)) hle
  | malformed => rfl
  | give v =>
    cases stack with
    | nil => rfl
    | cons frame rest => exact receive_withLimit ⟨.give v, rest, args, session⟩ v frame
  | raise e =>
    cases stack with
    | nil => rfl
    | cons frame rest => exact unwind_withLimit ⟨.raise e, rest, args, session⟩ e frame

/-! ## Steps and runs -/

theorem sweep_withLimit (c : Config) : (c.withLimit limit).sweep = c.sweep.withLimit limit := by
  show Config.mk _ _ _ ((c.session.withLimit limit).sweep fun () => c.roots) = _
  rw [Session.sweep_withLimit]
  rfl

theorem step_withLimit (c : Config) (hle : c.limit ≤ limit) (hcall : c.refuses = false)
    (hprint : c.printsOptions = false) : (c.withLimit limit).step = c.step.withLimit limit := by
  have hasks : (!(c.withLimit limit).session.lingering.isEmpty && (c.withLimit limit).asksForType) =
      (!c.session.lingering.isEmpty && c.asksForType) := rfl
  unfold step
  rw [hasks]
  split
  · -- Releasing types changes neither the limit nor the depth.
    have hdepth : c.sweep.depth = c.depth := congrArg Runtime.depth c.runtime_sweep
    have hlimit : c.sweep.limit = c.limit :=
      congrArg (fun rt => rt.options.maxCallDepth) c.runtime_sweep
    have hrefuses : c.sweep.refuses = c.refuses := by
      unfold refuses
      rw [hdepth, hlimit]
      rfl
    rw [sweep_withLimit]
    exact c.sweep.advance_withLimit (hlimit ▸ hle) (hrefuses.trans hcall) hprint
  · exact c.advance_withLimit hle hcall hprint

/-- No later configuration `refuses` a call or `printsOptions`. -/
def Unhindered (c : Config) : Prop :=
  ∀ n, (c.after n).refuses = false ∧ (c.after n).printsOptions = false

theorem Unhindered.step (h : c.Unhindered) : c.step.Unhindered := by
  intro n
  rw [after_step]
  exact h (n + 1)

theorem Unhindered.run_withLimit (h : c.Unhindered) (hle : c.limit ≤ limit) (fuel : Nat) :
    run fuel (c.withLimit limit) = ((run fuel c).1, (run fuel c).2.withLimit limit) := by
  induction fuel generalizing c with
  | zero => rfl
  | succ fuel ih =>
    have houtcome : (c.withLimit limit).outcome? = c.outcome? := rfl
    have hstep := c.step_withLimit hle (h 0).1 (h 0).2
    have hlimit : c.step.limit = c.limit := c.shift_step.2
    unfold run
    rw [houtcome, hstep]
    cases c.outcome? with
    | some outcome => rfl
    | none => exact ih h.step (hlimit ▸ hle)

theorem unhindered_of_settled {n : Nat} (hend : (c.after n).SettledOn [])
    (hbefore : ∀ k < n, (c.after k).refuses = false ∧ (c.after k).printsOptions = false) :
    c.Unhindered := by
  -- At the end the control is an outcome, and nothing is called or printed.
  have hlast : (c.after n).refuses = false ∧ (c.after n).printsOptions = false := by
    have hout := hend.1
    unfold refuses printsOptions
    cases hcontrol : (c.after n).control with
    | give v => exact ⟨rfl, rfl⟩
    | raise e => exact ⟨rfl, rfl⟩
    | eval | body | call | malformed =>
      rw [hcontrol] at hout
      contradiction
  intro k
  by_cases hk : k < n
  · exact hbefore k hk
  · obtain ⟨d, rfl⟩ : ∃ d, k = n + d := ⟨k - n, by omega⟩
    rw [← after_add, hend.after_eq]
    exact hlast

end Config

/-! ## Scripts -/

namespace Session

def limit (s : Session) : Nat := s.host.runtime.options.maxCallDepth

/-- `Session.evaluate` for one expression after the other. -/
def evaluateAll (s : Session) : List Expr → List Outcome × Session
  | [] => ([], s)
  | e :: rest =>
    let (outcome, s) := s.evaluate e
    let (outcomes, s) := s.evaluateAll rest
    (outcome :: outcomes, s)

def Unhindered (s : Session) : List Expr → Prop
  | [] => True
  | e :: rest =>
    Config.Unhindered { control := .eval e, session := s } ∧ (s.evaluate e).2.Unhindered rest

theorem limit_evaluate (s : Session) (e : Expr) : (s.evaluate e).2.limit = s.limit := by
  obtain ⟨n, -, hrun, -⟩ := Config.exists_run_eq stepLimit { control := .eval e, session := s }
  show (Config.run stepLimit _).2.limit = s.limit
  rw [hrun]
  exact Config.limit_after _ n

theorem evaluateAll_withLimit {es : List Expr} {s : Session} (h : s.Unhindered es)
    {limit : Nat} (hle : s.limit ≤ limit) :
    (s.withLimit limit).evaluateAll es =
      ((s.evaluateAll es).1, (s.evaluateAll es).2.withLimit limit) := by
  induction es generalizing s with
  | nil => rfl
  | cons e rest ih =>
    obtain ⟨hfirst, hrest⟩ := h
    have hevaluate : (s.withLimit limit).evaluate e =
        ((s.evaluate e).1, (s.evaluate e).2.withLimit limit) :=
      hfirst.run_withLimit hle stepLimit
    have hothers := ih hrest (s.limit_evaluate e ▸ hle)
    unfold evaluateAll
    rw [hevaluate]
    dsimp only
    rw [hothers]

theorem ofSetup_withLimit (setup : Setup) (limit : Nat) :
    ofSetup { setup with options := { setup.options with maxCallDepth := limit } } =
      (ofSetup setup).withLimit limit := by
  have hstart : start { setup.options with maxCallDepth := limit } =
      (start setup.options).withLimit limit := rfl
  unfold ofSetup equip
  dsimp only
  rw [hstart]
  split
  · rw [loadSample_withLimit]
  · rfl

theorem limit_ofSetup (setup : Setup) : (ofSetup setup).limit = setup.options.maxCallDepth := by
  have hlevel := Config.level_equip (start setup.options) setup
  exact congrArg Options.maxCallDepth hlevel.1

/-! ## Main result -/

/-- A script without a restart that never `refuses` a call nor `printsOptions` has, under every greater
`maxCallDepth`, the same outcome for each of its expressions, and leaves the same session but for the
limit. -/
theorem greater_limit_changes_nothing (setup : Setup) (limit : Nat)
    (hle : setup.options.maxCallDepth ≤ limit) (es : List Expr)
    (h : (ofSetup setup).Unhindered es) :
    (ofSetup { setup with options := { setup.options with maxCallDepth := limit } }).evaluateAll es =
      (((ofSetup setup).evaluateAll es).1, ((ofSetup setup).evaluateAll es).2.withLimit limit) := by
  rw [ofSetup_withLimit]
  exact evaluateAll_withLimit h (limit_ofSetup setup ▸ hle)

def oneCall : Expr := .apply (.object .call) [.apply (.closure "f" [.arg 0]) [], .bool true]

def oneCallSetup : Setup := { options := { maxCallDepth := 1 }, sample := false }

theorem unhindered_oneCall : (ofSetup oneCallSetup).Unhindered [oneCall] := by
  have hend : (Config.after { control := .eval oneCall, session := ofSetup oneCallSetup } 10).SettledOn
      [] := ⟨rfl, rfl⟩
  refine ⟨Config.unhindered_of_settled hend ?_, trivial⟩
  decide +kernel

theorem greater_limit_changes_nothing_oneCall :
    (ofSetup oneCallSetup).Unhindered [oneCall] ∧
      ((ofSetup { oneCallSetup with options := { oneCallSetup.options with maxCallDepth := 7 } }
        ).evaluateAll [oneCall]).1 = [.value (.bool true)] := by
  have heq := greater_limit_changes_nothing oneCallSetup 7 (by decide) [oneCall] unhindered_oneCall
  refine ⟨unhindered_oneCall, ?_⟩
  rw [heq]
  rfl

end Session

end ObjectProtocol
