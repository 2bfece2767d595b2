import ObjectProtocol.Proofs.Boxes.Accounting

/-!
# What the mutation policy decides

Two runtimes that differ in the mutation policy alone, and are asked for the same moves that draw, make the
same draws, and the same moves fail in both as long as no counter reaches the greatest integer.  The policy
decides where the failures leave the counter, and nothing else.
-/

namespace ObjectProtocol

/-! ## Side by side -/

/-- One session goes by `validateThenMutate`, the other by `mutateThenValidate`; their options and their
generators are the same otherwise. -/
structure Session.Rivals (s s' : Session) : Prop where
  policy_eq : s.host.runtime.options.mutationPolicy = .validateThenMutate
  options_eq : s'.host.runtime.options =
    { s.host.runtime.options with mutationPolicy := .mutateThenValidate }
  generator_eq : s'.host.runtime.generator = s.host.runtime.generator

namespace Session.Rivals

variable {s s' t t' : Session} {ref ref' : Ref} {move : Sample.Move} {n n' : NativeInt}

theorem chance_eq (h : s.Rivals s') :
    s'.host.runtime.generator.chance s'.host.runtime.options.faultProbability =
      s.host.runtime.generator.chance s.host.runtime.options.faultProbability := by
  rw [h.generator_eq, h.options_eq]

theorem faulted_eq (h : s.Rivals s') : s'.host.runtime.faulted = s.host.runtime.faulted :=
  congrArg Prod.fst h.chance_eq

theorem leavesBox (h : s.Rivals s') (hleaves : s.LeavesBox ref t) (hleaves' : s'.LeavesBox ref' t') :
    t.Rivals t' := by
  refine ⟨?_, ?_, ?_⟩
  · rw [hleaves.options_eq]
    exact h.policy_eq
  · rw [hleaves'.options_eq, hleaves.options_eq]
    exact h.options_eq
  · rw [hleaves'.generator_eq, hleaves.generator_eq]
    exact h.generator_eq

theorem movedTo (h : s.Rivals s') (hmoved : s.MovedTo t ref move n)
    (hmoved' : s'.MovedTo t' ref' move n') : t.Rivals t' := by
  refine ⟨?_, ?_, ?_⟩
  · rw [hmoved.options_eq]
    exact h.policy_eq
  · rw [hmoved'.options_eq, hmoved.options_eq]
    exact h.options_eq
  · rw [hmoved'.runtime_eq, hmoved.runtime_eq]
    unfold Sample.Move.drawnFrom
    cases move.draws with
    | true => exact congrArg Prod.snd h.chance_eq
    | false => exact h.generator_eq

end Session.Rivals

/-! ## One call in each -/

namespace Sample.Move

variable {move : Move} {n : NativeInt} {faulted : Bool}

theorem fails_of_draws (hdraws : move.draws = true) (hn : n.val < 0x7fffffffffffffff) :
    move.fails n faulted = faulted := by
  have hne : n ≠ .largest := fun heq => by
    rw [heq] at hn
    exact absurd hn (by decide)
  simp [fails, hdraws, hne]

end Sample.Move

namespace Config.Comes

variable {call call' : MoveCall} {ref ref' : Ref} {n n' : NativeInt}

theorem rivals (h : call.before.Comes call.after ref call.move n)
    (h' : call'.before.Comes call'.after ref' call'.move n')
    (hrivals : call.before.session.Rivals call'.before.session) (hmove : call.move = call'.move)
    (hdraws : call.move.draws = true) (hn : n.val < 0x7fffffffffffffff)
    (hn' : n'.val < 0x7fffffffffffffff) :
    call.after.control = call'.after.control ∧ call.after.session.Rivals call'.after.session ∧
      ∃ m m', call.after.session.Reads ref m ∧ call'.after.session.Reads ref' m' ∧
        m'.val = n'.val + 1 ∧ m.val = n.val + call.succeeded.toNat := by
  have hdraws' : call'.move.draws = true := hmove ▸ hdraws
  -- With room left in both counters, failing is a matter of the draw, and that is the same.
  have hfails : call.move.fails n call.before.session.host.runtime.faulted =
      call'.move.fails n' call'.before.session.host.runtime.faulted := by
    rw [Sample.Move.fails_of_draws hdraws hn, Sample.Move.fails_of_draws hdraws' hn',
      hrivals.faulted_eq]
  refine ⟨?_, ?_, _, _, h.movedTo.reads, h'.movedTo.reads, ?_, ?_⟩
  · rw [h.control_eq, h'.control_eq, Sample.Move.entry, Sample.Move.entry, hfails, hmove]
  · exact hrivals.movedTo h.movedTo (hmove ▸ h'.movedTo)
  · have hlower := n'.lower
    rw [hrivals.options_eq, Sample.Move.val_next_of_draws hdraws', Int.bmod_def]
    omega
  · rw [hrivals.policy_eq, Sample.Move.val_next (Or.inr rfl), h.succeeded_eq]

end Config.Comes

/-! ## The same moves in both -/

namespace Session

variable {s s' t t' : Session} {ref ref' : Ref} {n n' : NativeInt} {calls calls' : List MoveCall}

/-- Along two `Moving` sequences of the same moves, `mutateThenValidate` moves the counter at every call,
and `validateThenMutate` at those that succeed. -/
theorem Moving.rivals (hrun : Moving (LeavesBox ref) ref s calls t)
    (hrun' : Moving (LeavesBox ref') ref' s' calls' t') (hrivals : s.Rivals s')
    (hmoves : calls.map (·.move) = calls'.map (·.move)) (hdraws : ∀ call ∈ calls, call.move ≠ .incr)
    (hn : s.Reads ref n) (hn' : s'.Reads ref' n') (hroom : n.val + calls.length ≤ 0x7fffffffffffffff)
    (hroom' : n'.val + calls.length ≤ 0x7fffffffffffffff) :
    calls.map (·.after.control) = calls'.map (·.after.control) ∧ t.Rivals t' ∧
      ∃ m m', t.Reads ref m ∧ t'.Reads ref' m' ∧ m.val = n.val + calls.countP MoveCall.succeeded ∧
        m'.val = n'.val + calls.length := by
  -- The induction is on the first sequence; the second one has the same moves, and so the same shape.
  induction hrun generalizing calls' s' n n' with
  | nil hbetween =>
    obtain rfl : calls' = [] := List.map_eq_nil_iff.1 hmoves.symm
    cases hrun' with
    | nil hbetween' =>
      exact ⟨rfl, hrivals.leavesBox hbetween hbetween', n, n', hbetween.reads hn, hbetween'.reads hn',
        by simp, by simp⟩
  | @cons s t call rest hbetween hbegins hanswered hrest ih =>
    cases hrun' with
    | nil => contradiction
    | @cons _ _ call' rest' hbetween' hbegins' hanswered' hrest' =>
      obtain ⟨hmove, hmoves⟩ := List.cons.inj hmoves
      rw [List.length_cons] at hroom hroom'
      have hcomes := hbegins.comes (hbetween.reads hn) hanswered
      have hcomes' := hbegins'.comes (hbetween'.reads hn') hanswered'
      obtain ⟨hcontrol, hrivals, m, m', hm, hm', hmval', hmval⟩ :=
        hcomes.rivals hcomes' (hrivals.leavesBox hbetween hbetween') hmove
          (Sample.Move.draws_eq_true_iff.2 (hdraws call List.mem_cons_self)) (by omega) (by omega)
      -- One call takes one off the room of either counter at most.
      have hadded := Bool.toNat_le call.succeeded
      obtain ⟨hcontrols, hrivals, k, k', hk, hk', hkval, hkval'⟩ := ih hrest' hrivals hmoves
        (fun call hcall => hdraws call (List.mem_cons_of_mem _ hcall)) hm hm' (by omega) (by omega)
      refine ⟨?_, hrivals, k, k', hk, hk', ?_, ?_⟩
      · rw [List.map_cons, List.map_cons, hcontrol, hcontrols]
      · rw [hkval, hmval, List.countP_cons]
        cases call.succeeded <;> simp; omega
      · rw [hkval', hmval', List.length_cons]
        omega

end Session

/-! ## Main result -/

namespace Config

structure HasCounter (c : Config) (ref : Ref) (n : NativeInt) : Prop where
  reachable : c.Reachable
  box : ∃ i, c.session.host.store.instances.get? ref = some i ∧ i.type.KeepsMoves
  reads : c.session.Reads ref n

theorem HasCounter.resolves {c : Config} {ref : Ref} {n : NativeInt} (h : c.HasCounter ref n) :
    c.Resolves ref := by
  obtain ⟨i, hi, ht⟩ := h.box
  exact Config.resolves (h.reachable.within.session.host.store.instances ref).sound
    ((Store.instanceAt_eq hi).symm ▸ ht)

/-- Take two boxes whose counters read `n`, in `Reachable` configurations whose sessions are `Rivals`.
They `Resolves` the names of the moves, and below the limit they can be called for any. Called for the
same moves that draw, as many as the counter has room for, with nothing moved or drawn in between: the
calls end alike at each place, in `null` or in the same `systemError`, the generators agree in the end,
and the counters differ by the number of calls that failed. -/
theorem policies_differ_by_failures {c c' : Config} {ref ref' : Ref} {n : NativeInt}
    (h : c.HasCounter ref n) (h' : c'.HasCounter ref' n) (hrivals : c.session.Rivals c'.session)
    (moves : List Sample.Move) (hdraws : ∀ move ∈ moves, move ≠ .incr)
    (hroom : n.val + moves.length ≤ 0x7fffffffffffffff) :
    (c.Resolves ref ∧ c'.Resolves ref') ∧
    (c.depth < c.limit → ∃ calls t,
      Session.Moving (Session.LeavesBox ref) ref c.session calls t ∧ calls.map (·.move) = moves) ∧
    (c'.depth < c'.limit → ∃ calls t,
      Session.Moving (Session.LeavesBox ref') ref' c'.session calls t ∧ calls.map (·.move) = moves) ∧
    ∀ calls t calls' t',
      Session.Moving (Session.LeavesBox ref) ref c.session calls t → calls.map (·.move) = moves →
      Session.Moving (Session.LeavesBox ref') ref' c'.session calls' t' → calls'.map (·.move) = moves →
        calls.map (·.after.control) = calls'.map (·.after.control) ∧
        (∀ call ∈ calls, call.after.control = .give .null ∨
          ∃ message, call.after.control = .raise ⟨.systemError, message⟩) ∧
        t'.host.runtime.generator = t.host.runtime.generator ∧
        ∃ m m', t.Reads ref m ∧ t'.Reads ref' m' ∧
          m'.val = m.val + calls.countP fun call => !call.succeeded := by
  refine ⟨⟨h.resolves, h'.resolves⟩,
    fun hdepth => Session.exists_moving (Session.LeavesBox.refl ref) h.reads hdepth moves,
    fun hdepth => Session.exists_moving (Session.LeavesBox.refl ref') h'.reads hdepth moves, ?_⟩
  intro calls t calls' t' hrun hmoves hrun' hmoves'
  have hlength : calls.length = moves.length := by rw [← hmoves, List.length_map]
  have hdrawing : ∀ call ∈ calls, call.move ≠ .incr := fun call hcall =>
    hdraws call.move (hmoves ▸ List.mem_map_of_mem hcall)
  obtain ⟨hcontrols, hended, m, m', hm, hm', hval, hval'⟩ := hrun.rivals hrun' hrivals
    (hmoves.trans hmoves'.symm) hdrawing h.reads h'.reads (hlength ▸ hroom) (hlength ▸ hroom)
  refine ⟨hcontrols, fun call hcall => ?_, hended.generator_eq, m, m', hm, hm', ?_⟩
  · obtain ⟨before, after, haccounted⟩ :=
      (hrun.mono fun _ _ hleaves => hleaves.toLeavesCounter).accounted h.reads |>.2 call hcall
    cases hsucceeded : call.succeeded with
    | true => exact Or.inl (haccounted.gives hsucceeded)
    | false => exact Or.inr (haccounted.maybeIncr (hdrawing call hcall) hsucceeded)
  · -- The one counter has moved at every call, the other at those that succeeded.
    have hcount := List.length_eq_countP_add_countP MoveCall.succeeded (l := calls)
    have hfailed : (calls.countP fun call => !call.succeeded) =
        calls.countP fun call => ¬ call.succeeded = true :=
      List.countP_congr fun call _ => by simp
    rw [hval, hval', hfailed]
    omega

/-- Two moves of each box in the two sessions `boxed`. -/
theorem policies_differ_by_failures_boxed :
    (boxed .validateThenMutate).session.Rivals (boxed .mutateThenValidate).session ∧
      ∃ calls t calls' t',
        Session.Moving (Session.LeavesBox 0) 0 (boxed .validateThenMutate).session calls t ∧
        Session.Moving (Session.LeavesBox 0) 0 (boxed .mutateThenValidate).session calls' t' ∧
        calls.map (·.move) = [.maybeIncr, .maybeIncr2] ∧
        calls'.map (·.move) = [.maybeIncr, .maybeIncr2] ∧
        calls.map (·.after.control) = calls'.map (·.after.control) ∧
        ∃ m m', t.Reads 0 m ∧ t'.Reads 0 m' ∧
          m'.val = m.val + calls.countP fun call => !call.succeeded := by
  have hcounter (policy : MutationPolicy) : (boxed policy).HasCounter 0 1 :=
    ⟨reachable_boxed policy, exists_boxed policy, reads_boxed policy⟩
  have hrivals : (boxed .validateThenMutate).session.Rivals (boxed .mutateThenValidate).session :=
    ⟨rfl, rfl, rfl⟩
  obtain ⟨-, hcan, hcan', hall⟩ := policies_differ_by_failures (hcounter .validateThenMutate)
    (hcounter .mutateThenValidate) hrivals [.maybeIncr, .maybeIncr2] (by decide) (by decide)
  obtain ⟨calls, t, hrun, hmoves⟩ := hcan (by decide +kernel)
  obtain ⟨calls', t', hrun', hmoves'⟩ := hcan' (by decide +kernel)
  obtain ⟨hcontrols, -, -, hcounters⟩ := hall calls t calls' t' hrun hmoves hrun' hmoves'
  exact ⟨hrivals, calls, t, calls', t', hrun, hrun', hmoves, hmoves', hcontrols, hcounters⟩

end Config

end ObjectProtocol
