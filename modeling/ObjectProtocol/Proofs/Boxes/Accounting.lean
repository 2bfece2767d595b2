import ObjectProtocol.Proofs.Boxes.Asking
import ObjectProtocol.Proofs.Calls.Callbacks

/-!
# The counter is accounted for

Over any sequence of moves the counter of a box is what it was plus the moves that count.  If changes are
made after validation these are the ones that succeed, and the counter never leaves the native range.  If
changes are made before, the moves that draw count whether they succeed or not, modulo the size of the
range.
-/

namespace ObjectProtocol

/-! ## One move -/

namespace Sample.Move

variable {move : Move} {n : NativeInt} {faulted : Bool}

theorem fails_largest (move : Move) (faulted : Bool) : move.fails .largest faulted = true := rfl

theorem ne_largest_of_succeeds (h : move.fails n faulted = false) : n ≠ .largest := by
  rintro rfl
  contradiction

theorem fails_iff (h : move.draws = false) : move.fails n faulted = true ↔ n = .largest := by
  simp [fails, h]

theorem next_of_fails (h : move.fails n faulted = true) {policy : MutationPolicy}
    (hleaves : move.draws = false ∨ policy = .validateThenMutate) :
    move.next policy n faulted = n := by
  rcases hleaves with hdraws | rfl
  · simp [next, h, hdraws]
  · simp [next, h]

theorem val_next {policy : MutationPolicy}
    (hleaves : move.draws = false ∨ policy = .validateThenMutate) :
    (move.next policy n faulted).val = n.val + (!move.fails n faulted).toNat := by
  cases hfails : move.fails n faulted with
  | true =>
    rw [next_of_fails hfails hleaves]
    simp
  | false =>
    rw [next, hfails, Bool.false_and, if_neg Bool.false_ne_true,
      NativeInt.val_wrappingAdd_one (ne_largest_of_succeeds hfails)]
    rfl

/-- Under `mutateThenValidate` a move that draws adds one modulo `2 ^ 64`, whether it fails or not. -/
theorem val_next_of_draws (h : move.draws = true) :
    (move.next .mutateThenValidate n faulted).val = (n.val + 1).bmod 0x10000000000000000 := by
  simp only [next, h, Bool.true_and, decide_true, Bool.not_true, Bool.and_false]
  rfl

end Sample.Move

namespace NativeInt

theorem val_bmod (n : NativeInt) : n.val.bmod 0x10000000000000000 = n.val := by
  have hlower := n.lower
  have hupper := n.upper
  rw [Int.bmod_def]
  omega

end NativeInt

/-! ## One call -/

/-- What a call for a move says about the counter, which reads `n` before and `m` after it. -/
structure MoveCall.Accounted (call : MoveCall) (ref : Ref) (n m : NativeInt) : Prop where
  before : call.before.session.Reads ref n
  after : call.after.session.Reads ref m
  gives : call.succeeded = true → call.after.control = .give .null
  incr : call.move = .incr → (call.succeeded = false ↔ n = .largest) ∧
    (call.succeeded = false →
      call.after.control = .raise ⟨.overflowError, "counter overflow"⟩ ∧ m = n)
  maybeIncr : call.move ≠ .incr → call.succeeded = false →
    ∃ message, call.after.control = .raise ⟨.systemError, message⟩
  largest : n = .largest → call.succeeded = false

namespace Config.Comes

variable {call : MoveCall} {ref : Ref} {n : NativeInt}

theorem succeeded_eq (h : call.before.Comes call.after ref call.move n) :
    call.succeeded = !call.move.fails n call.before.session.host.runtime.faulted := by
  unfold MoveCall.succeeded
  rw [h.control_eq, Sample.Move.entry]
  cases call.move.fails n call.before.session.host.runtime.faulted <;> rfl

theorem control_of_succeeded (h : call.before.Comes call.after ref call.move n)
    (hsucceeded : call.succeeded = true) : call.after.control = .give .null := by
  rw [h.succeeded_eq, Bool.not_eq_true'] at hsucceeded
  rw [h.control_eq, Sample.Move.entry, hsucceeded]
  rfl

theorem control_of_failed (h : call.before.Comes call.after ref call.move n)
    (hfailed : call.succeeded = false) : call.after.control = .raise call.move.exception := by
  rw [h.succeeded_eq, Bool.not_eq_false'] at hfailed
  rw [h.control_eq, Sample.Move.entry, hfailed]
  rfl

theorem accounted (h : call.before.Comes call.after ref call.move n)
    (hn : call.before.session.Reads ref n) :
    call.Accounted ref n (call.move.next call.before.session.host.runtime.options.mutationPolicy n
      call.before.session.host.runtime.faulted) where
  before := hn
  after := h.movedTo.reads
  gives := h.control_of_succeeded
  incr hincr := by
    have hdraws := Sample.Move.draws_eq_false_iff.2 hincr
    refine ⟨?_, fun hfailed => ⟨?_, ?_⟩⟩
    · rw [h.succeeded_eq, Bool.not_eq_false']
      exact Sample.Move.fails_iff hdraws
    · rw [h.control_of_failed hfailed, hincr]
      rfl
    · rw [h.succeeded_eq, Bool.not_eq_false'] at hfailed
      exact Sample.Move.next_of_fails hfailed (Or.inl hdraws)
  maybeIncr hmove hfailed := by
    rw [h.control_of_failed hfailed]
    cases hcase : call.move with
    | incr => exact absurd hcase hmove
    | maybeIncr | maybeIncr2 => exact ⟨_, rfl⟩
  largest hlargest := by
    rw [h.succeeded_eq, hlargest, Sample.Move.fails_largest]
    rfl

end Config.Comes

/-! ## A sequence of calls -/

/-- The counter after the calls: under `validateThenMutate` it counts those that succeeded, under
`mutateThenValidate` also the failed ones that draw, modulo `2 ^ 64`. -/
def MutationPolicy.Totals (n m : NativeInt) (calls : List MoveCall) : MutationPolicy → Prop
  | validateThenMutate => m.val = n.val + calls.countP MoveCall.succeeded
  | mutateThenValidate => m.val = (n.val + calls.countP (fun call => call.move = .incr && call.succeeded)
      + calls.countP (fun call => call.move ≠ .incr)).bmod 0x10000000000000000

namespace MutationPolicy

variable {call : MoveCall} {ref : Ref} {n m : NativeInt} {calls : List MoveCall}

theorem totals_nil (policy : MutationPolicy) (n : NativeInt) : policy.Totals n n [] := by
  cases policy with
  | validateThenMutate => simp [Totals]
  | mutateThenValidate => simp [Totals, n.val_bmod]

theorem totals_cons (hcomes : call.before.Comes call.after ref call.move n) {policy : MutationPolicy}
    (h : policy.Totals
      (call.move.next policy n call.before.session.host.runtime.faulted) m calls) :
    policy.Totals n m (call :: calls) := by
  have hsucceeded := hcomes.succeeded_eq
  cases policy with
  -- Here the counter moves with the successes alone.
  | validateThenMutate =>
    unfold Totals at h ⊢
    rw [h, Sample.Move.val_next (Or.inr rfl), ← hsucceeded, List.countP_cons]
    cases call.succeeded <;> simp; omega
  -- Here a move that draws adds one even when it fails, and may wrap around.
  | mutateThenValidate =>
    unfold Totals at h ⊢
    dsimp only at h ⊢
    rw [h, List.countP_cons, List.countP_cons]
    by_cases hincr : call.move = .incr
    · rw [Sample.Move.val_next (Or.inl (Sample.Move.draws_eq_false_iff.2 hincr)), ← hsucceeded]
      congr 1
      cases call.succeeded <;> simp [hincr]; omega
    · rw [Sample.Move.val_next_of_draws (Sample.Move.draws_eq_true_iff.2 hincr), Int.add_assoc,
        Int.bmod_add_bmod]
      congr 1
      simp [hincr]
      omega

end MutationPolicy

namespace Session

variable {s t : Session} {ref : Ref} {n : NativeInt} {calls : List MoveCall}

theorem Moving.accounted (h : Moving (LeavesCounter ref) ref s calls t) (hn : s.Reads ref n) :
    (∃ m, t.Reads ref m ∧ s.host.runtime.options.mutationPolicy.Totals n m calls) ∧
      ∀ call ∈ calls, ∃ before after, call.Accounted ref before after := by
  -- The counter that the rest begins with is the one that the first call leaves.
  induction h generalizing n with
  | nil hbetween =>
    exact ⟨⟨n, hbetween.reads hn, MutationPolicy.totals_nil _ n⟩, fun call hcall => by contradiction⟩
  | @cons s t call rest hbetween hbegins hanswered hrest ih =>
    have hbefore := hbetween.reads hn
    have hcomes := hbegins.comes hbefore hanswered
    obtain ⟨⟨m, hm, htotals⟩, hall⟩ := ih hcomes.movedTo.reads
    refine ⟨⟨m, hm, ?_⟩, ?_⟩
    · rw [hcomes.movedTo.options_eq, hbetween.options_eq] at htotals
      exact MutationPolicy.totals_cons hcomes htotals
    · rintro call (_ | ⟨_, hcall⟩)
      · exact ⟨n, _, hcomes.accounted hbefore⟩
      · exact hall call hcall

end Session

/-! ## Main result -/

namespace Config

/-- In every `Reachable` configuration, for every instance whose type `KeepsMoves` and every `Moving`
sequence of calls on it that leaves counter and options alone in between: the box `Resolves` the names of
the moves, every sequence can be called below the limit, and the counter in the end is what
`MutationPolicy.Totals` says, each call being `MoveCall.Accounted`. `incr` fails at the greatest integer
only, with an `overflowError` and without a change; the others raise a `systemError` if they fail, and at
the greatest integer they do. -/
theorem counter_accounted {c : Config} (h : c.Reachable) {ref : Ref} {i : Instance}
    (hi : c.session.host.store.instances.get? ref = some i) (ht : i.type.KeepsMoves) :
    c.Resolves ref ∧ ∃ n, c.session.Reads ref n ∧
      (c.depth < c.limit → ∀ moves, ∃ calls t,
        Session.Moving (Session.LeavesCounter ref) ref c.session calls t ∧
          calls.map (·.move) = moves) ∧
      ∀ calls t, Session.Moving (Session.LeavesCounter ref) ref c.session calls t →
        (∃ m, t.Reads ref m ∧
          (c.session.host.runtime.options.mutationPolicy = .validateThenMutate →
            m.val = n.val + calls.countP MoveCall.succeeded) ∧
          (c.session.host.runtime.options.mutationPolicy = .mutateThenValidate →
            m.val = (n.val + calls.countP (fun call => call.move = .incr && call.succeeded)
              + calls.countP (fun call => call.move ≠ .incr)).bmod 0x10000000000000000)) ∧
        ∀ call ∈ calls, ∃ before after, call.Accounted ref before after := by
  have hat : c.session.host.store.instanceAt ref = i := Store.instanceAt_eq hi
  have hsound : (c.session.host.store.instanceAt ref).Sound :=
    (h.within.session.host.store.instances ref).sound
  obtain ⟨n, hn⟩ := hsound.exists_counter (hat.symm ▸ ht)
  refine ⟨resolves hsound (hat.symm ▸ ht), n, hn, fun hroom moves => ?_, fun calls t hmoving => ?_⟩
  · exact Session.exists_moving (fun s => (Session.LeavesBox.refl ref s).toLeavesCounter) hn hroom moves
  · obtain ⟨⟨m, hm, htotals⟩, hall⟩ := hmoving.accounted hn
    refine ⟨⟨m, hm, fun hpolicy => ?_, fun hpolicy => ?_⟩, hall⟩
    · rw [hpolicy] at htotals
      exact htotals
    · rw [hpolicy] at htotals
      exact htotals

/-- A box has been made whose counter reads one, where `faultProbability` is one half. -/
def boxed (policy : MutationPolicy) : Config :=
  Config.after
    { control := .eval (letBox "box" .null)
      session := .ofSetup { options := { faultProbability := 0.5, mutationPolicy := policy } } } 10

theorem reachable_boxed (policy : MutationPolicy) : (boxed policy).Reachable :=
  (Reachable.start _ _).after 10

theorem exists_boxed (policy : MutationPolicy) :
    ∃ i, (boxed policy).session.host.store.instances.get? 0 = some i ∧ i.type.KeepsMoves := by
  cases policy <;> exact ⟨_, rfl, .box ⟨12, rfl⟩⟩

theorem reads_boxed (policy : MutationPolicy) : (boxed policy).session.Reads 0 1 := by
  cases policy <;> rfl

/-- Under `mutateThenValidate`, two moves that draw take the counter from one to three, whether they fail
or not. -/
theorem counter_accounted_boxed :
    ∃ calls t,
      Session.Moving (Session.LeavesCounter 0) 0 (boxed .mutateThenValidate).session calls t ∧
        calls.map (·.move) = [.maybeIncr, .maybeIncr2] ∧ ∃ m, t.Reads 0 m ∧ m.val = 3 := by
  obtain ⟨i, hi, ht⟩ := exists_boxed .mutateThenValidate
  obtain ⟨-, n, hn, hcan, hall⟩ := counter_accounted (reachable_boxed .mutateThenValidate) hi ht
  have hone : n = 1 := hn.unique (reads_boxed .mutateThenValidate)
  obtain ⟨calls, t, hmoving, hmoves⟩ := hcan (by decide +kernel) [.maybeIncr, .maybeIncr2]
  obtain ⟨⟨m, hm, -, hval⟩, -⟩ := hall calls t hmoving
  refine ⟨calls, t, hmoving, hmoves, m, hm, ?_⟩
  -- Neither of the two moves is `incr`, so both count whether they fail or not.
  have hothers : calls.countP (fun call => call.move ≠ .incr) = 2 := by
    have hcount := congrArg (List.countP fun move => decide (move ≠ Sample.Move.incr)) hmoves
    rwa [List.countP_map] at hcount
  have hincr : calls.countP (fun call => call.move = .incr && call.succeeded) = 0 := by
    refine List.countP_eq_zero.2 fun call hcall => ?_
    have hmem : call.move ∈ calls.map (·.move) := List.mem_map_of_mem hcall
    rw [hmoves] at hmem
    have hmove : call.move ≠ .incr := fun heq => by
      rw [heq] at hmem
      exact absurd hmem (by decide)
    simp [hmove]
  rw [hval rfl, hothers, hincr, hone]
  rfl

end Config

end ObjectProtocol
