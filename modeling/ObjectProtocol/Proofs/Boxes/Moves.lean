import ObjectProtocol.Proofs.Attributes.Agreement
import ObjectProtocol.Proofs.Calls.Answering
import ObjectProtocol.Proofs.Sample.Constructors

/-!
# Moving the counter of a box

Three methods of a box add one to its counter.  All of them fail at the greatest native integer, and two of
them fail when a fault is injected.  Whether a move fails does not depend on the mutation policy; the policy
says where a move that draws leaves the counter if it fails.
-/

namespace ObjectProtocol

/-! ## One more -/

namespace NativeInt

variable {n : NativeInt}

theorem lt_of_ne_largest (h : n ≠ .largest) : n.val < 0x7fffffffffffffff := by
  have hupper := n.upper
  have hne : n.val ≠ 0x7fffffffffffffff := fun heq => h (NativeInt.ext heq)
  omega

theorem val_wrappingAdd_one (h : n ≠ .largest) : (n.wrappingAdd 1).val = n.val + 1 := by
  have hlower := n.lower
  have hlt := lt_of_ne_largest h
  show (n.val + 1).bmod 0x10000000000000000 = n.val + 1
  rw [Int.bmod_def]
  omega

theorem add?_one_largest : largest.add? 1 = none := by decide

theorem add?_one_eq_some (h : n ≠ .largest) : n.add? 1 = some (n.wrappingAdd 1) :=
  ofInt?_eq_some_iff.2 (val_wrappingAdd_one h)

end NativeInt

namespace Sample

/-! ## Moves -/

inductive Move
  | incr
  | maybeIncr
  | maybeIncr2
deriving DecidableEq, Repr

namespace Move

def name : Move → String
  | incr => "incr"
  | maybeIncr => "maybe_incr"
  | maybeIncr2 => "maybe_incr2"

def routine : Move → BoxMethod
  | incr => .incr
  | maybeIncr | maybeIncr2 => .maybeIncr

def method (move : Move) : Method Code := ⟨move.name, .empty, .native (.box move.routine)⟩

def draws : Move → Bool
  | incr => false
  | maybeIncr | maybeIncr2 => true

theorem draws_eq_false_iff {move : Move} : move.draws = false ↔ move = incr := by
  cases move <;> decide

theorem draws_eq_true_iff {move : Move} : move.draws = true ↔ move ≠ incr := by
  cases move <;> decide

def fails (move : Move) (n : NativeInt) (faulted : Bool) : Bool :=
  n = .largest || move.draws && faulted

/-- What the counter reads after the move: one more, unless the move `fails` and leaves it alone. -/
def next (move : Move) (policy : MutationPolicy) (n : NativeInt) (faulted : Bool) : NativeInt :=
  if move.fails n faulted && !(move.draws && policy = .mutateThenValidate) then n
  else n.wrappingAdd 1

def exception : Move → Exception
  | incr => ⟨.overflowError, "counter overflow"⟩
  | maybeIncr | maybeIncr2 => ⟨.systemError, "error return without exception set"⟩

def entry (move : Move) (n : NativeInt) (faulted : Bool) : Entry :=
  if move.fails n faulted then .raise move.exception else .give .null

end Move

namespace Box

variable {i : Instance} {n : NativeInt}

theorem exists_write_counter (h : counter i = .ok n) (m : NativeInt) :
    ∃ j, i.write counterField (.int m) = .ok j ∧ counter j = .ok m := by
  -- What reads as an integer is a field of kind `int`, and that is all a write asks for.
  have hkind : i.kinds[counterField]? = some .int := by
    unfold Instance.kinds
    rw [List.getElem?_map]
    unfold counter Instance.readInt Instance.read at h
    cases hfield : i.fields[counterField]? with
    | none =>
      rw [hfield] at h
      contradiction
    | some field =>
      rw [hfield] at h
      cases field with
      | object v => contradiction
      | int k => rfl
  obtain ⟨j, hj⟩ : ∃ j, i.write counterField (.int m) = .ok j := Instance.exists_write hkind
  exact ⟨j, hj, Instance.readInt_of_field (Instance.getElem?_of_write hj)⟩

theorem ne_default_of_counter (h : counter i = .ok n) : i ≠ default := by
  rintro rfl
  contradiction

theorem exists_incr (h : counter i = .ok n) :
    (n = .largest → incr i = .error (.because .outOfRange "counter overflow")) ∧
      (n ≠ .largest → ∃ j, incr i = .ok j ∧ counter j = .ok (n.wrappingAdd 1)) := by
  unfold incr
  rw [h]
  dsimp only [bind, Except.bind]
  constructor
  · rintro rfl
    rw [NativeInt.add?_one_largest]
  · intro hn
    rw [NativeInt.add?_one_eq_some hn]
    exact exists_write_counter h _

/-- `settle` for a move that draws, once the draw is made. -/
theorem exists_settle (h : counter i = .ok n) {move : Move} (hdraws : move.draws = true)
    (policy : MutationPolicy) (faulted : Bool) :
    ∃ j, settle i policy n faulted =
        (if move.fails n faulted then .error (.silent .invariantBroken) else .ok (), j) ∧
      counter j = .ok (move.next policy n faulted) := by
  obtain ⟨j, hj, hcounter⟩ := exists_write_counter h (n.wrappingAdd 1)
  unfold Move.next Move.fails
  rw [hdraws]
  cases policy with
  -- The overflow and the fault are found before anything is written.
  | validateThenMutate =>
    by_cases hn : n = .largest
    · subst hn
      exact ⟨i, rfl, h⟩
    · have hadd := NativeInt.add?_one_eq_some hn
      cases faulted with
      | true => exact ⟨i, by simp [settle, hadd], by simpa using h⟩
      | false => exact ⟨j, by simp [settle, hadd, hj, hn], by simpa [hn] using hcounter⟩
  -- The counter has been written, and wraps around, before the overflow is looked for.
  | mutateThenValidate =>
    refine ⟨j, ?_, by simpa using hcounter⟩
    have hnone : (n.add? 1).isNone = decide (n = .largest) := by
      by_cases hn : n = .largest
      · subst hn
        rfl
      · simp [NativeInt.add?_one_eq_some hn, hn]
    simp [settle, hj, hnone, Bool.or_comm]

end Box

end Sample

/-! ## Routines -/

/-- Whether `Host.injectFault` would inject a fault now. -/
def Runtime.faulted (rt : Runtime) : Bool := (rt.generator.chance rt.options.faultProbability).1

def Sample.Move.drawnFrom (move : Sample.Move) (rt : Runtime) : Runtime :=
  if move.draws then
    { rt with generator := (rt.generator.chance rt.options.faultProbability).2 }
  else rt

namespace Host

variable {h : Host} {ref : Ref} {n : NativeInt}

theorem exists_runMethod_of_draws (hn : Sample.Box.counter (h.store.instanceAt ref) = .ok n)
    {move : Sample.Move} (hdraws : move.draws = true) (owner : Identity) :
    ∃ store : Store, h.runMethod ⟨owner, move.method⟩ (.object ref) [] =
        (move.entry n h.runtime.faulted, ⟨move.drawnFrom h.runtime, store⟩) ∧
      Sample.Box.counter (store.instanceAt ref) =
        .ok (move.next h.runtime.options.mutationPolicy n h.runtime.faulted) := by
  obtain ⟨j, hsettle, hcounter⟩ := Sample.Box.exists_settle hn hdraws
    h.runtime.options.mutationPolicy h.runtime.faulted
  have hwritten : (h.store.apply (.object ref j)).instanceAt ref = j :=
    Store.instanceAt_apply_object (Sample.Box.ne_default_of_counter hn) j
  refine ⟨h.store.apply (.object ref j), ?_, by rw [hwritten, hcounter]⟩
  have hrun : Sample.Box.maybeIncr h ref =
      ((failing (if move.fails n h.runtime.faulted then .error (.silent .invariantBroken)
          else .ok ())).map fun () => .null,
        h.injectFault.2.apply (.object ref j)) := by
    have hdrawn : Sample.Box.settle (h.store.instanceAt ref)
        h.injectFault.2.runtime.options.mutationPolicy n h.injectFault.1 = _ := hsettle
    unfold Sample.Box.maybeIncr
    dsimp only
    rw [hn]
    dsimp only
    rw [hdrawn]
  -- `maybe_incr` and `maybe_incr2` are one routine under two names.
  have hmethod : h.runMethod ⟨owner, move.method⟩ (.object ref) [] =
      Entry.ofAnswer (Sample.Box.maybeIncr h ref) := by
    cases move with
    | incr => contradiction
    | maybeIncr | maybeIncr2 => rfl
  have hexception : move.exception = ⟨.systemError, "error return without exception set"⟩ := by
    cases move with
    | incr => contradiction
    | maybeIncr | maybeIncr2 => rfl
  rw [hmethod, hrun, Sample.Move.entry, Sample.Move.drawnFrom, if_pos hdraws, hexception]
  cases move.fails n h.runtime.faulted <;> rfl

theorem exists_runMethod_incr (hn : Sample.Box.counter (h.store.instanceAt ref) = .ok n)
    (owner : Identity) :
    ∃ store : Store, h.runMethod ⟨owner, Sample.Move.incr.method⟩ (.object ref) [] =
        (Sample.Move.incr.entry n h.runtime.faulted, ⟨h.runtime, store⟩) ∧
      Sample.Box.counter (store.instanceAt ref) =
        .ok (Sample.Move.incr.next h.runtime.options.mutationPolicy n h.runtime.faulted) := by
  have hmethod : h.runMethod ⟨owner, Sample.Move.incr.method⟩ (.object ref) [] =
      Entry.ofAnswer (h.answer ((failing (Sample.Box.incr (h.store.instanceAt ref))).map
        fun i => (.null, .object ref i))) := rfl
  obtain ⟨hfails, hsucceeds⟩ := Sample.Box.exists_incr hn
  rw [hmethod]
  -- `incr` draws nothing, so only the overflow makes it fail.
  by_cases hlargest : n = .largest
  · rw [hfails hlargest]
    subst hlargest
    exact ⟨h.store, rfl, hn⟩
  · obtain ⟨j, hj, hcounter⟩ := hsucceeds hlargest
    have hwritten : (h.store.apply (.object ref j)).instanceAt ref = j :=
      Store.instanceAt_apply_object (Sample.Box.ne_default_of_counter hn) j
    have hfine : Sample.Move.incr.fails n h.runtime.faulted = false := by
      simp [Sample.Move.fails, Sample.Move.draws, hlargest]
    refine ⟨h.store.apply (.object ref j), ?_, ?_⟩
    · rw [hj, Sample.Move.entry, hfine]
      rfl
    · rw [hwritten, hcounter, Sample.Move.next, hfine]
      rfl

/-- A move ends at once; the counter reads `Move.next`, and the generator is the one `drawnFrom` it. -/
theorem exists_runMethod_move (hn : Sample.Box.counter (h.store.instanceAt ref) = .ok n)
    (move : Sample.Move) (owner : Identity) :
    ∃ store : Store, h.runMethod ⟨owner, move.method⟩ (.object ref) [] =
        (move.entry n h.runtime.faulted, ⟨move.drawnFrom h.runtime, store⟩) ∧
      Sample.Box.counter (store.instanceAt ref) =
        .ok (move.next h.runtime.options.mutationPolicy n h.runtime.faulted) := by
  cases move with
  | incr => exact exists_runMethod_incr hn owner
  | maybeIncr => exact exists_runMethod_of_draws hn rfl owner
  | maybeIncr2 => exact exists_runMethod_of_draws hn rfl owner

end Host

/-! ## Calls -/

def Session.Reads (s : Session) (ref : Ref) (n : NativeInt) : Prop :=
  Sample.Box.counter (s.host.store.instanceAt ref) = .ok n

/-- What a move has done to a session in which the counter read `n`. -/
structure Session.MovedTo (s s' : Session) (ref : Ref) (move : Sample.Move) (n : NativeInt) : Prop where
  reads : s'.Reads ref
    (move.next s.host.runtime.options.mutationPolicy n s.host.runtime.faulted)
  runtime_eq : s'.host.runtime = move.drawnFrom s.host.runtime

namespace Config

variable {c c' : Config} {ref : Ref} {move : Sample.Move} {n : NativeInt}

/-- The move of the box at `ref` is called without arguments, below the depth limit. -/
structure Begins (c : Config) (ref : Ref) (move : Sample.Move) : Prop where
  control_eq : ∃ id owner, c.control = .call (.method id (.object ref) ⟨owner, move.method⟩) []
  room : c.depth < c.limit

/-- The outcome of a move, and the session that is `MovedTo` by it. -/
structure Comes (c c' : Config) (ref : Ref) (move : Sample.Move) (n : NativeInt) : Prop where
  control_eq : c'.control = (move.entry n c.session.host.runtime.faulted).control
  movedTo : c.session.MovedTo c'.session ref move n

theorem Begins.exists_answeredBy (h : c.Begins ref move) (hn : c.session.Reads ref n) :
    ∃ c', c.AnsweredBy c' ∧ c.Comes c' ref move n := by
  obtain ⟨id, owner, hcontrol⟩ := h.control_eq
  obtain ⟨released, hstore⟩ := c.exists_store_ready
  have hruntime := c.runtime_ready
  have hcounted : Sample.Box.counter (c.ready.counted.host.store.instanceAt ref) = .ok n := by
    show Sample.Box.counter (c.ready.session.host.store.instanceAt ref) = .ok n
    rw [hstore]
    exact hn
  obtain ⟨store, hrun, hreads⟩ := Host.exists_runMethod_move hcounted move owner
  have hout : (move.entry n c.ready.counted.host.runtime.faulted).control.isOutcome = true := by
    unfold Sample.Move.entry
    split <;> rfl
  obtain ⟨c', hanswered, hcontrol', hsession⟩ :=
    exists_answeredBy_of_runMethod hcontrol h.room hrun hout
  have hfaulted : c.ready.counted.host.runtime.faulted = c.session.host.runtime.faulted := by
    rw [← hruntime]
    rfl
  have hpolicy : c.ready.counted.host.runtime.options = c.session.host.runtime.options := by
    rw [← hruntime]
    rfl
  rw [hfaulted] at hcontrol' hreads
  rw [hpolicy] at hreads
  -- What the call has been counted for is taken back.
  have hleft (rt : Runtime) :
      { move.drawnFrom { rt with depth := rt.depth + 1 } with
        depth := (move.drawnFrom { rt with depth := rt.depth + 1 }).depth - 1 } =
        move.drawnFrom rt := by
    unfold Sample.Move.drawnFrom
    cases move.draws <;> rfl
  refine ⟨c', hanswered, hcontrol', ?_, ?_⟩
  · rw [hsession]
    exact hreads
  · rw [hsession, ← hruntime]
    exact hleft c.ready.session.host.runtime

theorem Begins.comes (h : c.Begins ref move) (hn : c.session.Reads ref n) (hanswered : c.AnsweredBy c') :
    c.Comes c' ref move n := by
  obtain ⟨c'', hanswered', hcomes⟩ := h.exists_answeredBy hn
  rw [hanswered.eq hanswered']
  exact hcomes

end Config

/-! ## Sequences of calls -/

structure MoveCall where
  move : Sample.Move
  before : Config
  after : Config

def MoveCall.succeeded (call : MoveCall) : Bool :=
  match call.after.control with
  | .give _ => true
  | _ => false

namespace Session

structure LeavesCounter (ref : Ref) (s s' : Session) : Prop where
  counter_eq : Sample.Box.counter (s'.host.store.instanceAt ref) =
    Sample.Box.counter (s.host.store.instanceAt ref)
  options_eq : s'.host.runtime.options = s.host.runtime.options

/-- `LeavesCounter`, and nothing has been drawn either. -/
structure LeavesBox (ref : Ref) (s s' : Session) : Prop extends s.LeavesCounter ref s' where
  generator_eq : s'.host.runtime.generator = s.host.runtime.generator

/-- The box at `ref` is called for one move after another, by whichever configurations, and `between` says
what may happen meanwhile. -/
inductive Moving (between : Session → Session → Prop) (ref : Ref) :
    Session → List MoveCall → Session → Prop
  | nil {s t : Session} : between s t → Moving between ref s [] t
  | cons {s t : Session} {call : MoveCall} {rest : List MoveCall} : between s call.before.session →
    call.before.Begins ref call.move → call.before.AnsweredBy call.after →
    Moving between ref call.after.session rest t → Moving between ref s (call :: rest) t

variable {s s' t : Session} {ref : Ref} {move : Sample.Move} {n : NativeInt}

theorem LeavesBox.refl (ref : Ref) (s : Session) : s.LeavesBox ref s := ⟨⟨rfl, rfl⟩, rfl⟩

theorem Reads.unique {m : NativeInt} (h : s.Reads ref n) (h' : s.Reads ref m) : n = m :=
  Except.ok.inj (h.symm.trans h')

theorem LeavesCounter.reads (h : s.LeavesCounter ref s') (hn : s.Reads ref n) : s'.Reads ref n :=
  h.counter_eq.trans hn

theorem MovedTo.options_eq (h : s.MovedTo s' ref move n) :
    s'.host.runtime.options = s.host.runtime.options := by
  rw [h.runtime_eq]
  unfold Sample.Move.drawnFrom
  split <;> rfl

theorem MovedTo.depth_eq (h : s.MovedTo s' ref move n) :
    s'.host.runtime.depth = s.host.runtime.depth := by
  rw [h.runtime_eq]
  unfold Sample.Move.drawnFrom
  split <;> rfl

theorem Moving.mono {between between' : Session → Session → Prop} {calls : List MoveCall}
    (h : Moving between ref s calls t) (himp : ∀ s s', between s s' → between' s s') :
    Moving between' ref s calls t := by
  induction h with
  | nil hbetween => exact .nil (himp _ _ hbetween)
  | cons hbetween hbegins hanswered _ ih => exact .cons (himp _ _ hbetween) hbegins hanswered ih

/-- Below the limit, there is a `Moving` sequence for any moves in any order. -/
theorem exists_moving {between : Session → Session → Prop} (hrefl : ∀ s, between s s)
    (hn : s.Reads ref n) (hroom : s.host.runtime.depth < s.host.runtime.options.maxCallDepth)
    (moves : List Sample.Move) :
    ∃ calls t, Moving between ref s calls t ∧ calls.map (·.move) = moves := by
  induction moves generalizing s n with
  | nil => exact ⟨[], s, .nil (hrefl s), rfl⟩
  | cons move moves ih =>
    let before : Config :=
      { control := .call (.method 0 (.object ref) ⟨0, move.method⟩) [], session := s }
    have hbegins : before.Begins ref move := ⟨⟨0, 0, rfl⟩, hroom⟩
    obtain ⟨after, hanswered, hcomes⟩ := hbegins.exists_answeredBy hn
    have hmoved : s.MovedTo after.session ref move n := hcomes.movedTo
    obtain ⟨calls, t, hrest, hmoves⟩ := ih hmoved.reads (by rwa [hmoved.depth_eq, hmoved.options_eq])
    refine ⟨⟨move, before, after⟩ :: calls, t, .cons (hrefl s) hbegins hanswered hrest, ?_⟩
    rw [List.map_cons, hmoves]

end Session

end ObjectProtocol
