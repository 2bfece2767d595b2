import ObjectProtocol.Proofs.Exceptions.Translation

/-!
# Exceptions cross towers of frames

Host functions, initializers, methods that are called or asked for a length, native methods that call
what they are given, and slots that hand a question on can stand on each other to any height.  An
exception that is raised at the top of such a tower, or an error that native code ends with there, is
what the task at the bottom ends with: the exception with its kind and its message, the error in the one
translation that it has.
-/

namespace ObjectProtocol

/-- How the host sees an error: a reason under the category of its code; without one, `sequenceExhausted`
as a plain `StopIteration` and any other code as a `systemError`; and a host exception as it is. -/
inductive NativeError.SeenAs : NativeError → Exception → Prop
  | reason (code : FailureCode) (reason : String) :
    SeenAs (.failure ⟨code, some reason⟩) ⟨code.category, reason⟩
  | exhausted : SeenAs (.failure ⟨.sequenceExhausted, none⟩) ⟨.stopIteration, ""⟩
  | silent {code : FailureCode} : code ≠ .sequenceExhausted →
    SeenAs (.failure ⟨code, none⟩) ⟨.systemError, "error return without exception set"⟩
  | host (e : Exception) : SeenAs (.host e) e

theorem NativeError.seenAs_toException (x : NativeError) : x.SeenAs x.toException := by
  cases x with
  | host e => exact .host e
  | failure f =>
    obtain ⟨code, reason | reason⟩ := f
    · by_cases h : code = .sequenceExhausted
      · subst h
        exact .exhausted
      · have hsystem : (failure ⟨code, none⟩).toException =
            ⟨.systemError, "error return without exception set"⟩ := if_neg h
        rw [hsystem]
        exact .silent h
    · exact .reason code reason

namespace Config

variable {c : Config} {x : NativeError}

/-- The step in which native code fails raises `toException` of the error, and lays no `Frame.attempt` on
the stack. A frame that has been waiting for the outcome may be taken off. -/
theorem Fails.advance_raises (h : c.Fails x) : c.advance.control = .raise x.toException ∧
    ∃ top, .attempt ∉ top ∧ (c.advance.stack = top ++ c.stack ∨
      c.control.isOutcome = true ∧ c.advance.stack = top ++ c.stack.tail) := by
  cases h with
  | @call target args _ hcontrol hdepth hfails =>
    obtain ⟨hraise, top, htop, hstack⟩ := raisesOn_call hdepth hfails
    rw [advance_of_call hcontrol]
    exact ⟨hraise, top, htop, Or.inl hstack⟩
  | @operation op operands rest _ hperforms hfails =>
    obtain ⟨hraise, top, htop, hstack⟩ := raisesOn_operate (c := { c with stack := rest }) hfails
    rw [hperforms.advance_eq]
    refine ⟨hraise, top, htop, ?_⟩
    cases hperforms with
    | bare | noValues => exact Or.inl hstack
    -- The frame of the last operand has been taken off before the operation is run.
    | operands hcontrol hbelow | values hcontrol hbelow =>
      rw [hcontrol, hbelow]
      exact Or.inr ⟨rfl, hstack⟩
  | @length v t rest f hcontrol hbelow hnative =>
    have hadvance : c.advance = ({ c with stack := rest, control := .raise f.toException }) := by
      rw [advance_of_give hcontrol hbelow]
      unfold receive
      dsimp only
      rw [hnative]
    rw [hadvance, hcontrol, hbelow]
    exact ⟨rfl, [], List.not_mem_nil, Or.inr ⟨rfl, rfl⟩⟩

/-- What native code ends with above frames without `attempt` is what the task ends with. -/
theorem endsWith_of_fails {task : Task} {n : Nat} {tower : List Frame}
    (hrun : ∀ k ≤ n, ¬ ((c.start task).after k).SettledOn c.stack)
    (hstack : ((c.start task).after n).stack = tower ++ c.stack) (htower : .attempt ∉ tower)
    (hfails : ((c.start task).after n).ready.Fails x) : c.EndsWith task x.toException := by
  obtain ⟨hraise, top, htop, hnew⟩ := hfails.advance_raises
  rw [← step_eq_advance, ← after_succ] at hraise hnew
  rw [control_ready, stack_ready, hstack] at hnew
  have hbusy : ∀ k < n + 1, ¬ ((c.start task).after k).SettledOn c.stack :=
    fun k hk => hrun k (Nat.le_of_lt_succ hk)
  have hjoined {tower' : List Frame} (h : .attempt ∉ tower') : .attempt ∉ top ++ tower' := by
    rw [List.mem_append]
    exact not_or.2 ⟨htop, h⟩
  rcases hnew with hnew | ⟨hout, hnew⟩
  · rw [← List.append_assoc] at hnew
    exact endsWith_of_raise hbusy hraise hnew (hjoined htower)
  · -- The frame that waited is one of the tower, for the task has not come to its end.
    cases tower with
    | nil => exact absurd ⟨hout, hstack⟩ (hrun n (Nat.le_refl n))
    | cons frame tower =>
      rw [List.cons_append, List.tail_cons, ← List.append_assoc] at hnew
      exact endsWith_of_raise hbusy hraise hnew
        (hjoined fun hmem => htower (List.mem_cons_of_mem frame hmem))

theorem endsWith_of_operationFails {op : Op Code} {operands : List Value}
    (hfails : c.session.OperationFails op operands x) :
    c.EndsWith (.operate op operands) x.toException := by
  obtain ⟨hraise, top, htop, hstack⟩ := raisesOn_operate hfails
  exact endsWith_of_raise (n := 0) (fun k hk => by omega) hraise hstack htop

/-! ## Main result -/

/-- For every configuration and `Task`, above a tower of frames without `attempt`, of whatever kinds and
height: the task ends with the very exception that is raised on top, and with the one `toException` of an
error in which native code ends there; that also holds of an operation that is the task itself. The depth
is restored. `contains` and `iter` of a value are those of every value it `PassesTo`. -/
theorem exceptions_cross_frames (c : Config) (task : Task) (n : Nat) (tower : List Frame)
    (hrun : ∀ k < n, ¬ ((c.start task).after k).SettledOn c.stack)
    (hstack : ((c.start task).after n).stack = tower ++ c.stack) (htower : .attempt ∉ tower) :
    let bottom := (c.start task).after n
    (∀ e, bottom.control = .raise e → c.EndsWith task e) ∧
      (∀ x, ¬ bottom.SettledOn c.stack → bottom.ready.Fails x →
        ∃ e, x.SeenAs e ∧ c.EndsWith task e) ∧
      (∀ op operands x, task = .operate op operands → c.session.OperationFails op operands x →
        ∃ e, x.SeenAs e ∧ c.EndsWith task e) ∧
      ∀ (s : Store) (v w : Value),
        (s.PassesTo TypeObject.asksInside v w → ∀ item, s.contains v item = s.contains w item) ∧
          (s.PassesTo TypeObject.iteratesInside v w → ∀ rt, s.iter rt v = s.iter rt w) := by
  intro bottom
  refine ⟨fun e hraise => endsWith_of_raise hrun hraise hstack htower, ?_, ?_, ?_⟩
  · intro x hbusy hfails
    -- Native code that fails has not ended the task yet, so the bottom counts as well.
    have hrun' : ∀ k ≤ n, ¬ ((c.start task).after k).SettledOn c.stack := by
      intro k hk
      rcases Nat.lt_or_eq_of_le hk with hlt | rfl
      · exact hrun k hlt
      · exact hbusy
    exact ⟨_, x.seenAs_toException, endsWith_of_fails hrun' hstack htower hfails⟩
  · rintro op operands x rfl hfails
    exact ⟨_, x.seenAs_toException, endsWith_of_operationFails hfails⟩
  · intro s v w
    exact ⟨fun h item => Store.contains_of_passesTo h item,
      fun h rt => Store.iter_of_passesTo h rt⟩

/-! ### A tower -/

def variableNamed (name : String) : Expr := .apply (.session (.getVariable name)) []

/-- A class whose initializer asks for a length. -/
def makerType : TypeObject :=
  ⟨{ id := 1, name := "Maker", kind := .host
     methods := [⟨"__init__", .empty, .host [.apply (.object .len) [variableNamed "sized"]]⟩] }, []⟩

/-- A class whose instances call themselves for a length, and `callback` when they are called. -/
def sizedType : TypeObject :=
  ⟨{ id := 2, name := "Sized", kind := .host
     methods :=
       [⟨"__len__", .empty, .host [.apply (.object .call) [variableNamed "sized"]]⟩,
        ⟨"__call__", .empty, .host [.apply (.object (.callMethod "callback"))
          [variableNamed "box", variableNamed "fail"]]⟩] }, []⟩

def boxType : TypeObject :=
  ⟨{ id := 3, name := "Box", kind := .native, layout := Sample.boxDecl.layout
     methods := Sample.boxDecl.methods }, []⟩

def nativeFunction (name : String) (r : FunctionRoutine) : Value :=
  .function ⟨0, name, .native .varargs r⟩

def equipped : Session :=
  let globals : Table Value := {}
  let globals := (globals.insert "sized" (.object 0)).insert "box" (.object 1)
  let globals := globals.insert "maker" (.type makerType)
  let globals := globals.insert "invoke" (nativeFunction "invoke" (.stock .invoke))
  { host :=
      { runtime := .start {} 0
        store := { instances := ⟨#[.alloc sizedType, .alloc boxType]⟩ } }
    globals := globals.insert "fail" (nativeFunction "raise_exc" (.sample .raiseExc)) }

def trying : Config := { control := .give .null, stack := [.attempt], session := equipped }

def building : Task :=
  .call (.function ⟨0, "build",
    .host [.apply (.object .call) [variableNamed "invoke", variableNamed "maker"]]⟩) []

/-- A native function is about to fail, eleven frames above a `try`: under it lie host and native methods,
a length, an initializer, a construction and a host function. -/
def towering : Config := (trying.start building).after 25

/-- The failure at the top of `towering` is what the host function outside all others ends with. -/
theorem exceptions_cross_frames_towering :
    (∀ k < 25, ¬ ((trying.start building).after k).SettledOn trying.stack) ∧
      (∃ tower, tower.length = 11 ∧ towering.stack = tower ++ trying.stack ∧ .attempt ∉ tower) ∧
      towering.ready.Fails (.failure Sample.raiseExc) ∧
      trying.EndsWith building ⟨.attributeError, "blaaa"⟩ := by
  -- Frames cannot be compared, but their numbers can.
  have hbusy : ∀ k ≤ 25, ((trying.start building).after k).control.isOutcome = false ∨
      ((trying.start building).after k).stack.length ≠ trying.stack.length := by
    decide +kernel
  have hrun : ∀ k ≤ 25, ¬ ((trying.start building).after k).SettledOn trying.stack := by
    rintro k hk ⟨hout, hstack⟩
    rcases hbusy k hk with h | h
    · rw [hout] at h
      contradiction
    · exact h (congrArg List.length hstack)
  have hstack : towering.stack = towering.stack.take 11 ++ trying.stack := rfl
  have hlength : (towering.stack.take 11).length = 11 := rfl
  have htower : .attempt ∉ towering.stack.take 11 := by
    have hnone : ∀ frame ∈ towering.stack.take 11, (frame matches .attempt) = false := by
      decide +kernel
    intro hmem
    have hattempt := hnone _ hmem
    contradiction
  obtain ⟨target, args, hcontrol, hfails⟩ : ∃ target args,
      towering.ready.control = .call target args ∧
        (towering.ready.setDepth (towering.ready.depth + 1)).session.host.CallFails target args
          (.failure Sample.raiseExc) :=
    ⟨_, _, rfl, .routine rfl rfl rfl⟩
  have hdepth : towering.ready.depth < towering.ready.limit := by decide +kernel
  have hbottom : towering.ready.Fails (.failure Sample.raiseExc) := .call hcontrol hdepth hfails
  obtain ⟨-, htranslated, -⟩ := exceptions_cross_frames trying building 25 (towering.stack.take 11)
    (fun k hk => hrun k (Nat.le_of_lt hk)) hstack htower
  obtain ⟨e, hseen, hend⟩ := htranslated _ (hrun 25 (Nat.le_refl 25)) hbottom
  cases hseen
  exact ⟨fun k hk => hrun k (Nat.le_of_lt hk), ⟨_, hlength, hstack, htower⟩, hbottom, hend⟩

end Config

end ObjectProtocol
