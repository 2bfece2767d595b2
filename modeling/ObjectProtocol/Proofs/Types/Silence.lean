import ObjectProtocol.Proofs.Types.Notices

/-!
# Who passes no notice on

The routines and slots of the sample module raise none of the notices that a type was released, and neither
do slots, members and declarations.
-/

namespace ObjectProtocol

/-! ## The sample module -/

namespace Record

theorem notGone_typedTuple (r : Record) (s : Store) (format : List Param) :
    FailsOnly Failure.NotGone (r.typedTuple s format) := by
  refine .map ?_
  unfold typedValues
  split
  · exact (ordinary_convertAll s r.fields format).notGone_of_ordinary
  · refine .error (Failure.notGone_because _ "tuple format expects " ?_ (by decide))
    simp [String.toList_append]

end Record

namespace Sample

variable (i : Instance) (s : Store) (args : List Value) (a : Args)

theorem notGone_parse (spec : ArgSpec) : FailsOnly Failure.NotGone (spec.parse s args) :=
  (spec.ordinary_parse s args).notGone_of_ordinary

namespace Box

theorem notGone_checkNew : FailsOnly Failure.NotGone (checkNew s args) := by
  refine .bind (notGone_parse s args _) fun a _ => .bind (a.notGone_int 1) fun n _ => ?_
  split
  · exact .error (Failure.notGone_silent _)
  · exact .ok ()

theorem notGone_initialCounter (contents : Value) :
    FailsOnly Failure.NotGone (initialCounter a contents) := by
  -- Which lengths fit does not matter, and comparing one with the bounds is not to be computed.
  obtain ⟨fit, hfit⟩ : ∃ fit, fit = NativeInt.ofInt? := ⟨_, rfl⟩
  unfold initialCounter
  rw [← hfit]
  split
  · split
    · exact .ok _
    · exact .error (Failure.Ordinary.notGone (Failure.ordinary_because (by decide) _))
  · exact a.notGone_int 1

theorem notGone_init : FailsOnly Failure.NotGone (init s i args) := by
  refine .bind (notGone_parse s args _) fun a _ => .bind (a.notGone_get 0) fun contents _ => ?_
  refine .bind (notGone_initialCounter a contents) fun counter _ => ?_
  exact .bind (i.notGone_write _ _) fun j _ => j.notGone_write _ _

theorem notGone_contents : FailsOnly Failure.NotGone (contents i) := .map (i.notGone_readObject _)

theorem notGone_counter : FailsOnly Failure.NotGone (counter i) := i.notGone_readInt _

theorem notGone_record : FailsOnly Failure.NotGone (record i) :=
  .bind (notGone_contents i) fun _ _ => .bind (notGone_counter i) fun _ _ => .ok _

theorem notGone_incr : FailsOnly Failure.NotGone (incr i) := by
  refine .bind (notGone_counter i) fun n _ => ?_
  split
  · exact i.notGone_write _ _
  · exact .error (Failure.Ordinary.notGone (Failure.ordinary_because (by decide) _))

theorem notGone_settle (policy : MutationPolicy) (n : NativeInt) (faulted : Bool) :
    FailsOnly Failure.NotGone (settle i policy n faulted).1 := by
  have hfault : FailsOnly Failure.NotGone (.error (.silent .invariantBroken) : Except Failure Unit) :=
    .error (Failure.notGone_silent _)
  have hwrite (m : NativeInt) := i.notGone_write counterField (.int m)
  unfold settle
  dsimp only
  split
  · split
    · exact hfault
    · split
      · rename_i f hf
        exact .error (hwrite _ f hf)
      · exact .ok ()
  · exact hfault
  · -- `mutateThenValidate`: the counter is written before the fault is reported.
    split
    · rename_i f hf
      exact .error (hwrite _ f hf)
    · split
      · exact hfault
      · exact .ok ()

theorem notGone_maybeIncr (h : Host) (ref : Ref) :
    FailsOnly NativeError.NotGone (maybeIncr h ref).1 := by
  unfold maybeIncr
  dsimp only
  split
  · rename_i f hf
    exact .error (notGone_counter _ f hf)
  · exact .map (.notGone_failing (notGone_settle _ _ _ _))

theorem notGone_callback : FailsOnly NativeError.NotGone (callback s i a) := by
  refine .bind (.notGone_failing (a.notGone_get 0)) fun target _ => ?_
  refine .bind (notGone_ensureCallable s target) fun _ _ => ?_
  refine .bind (.notGone_failing (notGone_contents i)) fun c _ => ?_
  refine .bind (.notGone_failing (notGone_counter i)) fun n _ => ?_
  exact notGone_invoke s target _

end Box

namespace Counter

theorem notGone_init : FailsOnly Failure.NotGone (init s i args) := by
  refine .bind (notGone_parse s args _) fun a _ => .bind (a.notGone_get 0) fun v _ => ?_
  split
  · exact .bind (a.notGone_extract 0 s) fun n _ => i.notGone_write _ _
  · exact .error (Failure.Ordinary.notGone (Failure.ordinary_because (by decide) _))

theorem notGone_rawLength : FailsOnly Failure.NotGone (rawLength i) := by
  refine .bind (i.notGone_readInt _) fun bound _ => ?_
  split
  · exact .error (Failure.Ordinary.notGone (Failure.ordinary_because (by decide) _))
  · exact .ok bound

end Counter

end Sample

theorem BoxMethod.notGone_run (m : BoxMethod) (h : Host) (ref : Ref) (a : Args) :
    FailsOnly NativeError.NotGone (m.run h ref a).1 := by
  cases m with
  | getContents => exact .map (.notGone_failing (Sample.Box.notGone_contents _))
  | getCounter => exact .map (.notGone_failing (Sample.Box.notGone_counter _))
  | getData | getDataDict => exact .map (.notGone_failing (Sample.Box.notGone_record _))
  | brokenGetData =>
    exact .map (.notGone_failing (.bind (Sample.Box.notGone_record _) fun r _ =>
      r.notGone_typedTuple h.store _))
  | incr => exact h.failsOnly_answer (.map (.notGone_failing (Sample.Box.notGone_incr _)))
  | maybeIncr => exact Sample.Box.notGone_maybeIncr h ref
  | callback => exact Sample.Box.notGone_callback _ h.store a

theorem SampleFunction.notGone_run (f : SampleFunction) {h : Host} (hreleased : h.store.released = [])
    (a : Args) : FailsOnly NativeError.NotGone (f.run h a).1 := by
  have hraise : FailsOnly NativeError.NotGone
      (.error (.failure Sample.raiseExc) : Except NativeError Answer) :=
    .error (Failure.Ordinary.notGone (Failure.ordinary_because (by decide) _))
  have hcheck : FailsOnly NativeError.NotGone ((failing (Sample.idCheck a)).map Answer.given) :=
    .map (.notGone_failing (Sample.ordinary_idCheck a).notGone_of_ordinary)
  cases f with
  | typ =>
    refine .bind (.notGone_failing (a.notGone_get 0)) fun v _ => .bind (.mapError ?_) fun t _ => .ok _
    exact .of_exists (h.runtime.exists_typeOf hreleased v)
  | raiseExc => exact hraise
  -- It fails silently, and the missing exception is a SystemError.
  | forgetRaise => exact .error (Failure.notGone_silent .missingAttribute)
  | idCheck => exact hcheck
  | randomFail =>
    unfold SampleFunction.run
    dsimp only
    split
    · exact hcheck
    · exact hraise
  | returnTrue | returnFalse | returnBool | returnNone => exact .ok _
  | vsum => exact .map (.notGone_failing (Sample.ordinary_checkedSum _ _).notGone_of_ordinary)
  | vsum2 =>
    refine .map (.notGone_failing (FailsOnly.notGone_of_ordinary ?_))
    exact .bind (Sample.ordinary_extractAll _ _) fun ns _ => Sample.ordinary_checkedSum _ ns

/-! ## Routines, slots and members -/

theorem MethodRoutine.notGone_run (r : MethodRoutine) (h : Host) (ref : Ref) (a : Args) :
    FailsOnly (fun x => x.NotGone ∨ ∃ r', r = .stock r' ∧ r'.Tells a.values x.toException)
      (r.run h ref a).1 := by
  cases r with
  | stock r => exact (r.notGone_run h.store a).mono fun x hx => hx.imp id fun ht => ⟨r, rfl, ht⟩
  | onInstance r =>
    have hrun := h.failsOnly_answer (.notGone_failing (r.notGone_run ref (h.store.instanceAt ref) a))
    exact hrun.mono fun x => Or.inl
  | box m => exact (m.notGone_run h ref a).mono fun x => Or.inl
  | rawLength =>
    have hrun := FailsOnly.notGone_failing (Sample.Counter.notGone_rawLength (h.store.instanceAt ref))
    exact FailsOnly.mono (.map hrun) fun x => Or.inl

theorem FunctionRoutine.notGone_run (r : FunctionRoutine) {h : Host}
    (hreleased : h.store.released = []) (a : Args) :
    FailsOnly (fun x => x.NotGone ∨ ∃ r', r = .stock r' ∧ r'.Tells a.values x.toException)
      (r.run h a).1 := by
  cases r with
  | stock r => exact (r.notGone_run h.store a).mono fun x hx => hx.imp id fun ht => ⟨r, rfl, ht⟩
  | sample f => exact (f.notGone_run hreleased a).mono fun x => Or.inl

namespace NewSlot

theorem notGone_check (slot : NewSlot) (s : Store) (args : List Value) :
    FailsOnly Failure.NotGone (slot.check s args) := by
  cases slot with
  | alloc => exact .ok ()
  | noArguments => exact .map (Sample.notGone_parse s args _)
  | failSilently => exact .error (Failure.notGone_silent .outOfRange)
  | fail => exact .error (Failure.Ordinary.notGone (Failure.ordinary_because (by decide) _))
  | box => exact Sample.Box.notGone_checkNew s args

end NewSlot

namespace InitSlot

theorem notGone_storeFrom (s : Store) (i : Instance) (objects : Bool) (n : Nat) (args : List Value) :
    FailsOnly Failure.NotGone (storeFrom s i objects n args).1 := by
  induction args generalizing i n with
  | nil => exact .ok ()
  | cons v rest ih =>
    -- A field takes the value itself or its native integer.
    have hcontent : FailsOnly Failure.NotGone
        (if objects || i.type.own.layout[n]? = some .object then .ok (.object (some v))
          else (s.toNative v).map .int : Except Failure Field) := by
      split
      · exact .ok _
      · exact .map (s.ordinary_toNative v).notGone_of_ordinary
    unfold storeFrom
    dsimp only
    split
    · rename_i f hf
      exact .error (FailsOnly.bind hcontent (fun content _ => i.notGone_write n content) f hf)
    · exact ih _ _

theorem notGone_run (slot : InitSlot) (s : Store) (i : Instance) (args : List Value) :
    FailsOnly Failure.NotGone (slot.run s i args).1 := by
  cases slot with
  | store => exact notGone_storeFrom s i false 0 args
  | storeObjects => exact notGone_storeFrom s i true 0 args
  | ignore => exact .ok ()
  | fail => exact .error (Failure.Ordinary.notGone (Failure.ordinary_because (by decide) _))
  | box => exact failsOnly_atomic (Sample.Box.notGone_init i s args) i
  | counter => exact failsOnly_atomic (Sample.Counter.notGone_init i s args) i

end InitSlot

theorem LengthSlot.notGone_run (slot : LengthSlot) (i : Instance) :
    FailsOnly Failure.NotGone (slot.run i) := by
  cases slot with
  | int offset => exact i.notGone_readInt offset
  | fail => exact .error (Failure.Ordinary.notGone (Failure.ordinary_because (by decide) _))

theorem ContainsSlot.notGone_run (slot : ContainsSlot) (s : Store) (i : Instance) (item : Value)
    {inside : Value → Except Exception Bool}
    (hinside : ∀ v, FailsOnly Exception.NotGone (inside v)) :
    FailsOnly NativeError.NotGone (slot.run s i item inside) := by
  have hitem := (s.ordinary_toNative item).notGone_of_ordinary
  cases slot with
  | equalsObject => exact .notGone_failing (.bind (i.notGone_readObject 0) fun content _ => .ok _)
  | equalsInt =>
    exact .notGone_failing (.bind (i.notGone_readInt 0) fun n _ => .bind hitem fun m _ => .ok _)
  | inObject =>
    refine .bind (.notGone_failing (i.notGone_readObject 0)) fun content _ => ?_
    exact .mapError (hinside (content.getD .null))
  | counter =>
    exact .notGone_failing (.bind hitem fun n _ => .bind (i.notGone_readInt 0) fun bound _ => .ok _)

theorem IterSlot.notGone_run (slot : IterSlot) (rt : Runtime) (i : Instance)
    {inside : Value → Except Exception Sketch}
    (hinside : ∀ v, FailsOnly Exception.NotGone (inside v)) :
    FailsOnly NativeError.NotGone (slot.run rt i inside) := by
  cases slot with
  | positions => exact .notGone_failing (.bind (i.notGone_readInt 0) fun bound _ => .ok _)
  | ofObject =>
    refine .bind (.notGone_failing (i.notGone_readObject 0)) fun content _ => ?_
    exact .mapError (hinside (content.getD .null))
  | rawObject => exact .notGone_failing (.bind (i.notGone_readObject 0) fun content _ => .ok _)
  | counter =>
    refine .notGone_failing ?_
    split
    · refine .error (Failure.notGone_because _ "'" ?_ (by decide))
      simp [String.toList_append]
    · exact .bind (i.notGone_readInt 0) fun bound _ => .ok _

theorem NextSlot.notGone_run (slot : NextSlot) (i : Instance) :
    FailsOnly Failure.NotGone (slot.run i) := by
  cases slot with
  | countdown =>
    refine .bind (i.notGone_readInt 0) fun n _ => ?_
    split
    · exact .bind (i.notGone_write _ _) fun j _ => .ok _
    · exact .ok _
  | exhausted => exact .error (Failure.notGone_silent .sequenceExhausted)
  | drained => exact .error (Failure.Ordinary.notGone (Failure.ordinary_because (by decide) _))

theorem Member.failing_notGone : Member.Failing Exception.NotGone where
  get m i := .map (i.notGone_read m.offset)
  set m s i v := by
    unfold Member.set
    split
    · exact .error (Failure.Ordinary.notGone (Failure.ordinary_because (by decide) _))
    · split
      · rename_i f hf
        exact .error (Exception.Ordinary.notGone (Member.content_error hf))
      · exact i.notGone_write _ _
  delete m i := by
    unfold Member.delete
    split
    · exact .error (Failure.Ordinary.notGone (Failure.ordinary_because (by decide) _))
    · split
      · exact i.notGone_write _ _
      · exact .error (Failure.Ordinary.notGone (Failure.ordinary_because (by decide) _))

/-- While `released` is empty, no operation raises `TypeObject.gone`. -/
theorem Store.failing_notGone {s : Store} (h : s.released = []) (rt : Runtime) :
    s.Failing Exception.NotGone rt where
  live := s.live_of_released h
  length ref slot _ := slot.notGone_run _
  contains ref slot _ item _ hinside := slot.notGone_run s _ item hinside
  iter ref slot _ _ hinside := slot.notGone_run rt _ hinside
  next ref slot _ := slot.notGone_run _
  getAttr v name e he := by
    refine (getAttr_fails he).elim (fun e => Exception.Ordinary.notGone)
      (fun ref _ => ⟨_, s.live_of_released h _⟩) fun ref m _ _ => Member.failing_notGone.get m _
  setAttr v name w e he := by
    refine (setAttr_fails he).elim (fun e => Exception.Ordinary.notGone)
      (fun ref _ => ⟨_, s.live_of_released h _⟩) fun ref m _ _ => Member.failing_notGone.set m s _ w
  delAttr v name e he := by
    refine (delAttr_fails he).elim (fun e => Exception.Ordinary.notGone)
      (fun ref _ => ⟨_, s.live_of_released h _⟩) fun ref m _ _ => Member.failing_notGone.delete m _

theorem TypeDecl.Inconsistent.notGone {d : TypeDecl Code} {operands : List Value} {e : Exception}
    (h : d.Inconsistent operands e) : e.NotGone := by
  obtain ⟨base, f, -, hfault, -, rfl⟩ := h
  rcases ordinary_or_of_fault? hfault with hordinary | ⟨p, rest, hp, rfl⟩
  · exact Failure.Ordinary.notGone hordinary
  · refine Failure.notGone_because _ p (by simp [String.toList_append]) ?_
    rcases hp with rfl | rfl <;> decide

end ObjectProtocol
