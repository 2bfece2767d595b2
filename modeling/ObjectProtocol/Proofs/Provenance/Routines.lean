import ObjectProtocol.Proofs.Calls.Drawing
import ObjectProtocol.Proofs.Provenance.Operations

/-!
# Native routines and calls

Native routines answer with their arguments, with what their instance holds, and with what they make
of both; what they store in an instance are their arguments and integers, and only where a field of
the kind is.  So a call stays within what the host, the callee and the arguments are within.
-/

namespace ObjectProtocol

variable {P : Realm}

/-! ## Arguments and records -/

namespace Args

def Within (P : Realm) (a : Args) : Prop := ∀ v ∈ a.values, v.Within P

variable {a : Args}

theorem within_of_parse {s : Store} {spec : ArgSpec} {args : List Value}
    (hargs : ∀ v ∈ args, v.Within P) : Yields (Within P) (spec.parse s args) := by
  intro a ha
  unfold Within
  rw [ArgSpec.values_of_parse ha]
  exact hargs

theorem Within.get? (h : a.Within P) {i : Nat} {v : Value} (hv : a.get? i = some v) :
    v.Within P := by
  obtain ⟨item, hitem, rfl⟩ := Option.map_eq_some_iff.1 hv
  exact h _ (List.mem_map_of_mem (List.mem_of_getElem? hitem))

theorem Within.get (h : a.Within P) (i : Nat) : Yields (Value.Within P) (a.get i) := by
  unfold Args.get
  split
  · rename_i v hv
    exact .ok (h.get? hv)
  · exact .error _

end Args

namespace Record

def Within (P : Realm) (r : Record) : Prop := ∀ field ∈ r.fields, field.2.Within P

variable {r : Record}

theorem Within.toTuple (h : r.Within P) : r.toTuple.Within P := by
  refine .tupleOf fun v hv => ?_
  obtain ⟨field, hfield, rfl⟩ := List.mem_map.1 (List.mem_toArray.1 hv)
  exact h field hfield

theorem Within.toDict (h : r.Within P) : r.toDict.Within P := by
  refine .dict fun entry hentry => ?_
  obtain ⟨field, hfield, rfl⟩ := List.mem_map.1 hentry
  exact .given (h field hfield)

theorem within_convert (s : Store) (name : String) {v : Value} (hv : v.Within P) (p : Param) :
    Yields (Value.Within P) (convert s name v p) := by
  cases p with
  | any => exact .ok hv
  | int => exact .map fun n _ => Value.within_ofNative n
  | str =>
    unfold convert
    dsimp only
    split
    · exact .ok hv
    · exact .error _

theorem within_convertAll (s : Store) {fields : List (String × Value)}
    (h : ∀ field ∈ fields, field.2.Within P) (format : List Param) :
    Yields (fun vs => ∀ v ∈ vs, v.Within P) (convertAll s fields format) := by
  induction fields generalizing format with
  | nil => exact .ok fun v hv => by contradiction
  | cons field fields ih =>
    obtain ⟨name, v⟩ := field
    obtain ⟨hv, hfields⟩ := List.forall_mem_cons.1 h
    cases format with
    -- Fields without a format are dropped.
    | nil => exact .ok fun v hv => by contradiction
    | cons p format =>
      unfold convertAll
      split
      · exact .error _
      · rename_i w hw
        refine .map fun ws hws => List.forall_mem_cons.2 ⟨?_, ih hfields format ws hws⟩
        exact within_convert s name hv p w hw

theorem Within.typedTuple (h : r.Within P) (s : Store) (format : List Param) :
    Yields (Sketch.Within P) (r.typedTuple s format) := by
  have hvalues : Yields (fun vs => ∀ v ∈ vs, v.Within P) (r.typedValues s format) := by
    unfold typedValues
    split
    · exact within_convertAll s h format
    · exact .error _
  exact .map fun vs hvs => .tupleOf fun v hv => hvalues vs hvs v (List.mem_toArray.1 hv)

end Record

/-! ## Answers -/

def Answer.Within (P : Realm) : Answer → Prop
  | .value sketch => sketch.Within P
  | .call target args => target.Within P ∧ ∀ v ∈ args, v.Within P

namespace Answer

theorem within_given {v : Value} (h : v.Within P) : (given v).Within P := Sketch.Within.given h

theorem within_int (n : NativeInt) : (int n).Within P := within_given (Value.within_ofNative n)

theorem within_null : null.Within P := within_given (.plain rfl)

end Answer

section Routines

variable {h : Host} {s : Store} {i : Instance} {ref : Ref} {a : Args}

theorem within_invoke (s : Store) {target : Value} (ht : target.Within P) {args : List Value}
    (hargs : ∀ v ∈ args, v.Within P) : Yields (Answer.Within P) (invoke s target args) :=
  .map fun _ _ => ⟨ht, hargs⟩

theorem StockRoutine.within_run (r : StockRoutine) (s : Store) (ha : a.Within P) :
    Yields (Answer.Within P) (r.run s a) := by
  cases r with
  | values =>
    exact .ok (Sketch.Within.tupleOf fun v hv => ha v (List.mem_toArray.1 hv))
  | narrowed =>
    refine .ok (Sketch.Within.tupleOf fun v hv => ?_)
    obtain ⟨item, -, rfl⟩ := List.mem_map.1 (List.mem_toArray.1 hv)
    cases item.2 with
    | none => exact .plain rfl
    | some n => exact Value.within_ofNative n
  | first => exact .mapError (.bind (ha.get 0) fun v hv => .ok (Answer.within_given hv))
  | text => exact .mapError (.bind (.any _) fun t _ => .ok (Sketch.Within.text t))
  | extract => exact .mapError (.bind (.any _) fun n _ => .ok (Answer.within_int n))
  | fail => exact .mapError (.bind (.any _) fun _ _ => .error _)
  | raise => exact .bind (.any _) fun _ _ => .bind (.any _) fun _ _ => .error _
  -- The target is the first value; the rest are its arguments.
  | invoke =>
    refine .bind (.mapError (ha.get 0)) fun target ht => ?_
    exact within_invoke s ht fun v hv => ha v (List.mem_of_mem_drop hv)

theorem InstanceRoutine.within_run (r : InstanceRoutine) (ref : Ref) (hi : i.Within P)
    (ha : a.Within P) :
    Yields (fun r => r.1.Within P ∧ r.2.Within P) (r.run ref i a) := by
  cases r with
  | receiver => exact .ok ⟨Answer.within_given (.plain rfl), trivial⟩
  | info =>
    refine .ok ⟨Sketch.Within.tuple ?_, trivial⟩
    simp only [List.forall_mem_cons]
    exact ⟨.text _, Sketch.within_count _, Sketch.within_bool _, by simp⟩
  | getInt =>
    exact .bind (.any _) fun _ _ => .bind (.any _) fun n _ =>
      .ok ⟨Answer.within_int n, trivial⟩
  | setInt =>
    exact .bind (.any _) fun _ _ => .bind (.any _) fun n _ =>
      .bind (hi.write _ (Field.within_int n)) fun j hj => .ok ⟨Answer.within_null, hj⟩
  | getObject =>
    exact .bind (.any _) fun _ _ => .bind (hi.readObject _) fun v hv =>
      .ok ⟨Answer.within_given (Value.within_getD_null hv), trivial⟩
  -- A missing value clears the field.
  | setObject =>
    have hcontent : (Field.object (a.get? 1)).Within P :=
      Field.within_object_of fun v hv => ha.get? hv
    exact .bind (.any _) fun _ _ => .bind (hi.write _ hcontent) fun j hj =>
      .ok ⟨Answer.within_null, hj⟩

end Routines

/-! ## Hosts -/

theorem Runtime.Within.drawnTo {rt rt' : Runtime} (h : rt.Within P) (hd : rt.DrawnTo rt') :
    rt'.Within P := by
  obtain ⟨g, rfl⟩ := hd
  exact ⟨h.builtin, h.registered⟩

structure Host.Within (P : Realm) (h : Host) : Prop where
  runtime : h.runtime.Within P
  store : h.store.Within P

/-- What a routine hands back, and the host after it, are within the realm. -/
structure Host.Answers (P : Realm) (r : Except NativeError Answer × Host) : Prop where
  answer : Yields (Answer.Within P) r.1
  host : r.2.Within P

namespace Host

variable {h : Host}

theorem Within.coin (hh : h.Within P) : h.coin.2.Within P :=
  ⟨hh.runtime.drawnTo h.drawnTo_coin, hh.store⟩

theorem Within.injectFault (hh : h.Within P) : h.injectFault.2.Within P :=
  ⟨hh.runtime.drawnTo h.drawnTo_injectFault, hh.store⟩

theorem Within.apply (hh : h.Within P) {change : Change} (hc : change.Within P) :
    (h.apply change).Within P := ⟨hh.runtime, hh.store.apply hc⟩

theorem Within.answer (hh : h.Within P) {x : Except NativeError (Answer × Change)}
    (hx : Yields (fun r => r.1.Within P ∧ r.2.Within P) x) : Answers P (h.answer x) := by
  cases x with
  | ok r => exact ⟨.ok (hx r rfl).1, hh.apply (hx r rfl).2⟩
  | error e => exact ⟨.error e, hh⟩

theorem Within.newInstance (hh : h.Within P) {t : TypeObject} (ht : P.type t) :
    (h.newInstance t).2.Within P :=
  ⟨hh.runtime, hh.store.newInstance (Instance.within_alloc ht)⟩

end Host

section Samples

variable {h : Host} {s : Store} {i : Instance} {a : Args}

theorem Sample.within_idCheck (ha : a.Within P) : Yields (Value.Within P) (idCheck a) := by
  unfold idCheck
  split
  · exact ha.get 0
  · exact .error _

theorem SampleFunction.within_run (f : SampleFunction) (hh : h.Within P) (ha : a.Within P) :
    Host.Answers P (f.run h a) := by
  have hid : Yields (Answer.Within P) ((failing (Sample.idCheck a)).map .given) :=
    .map fun v hv => Answer.within_given (Yields.mapError (Sample.within_idCheck ha) v hv)
  have hbool (b : Bool) : (Answer.given (.bool b)).Within P := Answer.within_given (.plain rfl)
  cases f with
  | typ =>
    refine ⟨.bind (.any _) fun v _ => .bind (.mapError (hh.runtime.typeOf hh.store v)) ?_, hh⟩
    exact fun t ht => .ok (Answer.within_given (.type ht))
  | raiseExc => exact ⟨.error _, hh⟩
  | forgetRaise => exact ⟨.error _, hh⟩
  | idCheck => exact ⟨hid, hh⟩
  -- The coin is drawn whether or not the check follows.
  | randomFail =>
    unfold run
    dsimp only
    split
    · exact ⟨hid, hh.coin⟩
    · exact ⟨.error _, hh.coin⟩
  | returnTrue => exact ⟨.ok (hbool true), hh⟩
  | returnFalse => exact ⟨.ok (hbool false), hh⟩
  | returnBool => exact ⟨.ok (hbool _), hh.coin⟩
  | returnNone => exact ⟨.ok Answer.within_null, hh⟩
  | vsum => exact ⟨.map fun n _ => Answer.within_int n, hh⟩
  | vsum2 => exact ⟨.map fun n _ => Answer.within_int n, hh⟩

theorem FunctionRoutine.within_run (r : FunctionRoutine) (hh : h.Within P) (ha : a.Within P) :
    Host.Answers P (r.run h a) := by
  cases r with
  | stock r => exact ⟨r.within_run h.store ha, hh⟩
  | sample f => exact f.within_run hh ha

namespace Sample

namespace Box

theorem within_init (s : Store) (hi : i.Within P) {args : List Value}
    (hargs : ∀ v ∈ args, v.Within P) : Yields (Instance.Within P) (init s i args) :=
  .bind (Args.within_of_parse hargs) fun _ ha => .bind (ha.get 0) fun _ hcontents =>
    .bind (.any _) fun n _ => .bind (hi.write _ (Field.within_object hcontents)) fun _ hj =>
      hj.write _ (Field.within_int n)

theorem within_contents (hi : i.Within P) : Yields (Value.Within P) (contents i) :=
  .map fun v hv => Value.within_getD_null (hi.readObject _ v hv)

theorem within_record (hi : i.Within P) : Yields (Record.Within P) (record i) := by
  refine .bind (within_contents hi) fun c hc => .bind (.any _) fun n _ => .ok ?_
  exact List.forall_mem_cons.2 ⟨hc, List.forall_mem_cons.2 ⟨Value.within_ofNative n, by simp⟩⟩

theorem within_incr (hi : i.Within P) : Yields (Instance.Within P) (incr i) := by
  refine .bind (.any _) fun n _ => ?_
  split
  · exact hi.write _ (Field.within_int _)
  · exact .error _

theorem within_settle (hi : i.Within P) (policy : MutationPolicy) (n : NativeInt)
    (faulted : Bool) : (settle i policy n faulted).2.Within P := by
  have hwrite (m : NativeInt) (j : Instance)
      (hj : i.write counterField (.int m) = .ok j) : j.Within P :=
    hi.write _ (Field.within_int m) j hj
  -- Every policy keeps the instance, or writes its counter.
  unfold settle
  dsimp only
  split
  · split
    · exact hi
    · split
      · exact hi
      · exact hwrite _ _ ‹_›
  · exact hi
  · split
    · exact hi
    · exact hwrite _ _ ‹_›

theorem within_maybeIncr (hh : h.Within P) (ref : Ref) : Host.Answers P (maybeIncr h ref) := by
  unfold maybeIncr
  dsimp only
  split
  · exact ⟨.error _, hh⟩
  · refine ⟨.map fun _ _ => Answer.within_null, hh.injectFault.apply ?_⟩
    exact within_settle (hh.store.instances ref) _ _ _

theorem within_callback (s : Store) (hi : i.Within P) (ha : a.Within P) :
    Yields (Answer.Within P) (callback s i a) := by
  refine .bind (.mapError (ha.get 0)) fun target ht => .bind (.any _) fun _ _ => ?_
  refine .bind (.mapError (within_contents hi)) fun c hc => .bind (.any _) fun n _ => ?_
  exact within_invoke s ht
    (List.forall_mem_cons.2 ⟨hc, List.forall_mem_cons.2 ⟨Value.within_ofNative n, by simp⟩⟩)

end Box

theorem Counter.within_init (s : Store) (hi : i.Within P) (args : List Value) :
    Yields (Instance.Within P) (init s i args) := by
  refine .bind (.any _) fun a _ => .bind (.any _) fun v _ => ?_
  split
  · exact .bind (.any _) fun n _ => hi.write _ (Field.within_int n)
  · exact .error _

end Sample

theorem BoxMethod.within_run (m : BoxMethod) (hh : h.Within P) (ref : Ref) (ha : a.Within P) :
    Host.Answers P (m.run h ref a) := by
  have hi := hh.store.instances ref
  cases m with
  | getContents =>
    refine ⟨.map fun v hv => Answer.within_given ?_, hh⟩
    exact Yields.mapError (Sample.Box.within_contents hi) v hv
  | getCounter => exact ⟨.map fun n _ => Answer.within_int n, hh⟩
  | getData =>
    refine ⟨.map fun r hr => ?_, hh⟩
    exact (Yields.mapError (Sample.Box.within_record hi) r hr).toTuple
  -- The format is the wrong one on purpose, but what it converts is the record's.
  | brokenGetData =>
    refine ⟨.map fun sketch hsketch => ?_, hh⟩
    refine Yields.mapError ?_ sketch hsketch
    exact .bind (Sample.Box.within_record hi) fun r hr => hr.typedTuple _ _
  | getDataDict =>
    refine ⟨.map fun r hr => ?_, hh⟩
    exact (Yields.mapError (Sample.Box.within_record hi) r hr).toDict
  | incr =>
    refine hh.answer (.map fun j hj => ⟨Answer.within_null, ?_⟩)
    exact Yields.mapError (Sample.Box.within_incr hi) j hj
  | maybeIncr => exact Sample.Box.within_maybeIncr hh ref
  | callback => exact ⟨Sample.Box.within_callback h.store hi ha, hh⟩

theorem MethodRoutine.within_run (r : MethodRoutine) (hh : h.Within P) (ref : Ref)
    (ha : a.Within P) : Host.Answers P (r.run h ref a) := by
  have hi := hh.store.instances ref
  cases r with
  | stock r => exact ⟨r.within_run h.store ha, hh⟩
  | onInstance r => exact hh.answer (.mapError (r.within_run ref hi ha))
  | box m => exact m.within_run hh ref ha
  | rawLength => exact ⟨.map fun n _ => Answer.within_int n, hh⟩

end Samples

/-! ## Initialization -/

namespace InitSlot

variable {s : Store} {i : Instance} {args : List Value}

theorem within_storeFrom (s : Store) (hi : i.Within P) (objects : Bool) (n : Nat)
    (hargs : ∀ v ∈ args, v.Within P) : (storeFrom s i objects n args).2.Within P := by
  induction args generalizing i n with
  | nil => exact hi
  | cons v rest ih =>
    obtain ⟨hv, hrest⟩ := List.forall_mem_cons.1 hargs
    unfold storeFrom
    dsimp only
    split
    · exact hi
    · -- What was stored before a failure stays, so each store begins with the one before.
      rename_i j hj
      refine ih ?_ _ hrest
      refine Yields.bind (Q := Field.Within P) ?_ (fun content hc => hi.write n hc) j hj
      split
      · exact .ok (Field.within_object hv)
      · exact .map fun m _ => Field.within_int m

theorem within_atomic (hi : i.Within P) {x : Except Failure Instance}
    (hx : Yields (Instance.Within P) x) : (atomic i x).2.Within P := by
  cases x with
  | ok j => exact hx j rfl
  | error f => exact hi

theorem within_run (slot : InitSlot) (s : Store) (hi : i.Within P)
    (hargs : ∀ v ∈ args, v.Within P) : (slot.run s i args).2.Within P := by
  cases slot with
  | store => exact within_storeFrom s hi false 0 hargs
  | storeObjects => exact within_storeFrom s hi true 0 hargs
  | ignore => exact hi
  | fail => exact hi
  | box => exact within_atomic hi (Sample.Box.within_init s hi hargs)
  | counter => exact within_atomic hi (Sample.Counter.within_init s hi args)

end InitSlot

/-! ## Calls -/

def Entry.Within (P : Realm) : Entry → Prop
  | .give v => v.Within P
  | .call target args => target.Within P ∧ ∀ v ∈ args, v.Within P
  | .run _ args => ∀ v ∈ args, v.Within P
  | .raise _ => True

structure Entry.Made (P : Realm) (r : Entry × Host) : Prop where
  entry : r.1.Within P
  host : r.2.Within P

theorem Entry.within_ofAnswer {r : Except NativeError Answer × Host} (h : Host.Answers P r) :
    Entry.Made P (ofAnswer r) := by
  obtain ⟨answer, host⟩ := r
  obtain ⟨hanswer, hhost⟩ := h
  cases answer with
  | error e => exact ⟨trivial, hhost⟩
  | ok answer =>
    have ha := hanswer answer rfl
    cases answer with
    | value sketch =>
      have hmade := ha.build hhost.store
      exact ⟨hmade.value, hhost.runtime, hmade.store⟩
    | call target args => exact ⟨ha, hhost⟩

namespace Host

variable {h : Host} {args : List Value}

theorem Within.runMethod (hh : h.Within P) (d : Descriptor) {receiver : Value}
    (hr : receiver.Within P) (hargs : ∀ v ∈ args, v.Within P) :
    Entry.Made P (h.runMethod d receiver args) := by
  unfold Host.runMethod
  split
  · split
    · split
      · rename_i a ha
        exact Entry.within_ofAnswer
          (MethodRoutine.within_run _ hh _ (Args.within_of_parse hargs a ha))
      · exact ⟨trivial, hh⟩
    · exact ⟨trivial, hh⟩
  · -- The receiver is the first argument of a host body.
    split
    · exact ⟨List.forall_mem_cons.2 ⟨hr, hargs⟩, hh⟩
    · exact ⟨trivial, hh⟩

theorem Within.runFunction (hh : h.Within P) (f : Function) (hargs : ∀ v ∈ args, v.Within P) :
    Entry.Made P (h.runFunction f args) := by
  unfold Host.runFunction
  split
  · exact ⟨hargs, hh⟩
  · split
    · rename_i a ha
      exact Entry.within_ofAnswer
        (FunctionRoutine.within_run _ hh (Args.within_of_parse hargs a ha))
    · exact ⟨trivial, hh⟩

theorem Within.setUp (hh : h.Within P) (t : TypeObject) (ref : Ref)
    (hargs : ∀ v ∈ args, v.Within P) : Entry.Made P (h.setUp t ref args) := by
  unfold Host.setUp
  split
  · exact hh.runMethod _ (.plain rfl) hargs
  · -- A slot may have changed the instance even if it fails.
    split
    · rename_i slot _
      have hinstance :
          (h.apply (.object ref (slot.run h.store (h.store.instanceAt ref) args).2)).Within P :=
        hh.apply (slot.within_run h.store (hh.store.instances ref) hargs)
      dsimp only
      split
      · exact ⟨.plain rfl, hinstance⟩
      · exact ⟨trivial, hinstance⟩
    · split
      · exact ⟨trivial, hh⟩
      · exact ⟨.plain rfl, hh⟩

end Host

end ObjectProtocol
