import ObjectProtocol.Proofs.Operations.Edits

/-!
# Who writes to a store

Of all operations only those on objects write to what is there; the others make something or register
types, as `Host.Provided` says.  `Descriptor.Writes` and `TypeObject.Initializes` list what a method and
the initialization of an instance write.
-/

namespace ObjectProtocol

variable {W : Store → Edit → Prop}

/-! ## Other operations -/

namespace Host

/-- Nothing is done, a `Sketch` is built, or types are registered. -/
inductive Provided (h : Host) : Host → Prop
  | same : Provided h h
  | build {sketch : Sketch} : sketch.Fresh → Provided h (h.build sketch).2
  | registers {ts : List TypeObject} {h' : Host} : h.Registers ts h' → Provided h h'

variable {h h' : Host} {ts : List TypeObject}

theorem Registers.editedBy (hh : h.Registers ts h') : h.store.EditedBy W h'.store := by
  obtain ⟨id, hid⟩ := hh.store_eq
  have hnext := hh.nextId_le
  rw [hid] at hnext ⊢
  exact .of_nextId hnext

theorem Provided.editedBy (hh : h.Provided h') : h.store.EditedBy W h'.store := by
  cases hh with
  | same => exact .refl
  | build hsketch => exact hsketch.editedBy h.store
  | registers hregisters => exact hregisters.editedBy

theorem Provided.exists_registry (hh : h.Provided h') :
    ∃ registry, h'.runtime = { h.runtime with registry } := by
  cases hh with
  | same | build => exact ⟨_, rfl⟩
  | registers hregisters => exact ⟨_, hregisters.runtime_eq⟩

end Host

def Request.isDirect : Request → Bool
  | measure .. => false
  | value _ | raise _ | call .. | malformed => true

/-- The answer writes to no object and leaves `lingering` as it is. -/
structure Session.Serves (s : Session) (answer : Request × Session) : Prop where
  host : s.host.Provided answer.2.host
  lingering_eq : answer.2.lingering = s.lingering
  isDirect : answer.1.isDirect = true

theorem SessionOp.serves_run (op : SessionOp) (operands : List Value) (s : Session) :
    s.Serves (op.run operands s) := by
  have hidle {r : Request} (hr : r.isDirect = true) : s.Serves (r, s) := ⟨.same, rfl, hr⟩
  have honModule (module : String) {f : Module → Request} (hf : ∀ m, (f m).isDirect = true) :
      s.Serves (onModule s module f) := by
    unfold onModule
    split
    · exact hidle (hf _)
    · exact hidle rfl
  unfold SessionOp.run
  split
  -- Variables
  · split <;> exact hidle rfl
  · exact ⟨.same, rfl, rfl⟩
  · exact ⟨.same, rfl, rfl⟩
  -- Modules: looking into one, describing one, making one
  · refine honModule _ fun m => ?_
    cases m.attr _ <;> rfl
  · exact honModule _ fun m => rfl
  · rename_i module name
    split
    · rename_i m _
      exact ⟨.build (.of_forall_within fun _ => Sketch.within_ofModule m name), rfl, rfl⟩
    · exact hidle rfl
  · split
    · exact ⟨.registers (Session.registers_addExports ‹_›), rfl, rfl⟩
    · exact hidle rfl
  · obtain ⟨ts, hregisters⟩ := s.registers_loadSample
    refine ⟨.registers hregisters, ?_, ?_⟩ <;> unfold Session.loadSample <;> split <;> rfl
  · exact hidle rfl

theorem Session.provided_equip (s : Session) (setup : Setup) :
    s.host.Provided (s.equip setup).host := by
  unfold equip
  split
  · obtain ⟨ts, hregisters⟩ := s.registers_loadSample
    exact .registers hregisters
  · exact .same

theorem Session.instances_equip (s : Session) (setup : Setup) :
    (s.equip setup).host.store.instances = s.host.store.instances :=
  ((s.provided_equip setup).editedBy (W := fun _ _ => False)).instances_eq fun _ _ => False.elim

theorem Host.isDirect_declare (h : Host) (d : TypeDecl Code) (operands : List Value) :
    (h.declare d operands).1.isDirect = true := by
  unfold declare
  dsimp only
  split
  · split <;> rfl
  · split <;> rfl
  · rfl

/-- What `Op.run` writes to objects that exist. -/
inductive Op.Edits (s : Store) : Op Code → List Value → Edit → Prop
  | object {op : ObjectOp} {operands : List Value} {e : Edit} : op.Edits s operands e →
    Edits s (.object op) operands e

theorem DrawOp.store_run (op : DrawOp) (h : Host) : (op.run h).2.store = h.store := by
  cases op <;> rfl

theorem Op.editedBy_run (op : Op Code) (operands : List Value) (s : Session) :
    s.host.store.EditedBy (fun s e => op.Edits s operands e) (op.run operands s).2.host.store := by
  cases op with
  | object op => exact (op.editedBy_run operands s.host.runtime s.host.store).mono fun _ _ => .object
  | draw op =>
    unfold Op.run
    dsimp only
    split
    · rw [op.store_run]
      exact .refl
    · exact .refl
  | declare d => exact (s.host.registers_declare d operands).editedBy
  | closure name body => exact Store.EditedBy.refl.fresh
  | session op => exact (op.serves_run operands s).host.editedBy

/-! ## Calls -/

/-- What the routine of a method writes, run on the instance at `place`. -/
inductive MethodRoutine.Writes (place : Ref) (s : Store) : MethodRoutine → Change → Prop
  | onInstance {r : InstanceRoutine} {a : Args} {answer : Answer × Change} :
    r.run place (s.instanceAt place) a = .ok answer → Writes place s (.onInstance r) answer.2
  | incr {i : Instance} : Sample.Box.incr (s.instanceAt place) = .ok i →
    Writes place s (.box .incr) (.object place i)
  | maybeIncr (policy : MutationPolicy) (n : NativeInt) (faulted : Bool) :
    Writes place s (.box .maybeIncr)
      (.object place (Sample.Box.settle (s.instanceAt place) policy n faulted).2)

/-- What `runMethod` on the receiver writes: only native methods write, to an instance. -/
inductive Descriptor.Writes (d : Descriptor) (s : Store) : Value → Edit → Prop
  | native {place : Ref} {r : MethodRoutine} {c : Change} : d.method.body = .native r →
    r.Writes place s c → Writes d s (.object place) (.change c)

/-- What `setUp` writes to a new instance: by its `__init__` method, or else by its `InitSlot`. -/
inductive TypeObject.Initializes (t : TypeObject) (ref : Ref) (s : Store) : Edit → Prop
  | method {d : Descriptor} {e : Edit} : t.findMethod? "__init__" = some d →
    d.Writes s (.object ref) e → Initializes t ref s e
  | slot (slot : InitSlot) (args : List Value) :
    Initializes t ref s (.change (.object ref (slot.run s (s.instanceAt ref) args).2))

theorem Host.store_answer (h : Host) (x : Except NativeError (Answer × Change)) :
    (h.answer x).2.store = h.store ∨
      ∃ r, x = .ok r ∧ (h.answer x).2.store = h.store.apply r.2 := by
  cases x with
  | ok r => exact Or.inr ⟨r, rfl, rfl⟩
  | error e => exact Or.inl rfl

/-- A native routine makes one `Change` at most, after it has read what it needs. -/
theorem MethodRoutine.store_run (r : MethodRoutine) (h : Host) (place : Ref) (a : Args) :
    (r.run h place a).2.store = h.store ∨
      ∃ c, r.Writes place h.store c ∧ (r.run h place a).2.store = h.store.apply c := by
  cases r with
  | stock | rawLength => exact Or.inl rfl
  | onInstance r =>
    refine (h.store_answer _).imp id ?_
    rintro ⟨answer, hrun, hstore⟩
    cases hresult : r.run place (h.store.instanceAt place) a with
    | error f =>
      rw [hresult] at hrun
      contradiction
    | ok answer' =>
      rw [hresult] at hrun
      cases hrun
      exact ⟨_, .onInstance hresult, hstore⟩
  | box m =>
    cases m with
    | incr =>
      refine (h.store_answer _).imp id ?_
      rintro ⟨answer, hrun, hstore⟩
      cases hresult : Sample.Box.incr (h.store.instanceAt place) with
      | error f =>
        rw [hresult] at hrun
        contradiction
      | ok i =>
        rw [hresult] at hrun
        cases hrun
        exact ⟨_, .incr hresult, hstore⟩
    | maybeIncr =>
      unfold run BoxMethod.run Sample.Box.maybeIncr
      dsimp only
      split
      · exact Or.inl rfl
      · exact Or.inr ⟨_, .maybeIncr _ _ _, rfl⟩
    -- The other box methods only read.
    | getContents | getCounter | getData | brokenGetData | getDataDict | callback => exact Or.inl rfl

theorem FunctionRoutine.store_run (r : FunctionRoutine) (h : Host) (a : Args) :
    (r.run h a).2.store = h.store := by
  cases r with
  | stock r => rfl
  | sample f =>
    cases f with
    | randomFail =>
      unfold run SampleFunction.run
      dsimp only
      split <;> rfl
    | _ => rfl

theorem Entry.editedBy_ofAnswer {r : Except NativeError Answer × Host}
    (hfresh : Yields Answer.Fresh r.1) : r.2.store.EditedBy W (ofAnswer r).2.store := by
  obtain ⟨answer | answer, h⟩ := r
  · exact .refl
  · cases answer with
    | value sketch => exact Sketch.Fresh.editedBy (hfresh _ rfl) h.store
    | call target args => exact .refl

namespace Host

theorem editedBy_runMethod (h : Host) (d : Descriptor) (receiver : Value) (args : List Value) :
    h.store.EditedBy (fun s e => d.Writes s receiver e) (h.runMethod d receiver args).2.store := by
  unfold runMethod
  split
  · rename_i routine hbody
    split
    · rename_i place
      split
      · rename_i a _
        have hanswer := Entry.editedBy_ofAnswer (W := fun s e => d.Writes s (.object place) e)
          (routine.fresh_run h place a)
        refine .trans ?_ hanswer
        rcases routine.store_run h place a with heq | ⟨c, hwrites, heq⟩
        · rw [heq]
          exact .refl
        · rw [heq]
          exact .change (.native hbody hwrites)
      · exact .refl
    · exact .refl
  · -- The body is host code: it is entered, and writes nothing yet.
    split <;> exact .refl

theorem editedBy_runFunction (h : Host) (f : Function) (args : List Value) :
    h.store.EditedBy W (h.runFunction f args).2.store := by
  unfold runFunction
  split
  · exact .refl
  · rename_i routine _
    split
    · rename_i a _
      have hanswer := Entry.editedBy_ofAnswer (W := W) (routine.fresh_run h a)
      rwa [routine.store_run] at hanswer
    · exact .refl

theorem editedBy_setUp (h : Host) (t : TypeObject) (ref : Ref) (args : List Value) :
    h.store.EditedBy (t.Initializes ref) (h.setUp t ref args).2.store := by
  unfold setUp
  split
  · exact (h.editedBy_runMethod _ _ args).mono fun _ _ => .method ‹_›
  · split
    · rename_i slot _
      dsimp only
      have hslot : h.store.EditedBy (t.Initializes ref) (h.store.apply (.object ref _)) :=
        .change (.slot slot args)
      split <;> exact hslot
    · split <;> exact .refl

end Host

end ObjectProtocol
