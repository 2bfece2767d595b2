import ObjectProtocol.Proofs.Exceptions.Handing

/-!
# Where native code fails

Native code runs in many places: functions and methods, the parsing of their arguments, slots, members,
registrations.  `Host.CallFails` and `ObjectOp.Fails` have one case for each of them, and whatever fails
there comes out as `NativeError.toException` of the error.
-/

namespace ObjectProtocol

/-! ## Calls -/

namespace Host

variable {h : Host} {d : Descriptor} {receiver target : Value} {args : List Value} {x : NativeError}
  {t : TypeObject} {ref : Ref}

/-- Running the method ends with a `NativeError`: its arguments do not fit, or its routine fails. Those of
a host method are only counted. -/
inductive MethodFails (h : Host) (d : Descriptor) : Value → List Value → NativeError → Prop
  | arguments {ref : Ref} {args : List Value} {routine : MethodRoutine} {f : Failure} :
    d.method.body = .native routine → d.method.spec.parse h.store args = .error f →
      MethodFails h d (.object ref) args (.failure f)
  | routine {ref : Ref} {args : List Value} {routine : MethodRoutine} {a : Args} {x : NativeError} :
    d.method.body = .native routine → d.method.spec.parse h.store args = .ok a →
      (routine.run h ref a).1 = .error x → MethodFails h d (.object ref) args x
  | count {receiver : Value} {args : List Value} {code : Code} {f : Failure} :
    d.method.body = .host code → d.method.spec.checkArity args.length = .error f →
      MethodFails h d receiver args (.failure f)

theorem entry_of_error {r : Except NativeError Answer × Host} (hr : r.1 = .error x) :
    (Entry.ofAnswer r).1 = .raise x.toException := by
  obtain ⟨answer, h⟩ := r
  dsimp only at hr
  subst hr
  rfl

theorem MethodFails.runMethod (hfails : h.MethodFails d receiver args x) :
    (h.runMethod d receiver args).1 = .raise x.toException := by
  unfold Host.runMethod
  cases hfails with
  | arguments hbody hparse =>
    rw [hbody]
    dsimp only
    rw [hparse]
    rfl
  | routine hbody hparse hrun =>
    rw [hbody]
    dsimp only
    rw [hparse]
    exact entry_of_error hrun
  | count hbody hcount =>
    rw [hbody]
    dsimp only
    rw [hcount]
    rfl

/-- A call of the value ends with a `NativeError` before host code is entered. -/
inductive CallFails (h : Host) : Value → List Value → NativeError → Prop
  | arguments {f : Function} {args : List Value} {spec : ArgSpec} {routine : FunctionRoutine}
      {failure : Failure} :
    f.body = .native spec routine → spec.parse h.store args = .error failure →
      CallFails h (.function f) args (.failure failure)
  | routine {f : Function} {args : List Value} {spec : ArgSpec} {routine : FunctionRoutine}
      {a : Args} {x : NativeError} :
    f.body = .native spec routine → spec.parse h.store args = .ok a →
      (routine.run h a).1 = .error x → CallFails h (.function f) args x
  | method {id : Identity} {receiver : Value} {d : Descriptor} {args : List Value} {x : NativeError} :
    h.MethodFails d receiver args x → CallFails h (.method id receiver d) args x
  /-- The call method of an instance. -/
  | object {ref : Ref} {t : TypeObject} {d : Descriptor} {args : List Value} {x : NativeError} :
    h.store.live (h.store.instanceAt ref).type = .ok t → t.findMethod? "__call__" = some d →
      h.MethodFails d (.object ref) args x → CallFails h (.object ref) args x
  /-- The slot that allocates refuses the arguments. -/
  | allocation {t : TypeObject} {args : List Value} {slot : NewSlot} {f : Failure} :
    t.own.kind ≠ .builtin → t.findSlot? (·.new) = some slot → slot.check h.store args = .error f →
      CallFails h (.type t) args (.failure f)
  | initializer {t : TypeObject} {args : List Value} {d : Descriptor} {x : NativeError} :
    h.refusal? t args = none → t.findMethod? "__init__" = some d →
      (h.newInstance t).2.MethodFails d (.object (h.newInstance t).1) args x →
      CallFails h (.type t) args x
  /-- The slot that initializes fails. -/
  | initialization {t : TypeObject} {args : List Value} {slot : InitSlot} {f : Failure} :
    h.refusal? t args = none → t.findMethod? "__init__" = none →
      t.findSlot? (·.init) = some slot →
      (slot.run (h.newInstance t).2.store
        ((h.newInstance t).2.store.instanceAt (h.newInstance t).1) args).1 = .error f →
      CallFails h (.type t) args (.failure f)

end Host

/-! ## Operations -/

namespace Store

/-- The `ContainsSlot` that decides ends with an error, be it that of the value's own type or one that the
question has been handed on to. -/
inductive ContainsFails (s : Store) (v item : Value) (x : NativeError) : Prop
  | slot {ref : Ref} {t : TypeObject} {slot : ContainsSlot} :
    s.PassesTo TypeObject.asksInside v (.object ref) →
      s.live (s.instanceAt ref).type = .ok t → t.findSlot? (·.contains) = some slot →
      (slot.run s (s.instanceAt ref) item fun inner => s.contains inner item) = .error x →
      ContainsFails s v item x

inductive IterFails (s : Store) (rt : Runtime) (v : Value) (x : NativeError) : Prop
  | slot {ref : Ref} {t : TypeObject} {slot : IterSlot} :
    s.PassesTo TypeObject.iteratesInside v (.object ref) →
      s.live (s.instanceAt ref).type = .ok t → t.findSlot? (·.iter) = some slot →
      (slot.run rt (s.instanceAt ref) fun inner => s.iter rt inner) = .error x →
      IterFails s rt v x

inductive NextFails (s : Store) : Value → Failure → Prop
  | slot {ref : Ref} {t : TypeObject} {slot : NextSlot} {f : Failure} :
    s.live (s.instanceAt ref).type = .ok t → t.findSlot? (·.next) = some slot →
      slot.run (s.instanceAt ref) = .error f → NextFails s (.object ref) f

/-- An iterator fails at the first advance of a `drain`, or at a later one. -/
inductive DrainFails (iterator : Value) (f : Failure) : Nat → Store → Prop
  | now {s : Store} {n : Nat} : s.NextFails iterator f → DrainFails iterator f (n + 1) s
  | later {s : Store} {n : Nat} {v : Value} {change : Change} :
    s.next iterator = .ok (some v, change) → DrainFails iterator f n (s.apply change) →
      DrainFails iterator f (n + 1) s

variable {s : Store} {rt : Runtime} {v item : Value} {x : NativeError} {f : Failure}

theorem ContainsFails.contains_eq (h : s.ContainsFails v item x) :
    s.contains v item = .error x.toException := by
  obtain ⟨hpass, hlive, hslot, hrun⟩ := h
  rw [contains_of_passesTo hpass, contains_object hlive hslot, hrun]
  rfl

theorem IterFails.iter_eq (h : s.IterFails rt v x) : s.iter rt v = .error x.toException := by
  obtain ⟨hpass, hlive, hslot, hrun⟩ := h
  rw [iter_of_passesTo hpass, iter_object hlive hslot, hrun]
  rfl

theorem NextFails.next_eq (h : s.NextFails v f) : s.next v = .error f.toException := by
  cases h with
  | slot hlive hslot hrun =>
    unfold next
    dsimp only
    rw [hlive]
    dsimp only
    rw [hslot]
    dsimp only
    rw [hrun]

theorem DrainFails.drain_eq {n : Nat} (h : DrainFails v f n s) (taken : Array Value) :
    (s.drain v taken n).1 = .error f.toException := by
  induction h generalizing taken with
  | now hnext =>
    unfold drain
    rw [hnext.next_eq]
  | later hnext _ ih =>
    unfold drain
    rw [hnext]
    exact ih _

end Store

/-- An operation on objects runs native code that ends with a `NativeError`. -/
inductive ObjectOp.Fails (rt : Runtime) (s : Store) : ObjectOp → List Value → NativeError → Prop
  | get {ref : Ref} {t : TypeObject} {name : String} {m : Member} {f : Failure} :
    s.live (s.instanceAt ref).type = .ok t →
      (s.instanceAt ref).attribute? name = some (.member m) →
      m.get (s.instanceAt ref) = .error f → Fails rt s (.getAttr name) [.object ref] (.failure f)
  | getCallee {ref : Ref} {t : TypeObject} {name : String} {m : Member} {f : Failure}
      {args : List Value} :
    s.live (s.instanceAt ref).type = .ok t →
      (s.instanceAt ref).attribute? name = some (.member m) →
      m.get (s.instanceAt ref) = .error f →
      Fails rt s (.callMethod name) (.object ref :: args) (.failure f)
  | set {ref : Ref} {t : TypeObject} {name : String} {m : Member} {v : Value} {f : Failure} :
    s.live (s.instanceAt ref).type = .ok t → t.findMember? name = some m →
      m.set s (s.instanceAt ref) v = .error f →
      Fails rt s (.setAttr name) [.object ref, v] (.failure f)
  | delete {ref : Ref} {t : TypeObject} {name : String} {m : Member} {f : Failure} :
    s.live (s.instanceAt ref).type = .ok t → t.findMember? name = some m →
      m.delete (s.instanceAt ref) = .error f →
      Fails rt s (.delAttr name) [.object ref] (.failure f)
  | memberGet {ref : Ref} {m : Member} {f : Failure} : m.get (s.instanceAt ref) = .error f →
    Fails rt s (.memberGet m) [.object ref] (.failure f)
  | memberSet {ref : Ref} {m : Member} {v : Value} {f : Failure} :
    m.set s (s.instanceAt ref) v = .error f →
      Fails rt s (.memberSet m) [.object ref, v] (.failure f)
  | memberDelete {ref : Ref} {m : Member} {f : Failure} :
    m.delete (s.instanceAt ref) = .error f →
      Fails rt s (.memberDelete m) [.object ref] (.failure f)
  | length {ref : Ref} {t : TypeObject} {slot : LengthSlot} {f : Failure} :
    s.live (s.instanceAt ref).type = .ok t → t.findSlot? (·.length) = some slot →
      slot.run (s.instanceAt ref) = .error f → Fails rt s .len [.object ref] (.failure f)
  | contains {v item : Value} {x : NativeError} : s.ContainsFails v item x →
    Fails rt s .contains [v, item] x
  | iter {v : Value} {x : NativeError} : s.IterFails rt v x → Fails rt s .iter [v] x
  | next {v : Value} {f : Failure} : s.NextFails v f → Fails rt s .next [v] (.failure f)
  | nextOrRaise {v : Value} {f : Failure} : s.NextFails v f →
    Fails rt s .nextOrRaise [v] (.failure f)
  /-- The end of a sequence is a failure without a reason where the end is not expected. -/
  | exhausted {v : Value} {change : Change} : s.next v = .ok (none, change) →
    Fails rt s .nextOrRaise [v] (.failure .exhausted)
  | collectIter {v : Value} {x : NativeError} : s.IterFails rt v x → Fails rt s .collect [v] x
  | collectNext {v : Value} {sketch : Sketch} {f : Failure} : s.iter rt v = .ok sketch →
    Store.DrainFails (sketch.build s).1 f ((sketch.build s).2.pending (sketch.build s).1 + 1)
      (sketch.build s).2 → Fails rt s .collect [v] (.failure f)

namespace Store

variable {s : Store} {ref : Ref} {t : TypeObject} {name : String} {m : Member} {f : Failure}

theorem getAttr_of_get_error (hlive : s.live (s.instanceAt ref).type = .ok t)
    (h : (s.instanceAt ref).attribute? name = some (.member m))
    (hget : m.get (s.instanceAt ref) = .error f) :
    s.getAttr (.object ref) name = .error f.toException := by
  unfold getAttr
  dsimp only
  rw [hlive, h]
  dsimp only
  rw [hget]

end Store

theorem ObjectOp.Fails.run_eq {rt : Runtime} {s : Store} {op : ObjectOp} {operands : List Value}
    {x : NativeError} (h : op.Fails rt s operands x) :
    (op.run operands rt s).1 = .raise x.toException := by
  cases h with
  | get hlive hattribute hget =>
    unfold run
    dsimp only
    rw [Store.getAttr_of_get_error hlive hattribute hget]
    rfl
  | getCallee hlive hattribute hget =>
    unfold run
    dsimp only
    rw [Store.getAttr_of_get_error hlive hattribute hget]
    rfl
  -- An attribute fails where its member does, once type and member have been found.
  | set hlive hfind hset =>
    unfold run Store.setAttr
    dsimp only
    rw [hlive]
    dsimp only
    rw [hfind]
    dsimp only
    rw [hset]
    rfl
  | delete hlive hfind hdelete =>
    unfold run Store.delAttr
    dsimp only
    rw [hlive]
    dsimp only
    rw [hfind]
    dsimp only
    rw [hdelete]
    rfl
  | memberGet hget =>
    unfold run onInstance
    dsimp only
    rw [hget]
    rfl
  | memberSet hset =>
    unfold run onInstance
    dsimp only
    rw [hset]
    rfl
  | memberDelete hdelete =>
    unfold run onInstance
    dsimp only
    rw [hdelete]
    rfl
  | length hlive hslot hrun =>
    unfold run Store.measure
    dsimp only
    rw [hlive]
    dsimp only
    rw [hslot]
    dsimp only
    rw [hrun]
    rfl
  | contains hfails =>
    unfold run
    dsimp only
    rw [hfails.contains_eq]
    rfl
  | iter hfails =>
    unfold run
    dsimp only
    rw [hfails.iter_eq]
    rfl
  | next hfails =>
    unfold run
    dsimp only
    rw [hfails.next_eq]
    rfl
  | nextOrRaise hfails =>
    unfold run
    dsimp only
    rw [hfails.next_eq]
    rfl
  | exhausted hnext =>
    unfold run
    dsimp only
    rw [hnext]
    rfl
  | collectIter hfails =>
    unfold run Store.collect
    dsimp only
    rw [hfails.iter_eq]
  -- The walk has begun, and a later advance fails.
  | collectNext hiter hfails =>
    have hdrain := hfails.drain_eq #[]
    unfold run Store.collect
    dsimp only
    rw [hiter]
    dsimp only
    generalize Store.drain _ _ _ _ = r at hdrain ⊢
    obtain ⟨items, s'⟩ := r
    dsimp only at hdrain
    subst hdrain
    rfl

inductive Session.OperationFails (s : Session) : Op Code → List Value → NativeError → Prop
  | object {op : ObjectOp} {operands : List Value} {x : NativeError} :
    op.Fails s.host.runtime s.host.store operands x → OperationFails s (.object op) operands x
  /-- A length that a method is asked for. -/
  | measured {v : Value} {t : TypeObject} {d : Descriptor} {x : NativeError} :
    s.host.store.measure v = .ok (.byMethod t d) → s.host.MethodFails d v [] x →
      OperationFails s (.object .len) [v] x
  | declare {d : TypeDecl Code} {f : Failure} : d.fault? none = some f →
    OperationFails s (.declare d) [] (.failure f)
  | derive {d : TypeDecl Code} {base : TypeObject} {f : Failure} : d.fault? (some base) = some f →
    OperationFails s (.declare d) [.type base] (.failure f)
  | loadSample {f : Failure} : Sample.load s.host = .error f →
    OperationFails s (.session .loadSample) [] (.failure f)

theorem Host.register_of_fault {h : Host} {d : TypeDecl Code} {base : Option TypeObject}
    {f : Failure} (hfault : d.fault? base = some f) : h.register d base = .error f := by
  unfold register Registry.register TypeDecl.build
  rw [hfault]
  rfl

end ObjectProtocol
