import ObjectProtocol.Proofs.Boxes.Accounting
import ObjectProtocol.Proofs.Boxes.Making
import ObjectProtocol.Proofs.Records.Renderings
import ObjectProtocol.Proofs.Sequences.Reading

/-!
# Reading a box

What a box holds can be read off its two members, asked for by five methods, and had handed to a function.
All of these find the same object and the same number.  Only one of the methods can fail, which wants both to
be integers and says by its exception whether it was the type or the range.  None of them writes anything.
-/

namespace ObjectProtocol

open NativeInt (InRange)

/-! ## What reading leaves alone -/

/-- Instances, iterators, lists and dictionaries are as they were. -/
structure Store.Spares (s s' : Store) : Prop where
  instances_eq : s'.instances = s.instances
  iterators_eq : s'.iterators = s.iterators
  containers : s.KeepsContainers s'

/-- `Store.Spares`, and also variables, modules and the runtime with its generator. -/
structure Session.Spares (s s' : Session) : Prop where
  runtime_eq : s'.host.runtime = s.host.runtime
  globals_eq : s'.globals = s.globals
  modules_eq : s'.modules = s.modules
  store : s.host.store.Spares s'.host.store

theorem Store.Spares.trans {s s' s'' : Store} (h : s.Spares s') (h' : s'.Spares s'') : s.Spares s'' :=
  ⟨h'.instances_eq.trans h.instances_eq, h'.iterators_eq.trans h.iterators_eq,
    h.containers.trans h'.containers⟩

theorem Session.Spares.trans {s s' s'' : Session} (h : s.Spares s') (h' : s'.Spares s'') : s.Spares s'' :=
  ⟨h'.runtime_eq.trans h.runtime_eq, h'.globals_eq.trans h.globals_eq, h'.modules_eq.trans h.modules_eq,
    h.store.trans h'.store⟩

theorem Session.Spares.undisturbed {s s' : Session} (h : s.Spares s') : s.Undisturbed s' :=
  ⟨h.globals_eq, h.store.instances_eq, congrArg (·.registry.log) h.runtime_eq⟩

section

variable {c c' : Config}

theorem Session.Spares.depth_eq (h : c.session.Spares c'.session) : c'.depth = c.depth :=
  congrArg Runtime.depth h.runtime_eq

theorem Session.Spares.limit_eq (h : c.session.Spares c'.session) : c'.limit = c.limit :=
  congrArg (·.options.maxCallDepth) h.runtime_eq

end

theorem Session.ReleasedTo.spares {s s' : Session} (h : s.ReleasedTo s') : s.Spares s' := by
  obtain ⟨released, lingering, rfl⟩ := h
  exact ⟨rfl, rfl, rfl, rfl, rfl, .of_eq rfl rfl⟩

/-! ## Accessors -/

namespace Sample

inductive Accessor
  | contents
  | counter
  | data
  | dataDict
  | brokenData
deriving DecidableEq, Repr

namespace Accessor

def name : Accessor → String
  | contents => "getcontents"
  | counter => "getcounter"
  | data => "getdata"
  | dataDict => "getdatadict"
  | brokenData => "brokengetdata"

def routine : Accessor → BoxMethod
  | contents => .getContents
  | counter => .getCounter
  | data => .getData
  | dataDict => .getDataDict
  | brokenData => .brokenGetData

def method (a : Accessor) : Method Code := ⟨a.name, .empty, .native (.box a.routine)⟩

/-- How each `Accessor` answers for a box with this object and this counter: `brokengetdata` depends on
the object, and the rest give it, the number, or both as a tuple or a dictionary. -/
def Answers (object : Value) (n : NativeInt) (s : Store) (control : Control) : Accessor → Prop
  | contents => control = .give object
  | counter => control = .give (.ofNative n)
  | data => ∃ id, control = .give (.tuple id #[object, .ofNative n])
  | dataDict => ∃ ref, control = .give (.dict ref) ∧
      (s.dictAt ref).keys.toList.map (·.asText?) = [some "contents", some "counter"] ∧
      (s.dictAt ref).entries.toList.map (·.2) = [object, .ofNative n]
  | brokenData =>
    match object.asInt? with
    | none => ∃ message, control = .raise ⟨.typeError, message⟩
    | some k =>
      if InRange k.val then
        ∃ (m : NativeInt) (id : Identity), m.val = k.val ∧
          control = .give (.tuple id #[.ofNative m, .ofNative n]) ∧
          ∀ (t : Store) (id' : Identity),
            t.equal (.tuple id #[.ofNative m, .ofNative n]) (.tuple id' #[object, .ofNative n]) = true
      else ∃ message, control = .raise ⟨.overflowError, message⟩

end Accessor

namespace Box

def pair (object : Value) (n : NativeInt) : Record :=
  ⟨[("contents", object), ("counter", .ofNative n)]⟩

variable {i : Instance} {object : Value} {n : NativeInt}

theorem record_eq (hobject : contents i = .ok object) (hn : counter i = .ok n) :
    record i = .ok (pair object n) := by
  unfold record
  rw [hobject, hn]
  rfl

/-- `Record.typedTuple` on a `pair` asks for the object to be an integer that fits. -/
theorem typedTuple_pair (s : Store) (object : Value) (n : NativeInt) :
    (pair object n).typedTuple s [.int, .int] =
      (s.toNative object).map fun m => .tupleOf #[.ofNative m, .ofNative n] := by
  have hcounter : s.toNative (.ofNative n) = .ok n :=
    Store.toNative_of_native? (HostInt.toNative?_toHost n)
  have hlength : [Param.int, .int].length = (pair object n).size := rfl
  unfold Record.typedTuple Record.typedValues
  rw [if_pos hlength, pair]
  simp only [Record.convertAll, Record.convert, hcounter]
  cases s.toNative object <;> rfl

end Box

end Sample

/-! ## The methods at work -/

section Accessors

variable {h : Host} {ref : Ref} {object : Value} {n : NativeInt}

theorem Sample.Box.equal_pair {k : HostInt} {m : NativeInt} (hk : object.asInt? = some k)
    (hm : m.val = k.val) (s : Store) (id id' : Identity) :
    s.equal (.tuple id #[.ofNative m, .ofNative n]) (.tuple id' #[object, .ofNative n]) = true := by
  obtain rfl : k = m.toHost := HostInt.ext hm.symm
  have hkey : object.key? = some (.number m.toHost) := Value.key?_of_asInt? hk
  have hleft : (Value.tuple id #[.ofNative m, .ofNative n]).key?
      = some (.tuple [.number m.toHost, .number n.toHost]) := rfl
  have hright : (Value.tuple id' #[object, .ofNative n]).key?
      = some (.tuple [.number m.toHost, .number n.toHost]) := by
    simp [Value.key?, Value.rowKey?, Value.allKeys?, hkey, Value.ofNative]
  exact (s.equal_iff_key? (Option.isSome_of_eq_some hleft) (Value.isFloatFree_of_key? _ hright)).2
    (hright.trans hleft.symm)

theorem Host.exists_runMethod_brokenData (hobject : Sample.Box.contents (h.store.instanceAt ref) = .ok object)
    (hn : Sample.Box.counter (h.store.instanceAt ref) = .ok n) (owner : Identity) :
    ∃ entry store, h.runMethod ⟨owner, Sample.Accessor.brokenData.method⟩ (.object ref) [] =
        (entry, ⟨h.runtime, store⟩) ∧ entry.control.isOutcome = true ∧
      Sample.Accessor.brokenData.Answers object n store entry.control ∧ h.store.Spares store := by
  have hrun : h.runMethod ⟨owner, Sample.Accessor.brokenData.method⟩ (.object ref) [] =
      Entry.ofAnswer ((failing ((Sample.Box.record (h.store.instanceAt ref)).bind
        fun r => r.typedTuple h.store [.int, .int])).map .value, h) := rfl
  rw [hrun, Sample.Box.record_eq hobject hn]
  dsimp only [Except.bind]
  rw [Sample.Box.typedTuple_pair]
  have hsame : h.store.Spares h.store := ⟨rfl, rfl, .refl _⟩
  unfold Sample.Accessor.Answers
  dsimp only
  -- The counter always fits, so only the object at the first place can fail.
  cases hk : object.asInt? with
  | none =>
    obtain ⟨f, hf, hkind⟩ := object.refused_of_asInt?_eq_none h.store hk
    rw [hf, ← hkind]
    exact ⟨_, h.store, rfl, rfl, ⟨f.toException.message, rfl⟩, hsame⟩
  | some k =>
    dsimp only
    rcases object.native_or_refused h.store hk with ⟨m, hm, hval⟩ | ⟨hrange, f, hf, hkind⟩
    · rw [Store.toNative_of_native? hm]
      refine ⟨_, _, rfl, rfl, ?_, ⟨rfl, rfl, .of_eq rfl rfl⟩⟩
      rw [if_pos (hval ▸ m.inRange_val)]
      exact ⟨m, _, hval, rfl, fun t id' => Sample.Box.equal_pair hk hval t _ id'⟩
    · rw [hf]
      refine ⟨_, h.store, rfl, rfl, ?_, hsame⟩
      rw [if_neg hrange, ← hkind]
      exact ⟨f.toException.message, rfl⟩

/-- `runMethod` of an accessor ends at once, and leaves everything as it was. -/
theorem Host.exists_runMethod_accessor (hobject : Sample.Box.contents (h.store.instanceAt ref) = .ok object)
    (hn : Sample.Box.counter (h.store.instanceAt ref) = .ok n) (a : Sample.Accessor) (owner : Identity) :
    ∃ entry store, h.runMethod ⟨owner, a.method⟩ (.object ref) [] = (entry, ⟨h.runtime, store⟩) ∧
      entry.control.isOutcome = true ∧ a.Answers object n store entry.control ∧
      h.store.Spares store := by
  have hrecord := Sample.Box.record_eq hobject hn
  cases a with
  | brokenData => exact exists_runMethod_brokenData hobject hn owner
  | contents =>
    have hrun : h.runMethod ⟨owner, Sample.Accessor.contents.method⟩ (.object ref) [] =
        Entry.ofAnswer ((failing (Sample.Box.contents (h.store.instanceAt ref))).map .given, h) := rfl
    rw [hrun, hobject]
    exact ⟨_, h.store, rfl, rfl, rfl, rfl, rfl, .refl _⟩
  | counter =>
    have hrun : h.runMethod ⟨owner, Sample.Accessor.counter.method⟩ (.object ref) [] =
        Entry.ofAnswer ((failing (Sample.Box.counter (h.store.instanceAt ref))).map .int, h) := rfl
    rw [hrun, hn]
    exact ⟨_, h.store, rfl, rfl, rfl, rfl, rfl, .refl _⟩
  | data =>
    have hrun : h.runMethod ⟨owner, Sample.Accessor.data.method⟩ (.object ref) [] =
        Entry.ofAnswer ((failing (Sample.Box.record (h.store.instanceAt ref))).map
          fun r => .value r.toTuple, h) := rfl
    rw [hrun, hrecord]
    exact ⟨_, _, rfl, rfl, ⟨_, rfl⟩, rfl, rfl, .of_eq rfl rfl⟩
  -- The names of the pair are distinct, so every field gets an entry of its own.
  | dataDict =>
    have hrun : h.runMethod ⟨owner, Sample.Accessor.dataDict.method⟩ (.object ref) [] =
        Entry.ofAnswer ((failing (Sample.Box.record (h.store.instanceAt ref))).map
          fun r => .value r.toDict, h) := rfl
    have hnames : ((Sample.Box.pair object n).fields.map (·.1)).Nodup := by
      show ["contents", "counter"].Nodup
      decide
    obtain ⟨made, store, hbuild, hmaps⟩ := (Sample.Box.pair object n).exists_build_toDict hnames h.store
    have hspares : h.store.Spares ((Sample.Box.pair object n).toDict.build h.store).2 :=
      ⟨rfl, rfl, (Record.fresh_toDict _).keepsContainers_build h.store⟩
    rw [hbuild] at hspares
    rw [hrun, hrecord]
    refine ⟨.give (.dict made), store, ?_, rfl, ⟨made, rfl, hmaps.keys, hmaps.values⟩, hspares⟩
    show Entry.ofAnswer (.ok (.value (Sample.Box.pair object n).toDict), h) = _
    unfold Entry.ofAnswer Host.build
    dsimp only
    rw [hbuild]

end Accessors

/-! ## Asked by name -/

namespace TypeObject.IsBox

variable {i : Instance}

theorem attribute?_accessor (h : i.type.IsBox) (a : Sample.Accessor) :
    i.attribute? a.name = some (.method ⟨i.type.id, a.method⟩) := by
  obtain ⟨id, hbuild⟩ := h
  unfold Instance.attribute? Instance.attributeAs?
  rw [TypeDecl.eq_of_build hbuild]
  cases a <;> rfl

theorem attribute?_contents (h : i.type.IsBox) : i.attribute? "contents" =
    some (.member { name := "contents", offset := 0, kind := .object, access := .readOnly }) := by
  obtain ⟨id, hbuild⟩ := h
  refine Instance.attribute?_of_member ?_
  rw [TypeDecl.eq_of_build hbuild]
  rfl

theorem attribute?_counter (h : i.type.IsBox) : i.attribute? "counter" =
    some (.member { name := "counter", offset := 1, kind := .int }) := by
  obtain ⟨id, hbuild⟩ := h
  refine Instance.attribute?_of_member ?_
  rw [TypeDecl.eq_of_build hbuild]
  rfl

end TypeObject.IsBox

namespace Config

variable {c : Config} {ref : Ref} {i : Instance} {object : Value} {n : NativeInt} {rest : List Frame}

theorem spares_ready (c : Config) : c.session.Spares c.ready.session := c.releasedTo_ready.spares

theorem instanceAt_ready (hi : c.session.host.store.instances.get? ref = some i) :
    c.ready.session.host.store.instanceAt ref = i :=
  Store.instanceAt_eq (c.spares_ready.store.instances_eq ▸ hi)

/-- The value of an operation comes next, and `Session.Spares` what was there. -/
structure Gives (c : Config) (v : Value) (rest : List Frame) : Prop where
  control_eq : c.step.control = .give v
  stack_eq : c.step.stack = rest
  spares : c.session.Spares c.step.session

theorem Performs.gives {op : ObjectOp} {operands : List Value} {v : Value}
    (hperforms : c.Performs (.object op) operands rest)
    (hrun : op.run operands c.ready.session.host.runtime c.ready.session.host.store =
      (.value v, c.ready.session.host.store)) : c.Gives v rest := by
  have hstep := hperforms.step_of_value (Op.run_object_of_eq hrun)
  refine ⟨by rw [hstep], by rw [hstep], ?_⟩
  rw [hstep]
  exact c.spares_ready

theorem gives_attribute {name : String} {v : Value}
    (hperforms : c.Performs (.object (.getAttr name)) [.object ref] rest)
    (hget : c.ready.session.host.store.getAttr (.object ref) name = .ok (.given v)) : c.Gives v rest := by
  refine hperforms.gives ?_
  show Request.ofMaking (c.ready.session.host.store.getAttr (.object ref) name) _ = _
  rw [hget]
  rfl

theorem gives_member {name : String} {m : Member} {t : TypeObject} {v : Value}
    (hperforms : c.Performs (.object (.getAttr name)) [.object ref] rest)
    (hlive : c.ready.session.host.store.live (c.ready.session.host.store.instanceAt ref).type = .ok t)
    (hattribute : (c.ready.session.host.store.instanceAt ref).attribute? name = some (.member m))
    (hget : m.get (c.ready.session.host.store.instanceAt ref) = .ok v) : c.Gives v rest :=
  gives_attribute hperforms (Store.getAttr_of_member hlive hattribute hget)

theorem calls_named {name : String} {d : Descriptor} {t : TypeObject} {args : List Value}
    (hperforms : c.Performs (.object (.callMethod name)) (.object ref :: args) rest)
    (hlive : c.ready.session.host.store.live (c.ready.session.host.store.instanceAt ref).type = .ok t)
    (hattribute : (c.ready.session.host.store.instanceAt ref).attribute? name = some (.method d)) :
    ∃ id, c.step.control = .call (.method id (.object ref) d) args ∧ c.step.stack = rest ∧
      c.session.Spares c.step.session := by
  have hstep := hperforms.step_of_callMethod (Store.getAttr_of_method hlive hattribute)
  refine ⟨_, by rw [hstep], by rw [hstep], ?_⟩
  rw [hstep]
  exact c.spares_ready.trans ⟨rfl, rfl, rfl, rfl, rfl, .of_eq rfl rfl⟩

theorem answers_accessor {a : Sample.Accessor} {id owner : Identity}
    (hcontrol : c.control = .call (.method id (.object ref) ⟨owner, a.method⟩) [])
    (hdepth : c.depth < c.limit) (hholds : c.session.BoxHolds ref object n) :
    ∃ c', c.AnsweredBy c' ∧ a.Answers object n c'.session.host.store c'.control ∧
      c.session.Spares c'.session := by
  obtain ⟨hobject, hn⟩ : c.ready.session.BoxHolds ref object n := hholds.undisturbed c.undisturbed_ready
  obtain ⟨entry, store, hrun, hout, hanswers, hspares⟩ :=
    Host.exists_runMethod_accessor (h := c.ready.counted.host) hobject hn a owner
  obtain ⟨c', hanswered, hcontrol', hsession⟩ :=
    exists_answeredBy_of_runMethod hcontrol hdepth hrun hout
  refine ⟨c', hanswered, ?_, c.spares_ready.trans ?_⟩
  · rw [hcontrol', hsession]
    exact hanswers
  · rw [hsession]
    -- What the call has been counted for is taken back.
    exact ⟨rfl, rfl, rfl, hspares⟩

theorem depth_step_of_call {target : Value} {args : List Value} {above : List Frame}
    (hcontrol : c.control = .call target args) (hstack : c.step.stack = above ++ c.stack) :
    c.step.depth = c.depth + activations above := by
  have haccounts : c.Accounts c.stack c.depth := ⟨[], rfl, rfl⟩
  have hbusy : ¬ c.SettledOn c.stack := not_settledOn (Or.inl (by rw [hcontrol]; rfl))
  obtain ⟨taken, hstack', hdepth⟩ := haccounts.step hbusy
  rw [hdepth, List.append_cancel_right (hstack.symm.trans hstack')]

theorem runs_callback {id owner : Identity} {f : Function} {code : Code} (hbody : f.body = .host code)
    (hcontrol : c.control = .call (.method id (.object ref) ⟨owner, callbackMethod⟩) [.function f])
    (hdepth : c.depth + 2 ≤ c.limit) (hholds : c.session.BoxHolds ref object n) :
    (c.after 2).control = .body code ∧ (c.after 2).args = [object, .ofNative n] ∧
      c.session.Undisturbed (c.after 2).session := by
  obtain ⟨kept, hcalled⟩ := moves_of_callback hcontrol (by omega) rfl hholds
  have hroom : c.step.depth < c.step.limit := by
    have hframe : c.step.stack = [.activation kept] ++ c.stack := hcalled.stack_eq
    rw [depth_step_of_call hcontrol hframe, show c.step.limit = c.limit from limit_after c 1]
    exact hdepth
  obtain ⟨hcode, hargs, -, hsession⟩ := step_of_hostFunction hcalled.control_eq hroom hbody
  exact ⟨hcode, hargs, hcalled.session.trans hsession⟩

/-! ## Main result -/

/-- Whichever way the box at `ref` is read, by name and below the limit, `object` and `n` are what is
found. -/
structure ReadsBox (c : Config) (ref : Ref) (object : Value) (n : NativeInt) : Prop where
  contents : ∀ rest, c.Performs (.object (.getAttr "contents")) [.object ref] rest → c.Gives object rest
  counter : ∀ rest, c.Performs (.object (.getAttr "counter")) [.object ref] rest →
    c.Gives (.ofNative n) rest
  accessors : c.depth < c.limit → ∀ (a : Sample.Accessor) (rest : List Frame),
    c.Performs (.object (.callMethod a.name)) [.object ref] rest →
      c.step.stack = rest ∧ ∃ c', c.step.AnsweredBy c' ∧
        a.Answers object n c'.session.host.store c'.control ∧ c.session.Spares c'.session
  callback : c.depth + 2 ≤ c.limit → ∀ (f : Function) (code : Code) (rest : List Frame),
    f.body = .host code → c.Performs (.object (.callMethod "callback")) [.object ref, .function f] rest →
      (c.after 3).control = .body code ∧ (c.after 3).args = [object, .ofNative n] ∧
        c.session.Undisturbed (c.after 3).session

/-- A `Sound` box `ReadsBox` as its fields say, if its type is `live`. -/
theorem readsBox {value : Option Value} (hi : c.session.host.store.instances.get? ref = some i)
    (ht : i.type.IsBox) (hfields : i.fields = [.object value, .int n])
    (hlive : c.ready.session.host.store.live i.type = .ok i.type) :
    c.ReadsBox ref (value.getD .null) n := by
  have hat := instanceAt_ready hi
  have hholds := Session.boxHolds_of_fields hi hfields
  have hlive' := hat.symm ▸ hlive
  refine ⟨fun rest hperforms => ?_, fun rest hperforms => ?_, fun hdepth a rest hperforms => ?_,
    fun hdepth f code rest hbody hperforms => ?_⟩
  · -- The two members read the fields themselves.
    refine gives_member hperforms hlive' (hat.symm ▸ ht.attribute?_contents) ?_
    rw [hat, Member.get, Instance.read, hfields]
    rfl
  · refine gives_member hperforms hlive' (hat.symm ▸ ht.attribute?_counter) ?_
    rw [hat, Member.get, Instance.read, hfields]
    rfl
  · -- An accessor is bound in this step and called in the next.
    obtain ⟨id, hcontrol, hstack, hspares⟩ :=
      calls_named hperforms hlive' (hat.symm ▸ ht.attribute?_accessor a)
    obtain ⟨c', hanswered, hanswers, hspares'⟩ :=
      answers_accessor hcontrol (by rwa [hspares.depth_eq, hspares.limit_eq])
        (hholds.undisturbed hspares.undisturbed)
    exact ⟨hstack, c', hanswered, hanswers, hspares.trans hspares'⟩
  · -- So is `callback`, which goes on with a call of the host function.
    obtain ⟨id, hcontrol, -, hspares⟩ :=
      calls_named hperforms hlive' (hat.symm ▸ ht.attribute?_callback)
    obtain ⟨hcode, hargs, hsession⟩ :=
      runs_callback hbody hcontrol (by rwa [hspares.depth_eq, hspares.limit_eq])
        (hholds.undisturbed hspares.undisturbed)
    rw [after_step] at hcode hargs hsession
    exact ⟨hcode, hargs, hspares.undisturbed.trans hsession⟩

/-- In every `Reachable` configuration all ways of reading a live box agree. Its members give an object
and a number; `getcontents` and `getcounter` give the same ones, `getdata` a tuple of both, and
`getdatadict` both under the names of the members. `brokengetdata` gives an equal tuple if the object is
an integer that fits, raises an `overflowError` if it is one that does not, and a `typeError` if it is
anything else. `callback` runs a host function on both. The reading changes nothing that was there. -/
theorem box_readings_agree {c : Config} (h : c.Reachable) {ref : Ref} {i : Instance}
    (hi : c.session.host.store.instances.get? ref = some i) (ht : i.type.IsBox) :
    ∃ object n, ∀ reader : Config, reader.session = c.session →
      reader.ready.session.host.store.live i.type = .ok i.type → reader.ReadsBox ref object n := by
  have hsound := (h.within.session.host.store.instances ref).sound
  rw [Store.instanceAt_eq hi] at hsound
  obtain ⟨value, n, hfields⟩ := hsound.fields_of_isBox ht
  exact ⟨value.getD .null, n, fun reader hsession hlive => readsBox (hsession ▸ hi) ht hfields hlive⟩

def readingBox (op : ObjectOp) : Config :=
  { control := .give (.object 0)
    stack := [.operand (.object op) [] []]
    session := (boxed .validateThenMutate).session }

theorem performs_readingBox (op : ObjectOp) :
    (readingBox op).Performs (.object op) [.object 0] [] :=
  show (readingBox op).Performs (.object op) [.object 0].reverse [] from .operands rfl rfl

theorem live_readingBox (op : ObjectOp) (t : TypeObject) :
    (readingBox op).ready.session.host.store.live t = .ok t := by
  have hlingering : (readingBox op).session.lingering = [] := rfl
  have hreleased : (readingBox op).session.host.store.released = [] := rfl
  rw [ready_eq hlingering]
  exact Store.live_of_released hreleased t

/-- The box holds `null`, so `brokengetdata` raises a `typeError`. -/
theorem box_readings_agree_boxed :
    ∃ object, (readingBox (.getAttr "contents")).step.control = .give object ∧ object = .null ∧
      ∃ c' message, (readingBox (.callMethod "brokengetdata")).step.AnsweredBy c' ∧
        c'.control = .raise ⟨.typeError, message⟩ ∧
        (readingBox (.callMethod "brokengetdata")).session.Spares c'.session := by
  have hi : (boxed .validateThenMutate).session.host.store.instances.get? 0 =
      some ((boxed .validateThenMutate).session.host.store.instanceAt 0) := rfl
  have ht : ((boxed .validateThenMutate).session.host.store.instanceAt 0).type.IsBox := ⟨12, rfl⟩
  have hfields : ((boxed .validateThenMutate).session.host.store.instanceAt 0).fields =
      [.object (some .null), .int 1] := rfl
  obtain ⟨object, n, hreads⟩ := box_readings_agree (reachable_boxed .validateThenMutate) hi ht
  have hmember := (hreads (readingBox (.getAttr "contents")) rfl (live_readingBox _ _)).contents []
    (performs_readingBox _)
  have hnull := (readsBox (c := readingBox (.getAttr "contents")) hi ht hfields
    (live_readingBox _ _)).contents [] (performs_readingBox _)
  -- The theorem gives some object; that it is `null` is read off the fields.
  obtain rfl : object = .null := Control.give.inj (hmember.control_eq.symm.trans hnull.control_eq)
  have hroom : (readingBox (.callMethod "brokengetdata")).depth
      < (readingBox (.callMethod "brokengetdata")).limit := by decide +kernel
  obtain ⟨-, c', hanswered, ⟨message, hraise⟩, hspares⟩ :=
    (hreads (readingBox (.callMethod "brokengetdata")) rfl (live_readingBox _ _)).accessors hroom
      .brokenData [] (performs_readingBox _)
  exact ⟨_, hmember.control_eq, rfl, c', message, hanswered, hraise, hspares⟩

end Config

end ObjectProtocol
