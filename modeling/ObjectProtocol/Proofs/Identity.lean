import ObjectProtocol.Proofs.Attributes.Agreement
import ObjectProtocol.Proofs.Boxes.Reading

/-!
# Identity

A scalar is identified by its content and an object by its identity or its place, and two values are the
same when the same thing identifies them.  So being the same is symmetric and transitive.  Nothing
identifies a float, though: it is not even the same as itself.  What is stored in a member or in a
dictionary, handed to `id_check` or kept in a box comes back as the value that it was, and so as the same
one whenever it is not a float.
-/

namespace ObjectProtocol

/-! ## What identifies a value -/

inductive Mark
  | null
  | bool (b : Bool)
  | int (i : HostInt)
  | text (id : Identity)
  | tuple (id : Identity)
  | list (ref : Ref)
  | dict (ref : Ref)
  | object (ref : Ref)
  | type (id : Identity)
  | function (id : Identity)
  | method (id : Identity)
  | iterator (ref : Ref)

namespace Value

variable {u v w : Value}

def isFloat : Value → Bool
  | float _ => true
  | _ => false

def mark? : Value → Option Mark
  | null => some .null
  | bool b => some (.bool b)
  | int i => some (.int i)
  | float _ => none
  | str id _ => some (.text id)
  | tuple id _ => some (.tuple id)
  | list ref => some (.list ref)
  | dict ref => some (.dict ref)
  | object ref => some (.object ref)
  | type t => some (.type t.id)
  | function f => some (.function f.id)
  | method id _ _ => some (.method id)
  | iterator ref => some (.iterator ref)

/-- `Value.is` compares marks: floats have none. -/
theorem is_iff : v.is w = true ↔ ∃ m, v.mark? = some m ∧ w.mark? = some m := by
  cases v <;> cases w <;> simp [is, mark?, eq_comm]

theorem is_self_iff : v.is v = true ↔ v.isFloat = false := by
  cases v <;> simp [is, isFloat]

theorem is_symm (h : v.is w = true) : w.is v = true := by
  obtain ⟨m, hv, hw⟩ := is_iff.1 h
  exact is_iff.2 ⟨m, hw, hv⟩

theorem is_trans (h : u.is v = true) (h' : v.is w = true) : u.is w = true := by
  obtain ⟨m, hu, hv⟩ := is_iff.1 h
  obtain ⟨m', hv', hw⟩ := is_iff.1 h'
  rw [hv] at hv'
  cases hv'
  exact is_iff.2 ⟨m, hu, hw⟩

end Value

/-! ## Values that are stored -/

namespace Store

variable {s : Store} {ref : Ref} {name : String} {v : Value} {change : Change}

theorem type_of_setAttr (h : s.setAttr (.object ref) name v = .ok change) :
    ((s.apply change).instanceAt ref).type = (s.instanceAt ref).type := by
  rcases cases_of_setAttr h with ⟨m, j, hm, hj, rfl⟩ | ⟨table, -, -, htable, rfl⟩
  · rw [instanceAt_apply_object (Instance.ne_default_of_findMember? hm)]
    exact (m.sameShape_set s _ v j hj).type_eq
  · rw [instanceAt_apply_object (Instance.ne_default_of_dict htable)]

/-- An object member holds what `setAttr` assigned under its name, even where a method hides it. -/
theorem get_of_setAttr (h : s.setAttr (.object ref) name v = .ok change) {m : Member}
    (hm : (s.instanceAt ref).type.findMember? name = some m) (hkind : m.kind = .object) :
    m.get ((s.apply change).instanceAt ref) = .ok v := by
  rcases cases_of_setAttr h with ⟨m', j, hm', hj, rfl⟩ | ⟨table, hnone, -, -, -⟩
  · rw [hm] at hm'
    cases hm'
    rw [instanceAt_apply_object (Instance.ne_default_of_findMember? hm)]
    exact Member.get_of_set_object hj hkind
  · rw [hm] at hnone
    contradiction

end Store

/-! ## Values that are handed on -/

/-- The `id_check` of the sample module, which answers with its one argument. -/
def Function.IsIdCheck (f : Function) : Prop := f.body = .native .varargs (.sample .idCheck)

namespace Config

variable {c : Config} {ref : Ref} {name : String} {x v : Value} {i : Instance}

theorem exists_answeredBy_idCheck {f : Function} (hf : f.IsIdCheck)
    (hcontrol : c.control = .call (.function f) [x]) (hdepth : c.depth < c.limit) :
    ∃ c', c.AnsweredBy c' ∧ c'.control = .give x ∧ c'.session = c.ready.session := by
  have hrun (h : Host) : h.runFunction f [x] = (.give x, h) := by
    unfold Host.runFunction
    rw [hf]
    rfl
  exact exists_answeredBy_of_enter (f := fun h => h.runFunction f [x]) hcontrol hdepth (fun _ => rfl)
    (hrun c.ready.counted.host) rfl

/-- The next operation finds the instance `i` at `ref`, and its type is `live`. -/
structure FindsInstance (c : Config) (ref : Ref) (i : Instance) : Prop where
  instance_eq : c.ready.session.host.store.instanceAt ref = i
  live : c.ready.session.host.store.live i.type = .ok i.type

/-- `getAttr` under the name reads the value, unless a method of the own type is read there, and so does
the object member that has the name, if there is one. -/
structure Keeps (i : Instance) (ref : Ref) (name : String) (v : Value) : Prop where
  throughMember : ∀ m, i.type.findMember? name = some m → m.kind = .object →
    ∀ (reader : Config) (rest : List Frame), reader.FindsInstance ref i →
      reader.Performs (.object (.memberGet m)) [.object ref] rest → reader.Gives v rest
  throughName : (∀ d, ¬ i.type.Hides name d) → (∀ m, i.type.findMember? name = some m → m.kind = .object) →
    ∀ (reader : Config) (rest : List Frame), reader.FindsInstance ref i →
      reader.Performs (.object (.getAttr name)) [.object ref] rest → reader.Gives v rest

theorem keeps_of_setAttr {s : Store} {change : Change} (hsound : (s.instanceAt ref).Sound)
    (hset : s.setAttr (.object ref) name v = .ok change) :
    Keeps ((s.apply change).instanceAt ref) ref name v := by
  have htype : ((s.apply change).instanceAt ref).type = (s.instanceAt ref).type :=
    Store.type_of_setAttr hset
  constructor
  · -- Through the member itself, which no method of the type can hide.
    intro m hm hkind reader rest hfinds hperforms
    refine hperforms.gives ?_
    have hget : m.get (reader.ready.session.host.store.instanceAt ref) = .ok v := by
      rw [hfinds.instance_eq]
      exact Store.get_of_setAttr hset (htype ▸ hm) hkind
    show Request.ofResult (((m.get _).mapError Failure.toException)) _ = _
    rw [hget]
    rfl
  · -- By the name, as long as `getAttr` does not find a method there.
    intro hvisible hkind reader rest hfinds hperforms
    obtain ⟨hsame, hlive⟩ := hfinds
    rw [htype] at hvisible hkind hlive
    exact gives_attribute hperforms
      ((Store.readsBack_of_setAttr hsound hset hsame hlive).same hvisible hkind)

theorem Performs.keeps_or_raises {rest : List Frame}
    (hperforms : c.Performs (.object (.setAttr name)) [.object ref, v] rest)
    (hsound : (c.ready.session.host.store.instanceAt ref).Sound) :
    (∃ e, c.step.control = .raise e) ∨
      c.step.control = .give .null ∧ Keeps (c.step.session.host.store.instanceAt ref) ref name v := by
  have hrun : ObjectOp.run (.setAttr name) [.object ref, v] c.ready.session.host.runtime
      c.ready.session.host.store = Request.ofChange
        (c.ready.session.host.store.setAttr (.object ref) name v) c.ready.session.host.store := rfl
  cases hset : c.ready.session.host.store.setAttr (.object ref) name v with
  | error e =>
    rw [hset] at hrun
    rw [hperforms.step_of_raise (Op.run_object_of_eq hrun)]
    exact Or.inl ⟨e, rfl⟩
  | ok change =>
    rw [hset] at hrun
    rw [hperforms.step_of_value (Op.run_object_of_eq hrun)]
    exact Or.inr ⟨rfl, keeps_of_setAttr hsound hset⟩

/-- The box at `ref` shows `object` as its contents, and hands it to what it is asked to call. -/
structure HandsContents (c : Config) (ref : Ref) (object : Value) : Prop where
  shown : ∀ rest, c.Performs (.object (.getAttr "contents")) [.object ref] rest → c.Gives object rest
  called : c.depth < c.limit → ∀ (target : Value) (rest : List Frame),
    c.Performs (.object (.callMethod "callback")) [.object ref, target] rest →
      c.step.ready.session.host.store.isCallable target = true →
      ∃ n, (c.after 2).control = .call target [object, .ofNative n]
  run : c.depth + 2 ≤ c.limit → ∀ (f : Function) (code : Code) (rest : List Frame),
    f.body = .host code → c.Performs (.object (.callMethod "callback")) [.object ref, .function f] rest →
      ∃ n, (c.after 3).control = .body code ∧ (c.after 3).args = [object, .ofNative n]

theorem handsContents {value : Option Value} {n : NativeInt}
    (hi : c.session.host.store.instances.get? ref = some i) (ht : i.type.IsBox)
    (hfields : i.fields = [.object value, .int n])
    (hlive : c.ready.session.host.store.live i.type = .ok i.type) :
    c.HandsContents ref (value.getD .null) := by
  have hreads := readsBox hi ht hfields hlive
  have hat := instanceAt_ready hi
  have hholds := Session.boxHolds_of_fields hi hfields
  refine ⟨hreads.contents, fun hdepth target rest hperforms hcallable => ⟨n, ?_⟩,
    fun hdepth f code rest hbody hperforms => ⟨n, ?_⟩⟩
  · -- Any callable target is called next with the object of the box.
    obtain ⟨id, hcontrol, -, hspares⟩ :=
      calls_named hperforms (hat.symm ▸ hlive) (hat.symm ▸ ht.attribute?_callback)
    obtain ⟨kept, hcalled⟩ := moves_of_callback hcontrol
      (by rwa [hspares.depth_eq, hspares.limit_eq]) hcallable (hholds.undisturbed hspares.undisturbed)
    exact hcalled.control_eq
  · obtain ⟨hcode, hargs, -⟩ := hreads.callback hdepth f code rest hbody hperforms
    exact ⟨hcode, hargs⟩

/-! ## Main result -/

/-- `Value.is` is an equivalence of the values that are not floats, and what is handed to `id_check`,
stored in an instance or kept in a box is handed on as it is. -/
structure PreservesIdentity (c : Config) : Prop where
  refl_iff : ∀ v : Value, v.is v = true ↔ v.isFloat = false
  symm : ∀ v w : Value, v.is w = true → w.is v = true
  trans : ∀ u v w : Value, u.is v = true → v.is w = true → u.is w = true
  idCheck : c.depth < c.limit → ∀ (f : Function) (x : Value), f.IsIdCheck →
    c.control = .call (.function f) [x] →
      ∃ c', c.AnsweredBy c' ∧ c'.control = .give x ∧ c'.session = c.ready.session
  stored : ∀ (ref : Ref) (name : String) (v : Value) (rest : List Frame),
    c.Performs (.object (.setAttr name)) [.object ref, v] rest →
      (∃ e, c.step.control = .raise e) ∨
        c.step.control = .give .null ∧ Keeps (c.step.session.host.store.instanceAt ref) ref name v
  boxed : ∀ (ref : Ref) (i : Instance), c.session.host.store.instances.get? ref = some i → i.type.IsBox →
    ∃ object, ∀ reader : Config, reader.session = c.session →
      reader.ready.session.host.store.live i.type = .ok i.type → reader.HandsContents ref object

/-- Every `Reachable` configuration `PreservesIdentity`: the values for which `v.is v` fails are the
floats. -/
theorem preservesIdentity (h : c.Reachable) : c.PreservesIdentity where
  refl_iff _ := Value.is_self_iff
  symm _ _ := Value.is_symm
  trans _ _ _ := Value.is_trans
  idCheck hdepth _ _ hf hcontrol := exists_answeredBy_idCheck hf hcontrol hdepth
  stored ref _ _ _ hperforms :=
    hperforms.keeps_or_raises (h.within.ready.session.host.store.instances ref).sound
  boxed ref i hi ht := by
    have hsound := (h.within.session.host.store.instances ref).sound
    rw [Store.instanceAt_eq hi] at hsound
    obtain ⟨value, n, hfields⟩ := hsound.fields_of_isBox ht
    exact ⟨value.getD .null, fun reader hsession hlive => handsContents (hsession ▸ hi) ht hfields hlive⟩

/-- Evaluates `id_check` of a float. -/
def checking (x : Float) : Config :=
  { control := .eval
      (.apply (.object .call) [.apply (.session (.moduleAttr "basic" "id_check")) [], .float x])
    session := .ofSetup {} }

def checked (x : Float) : Config := (checking x).after 5

/-- `id_check` gives `1.5` back, and that is not the same as what was handed over. -/
theorem preservesIdentity_checked :
    ∃ c', (checked 1.5).AnsweredBy c' ∧ c'.control = .give (.float 1.5) ∧
      (Value.float 1.5).is (.float 1.5) = false := by
  obtain ⟨f, hcontrol, hf⟩ : ∃ f : Function,
      (checked 1.5).control = .call (.function f) [.float 1.5] ∧ f.IsIdCheck := ⟨_, rfl, rfl⟩
  have hreachable : (checked 1.5).Reachable := (Reachable.start _ _).after 5
  have hpreserves := preservesIdentity hreachable
  obtain ⟨c', hanswered, hgive, -⟩ := hpreserves.idCheck (by decide +kernel) f _ hf hcontrol
  refine ⟨c', hanswered, hgive, ?_⟩
  rw [← Bool.not_eq_true, hpreserves.refl_iff]
  decide

end Config

end ObjectProtocol
