import ObjectProtocol.Call
import ObjectProtocol.Sequence

/-!
# Like results

Native code that is given an instance reads and writes its fields.  Where it fails the words may name the
type, but the kind of the exception does not depend on it.  So two instances with the same fields are
treated alike by most of it, whatever their types are, and in stores that differ in other instances.
-/

namespace ObjectProtocol

/-! ## Results -/

/-- Both have results, which are related, or both fail, with the same `kind`. -/
inductive Agree {ε α β : Type} (kind : ε → ExceptionKind) (R : α → β → Prop) :
    Except ε α → Except ε β → Prop
  | ok {a : α} {b : β} : R a b → Agree kind R (.ok a) (.ok b)
  | error {e e' : ε} : kind e = kind e' → Agree kind R (.error e) (.error e')

namespace Agree

variable {ε ε' α β α' β' : Type} {kind : ε → ExceptionKind} {kind' : ε' → ExceptionKind}
  {R : α → β → Prop} {R' : α' → β' → Prop} {x : Except ε α} {y : Except ε β}

theorem refl (kind : ε → ExceptionKind) (x : Except ε α) : Agree kind Eq x x := by
  cases x with
  | ok a => exact .ok rfl
  | error e => exact .error rfl

theorem map {f : α → α'} {g : β → β'} (h : Agree kind R x y) (hf : ∀ a b, R a b → R' (f a) (g b)) :
    Agree kind R' (x.map f) (y.map g) := by
  cases h with
  | ok hab => exact .ok (hf _ _ hab)
  | error hkind => exact .error hkind

theorem map_eq {x y : Except ε α} (h : Agree kind Eq x y) (f : α → α') :
    Agree kind Eq (x.map f) (y.map f) := h.map fun _ _ => congrArg f

theorem mapError {f : ε → ε'} (h : Agree kind R x y) (hf : ∀ e, kind' (f e) = kind e) :
    Agree kind' R (x.mapError f) (y.mapError f) := by
  cases h with
  | ok hab => exact .ok hab
  | error hkind => exact .error ((hf _).trans (hkind.trans (hf _).symm))

theorem bind {f : α → Except ε α'} {g : β → Except ε β'} (h : Agree kind R x y)
    (hf : ∀ a b, R a b → Agree kind R' (f a) (g b)) : Agree kind R' (x >>= f) (y >>= g) := by
  cases h with
  | ok hab => exact hf _ _ hab
  | error hkind => exact .error hkind

theorem bind_eq {x y : Except ε α} {f : α → Except ε α'} {g : α → Except ε β'} (h : Agree kind Eq x y)
    (hf : ∀ a, Agree kind R' (f a) (g a)) : Agree kind R' (x >>= f) (y >>= g) := by
  refine h.bind fun a b hab => ?_
  obtain rfl := hab
  exact hf a

theorem cases_eq {x y : Except ε α} (h : Agree kind Eq x y) :
    (∃ a, x = .ok a ∧ y = .ok a) ∨ ∃ e e', x = .error e ∧ y = .error e' ∧ kind e = kind e' := by
  cases h with
  | @ok a b hab => exact Or.inl ⟨a, rfl, congrArg Except.ok hab.symm⟩
  | @error e e' hkind => exact Or.inr ⟨e, e', rfl, rfl, hkind⟩

end Agree

def Failure.kind (f : Failure) : ExceptionKind := f.toException.kind

def NativeError.kind (x : NativeError) : ExceptionKind := x.toException.kind

theorem Agree.failing {α β : Type} {R : α → β → Prop} {x : Except Failure α} {y : Except Failure β}
    (h : Agree Failure.kind R x y) : Agree NativeError.kind R (failing x) (failing y) :=
  h.mapError fun _ => rfl

theorem Agree.toException {α β : Type} {R : α → β → Prop} {x : Except NativeError α}
    {y : Except NativeError β} (h : Agree NativeError.kind R x y) :
    Agree Exception.kind R (x.mapError NativeError.toException) (y.mapError NativeError.toException) :=
  h.mapError fun _ => rfl

/-! ## Arguments

A store is only asked for the names of types, and these are in the words of a failure. -/

theorem Store.agree_toNative (s s' : Store) (v : Value) :
    Agree Failure.kind Eq (s.toNative v) (s'.toNative v) := by
  unfold toNative
  cases v.asInt? with
  | none => exact .error rfl
  | some i => exact .refl _ _

namespace ArgSpec

variable (s s' : Store) (spec : ArgSpec)

theorem agree_narrow (n : Nat) (v : Value) :
    Agree Failure.kind Eq (spec.narrow s n v) (spec.narrow s' n v) := by
  unfold narrow
  dsimp only
  cases spec.paramAt n with
  | any => exact .ok rfl
  | int =>
    dsimp only
    split
    · exact (s.agree_toNative s' v).map_eq some
    · -- The failures name the type of the value in the one store and in the other.
      exact .error rfl
  | str =>
    dsimp only
    split
    · exact .ok rfl
    · exact .error rfl

theorem agree_narrowAll (n : Nat) (args : List Value) :
    Agree Failure.kind Eq (spec.narrowAll s n args) (spec.narrowAll s' n args) := by
  induction args generalizing n with
  | nil => exact .ok rfl
  | cons v rest ih =>
    unfold narrowAll
    rcases (spec.agree_narrow s s' n v).cases_eq with ⟨w, hw, hw'⟩ | ⟨f, f', hf, hf', hkind⟩
    · rw [hw, hw']
      exact (ih (n + 1)).map_eq _
    · rw [hf, hf']
      exact .error hkind

theorem agree_parse (args : List Value) :
    Agree Failure.kind Eq (spec.parse s args) (spec.parse s' args) := by
  unfold parse
  split
  · exact .error rfl
  · exact (spec.agree_narrowAll s s' 0 args).map_eq Args.mk

end ArgSpec

namespace Record

variable (s s' : Store)

theorem agree_convert (name : String) (v : Value) (p : Param) :
    Agree Failure.kind Eq (convert s name v p) (convert s' name v p) := by
  cases p with
  | any => exact .ok rfl
  | int => exact (s.agree_toNative s' v).map_eq Value.ofNative
  | str =>
    unfold convert
    dsimp only
    split
    · exact .ok rfl
    · exact .error rfl

theorem agree_convertAll (fields : List (String × Value)) (format : List Param) :
    Agree Failure.kind Eq (convertAll s fields format) (convertAll s' fields format) := by
  induction fields generalizing format with
  | nil => exact .ok rfl
  | cons field fields ih =>
    obtain ⟨name, v⟩ := field
    cases format with
    | nil => exact .ok rfl
    | cons p format =>
      unfold convertAll
      rcases (agree_convert s s' name v p).cases_eq with ⟨w, hw, hw'⟩ | ⟨f, f', hf, hf', hkind⟩
      · rw [hw, hw']
        exact (ih format).map_eq _
      · rw [hf, hf']
        exact .error hkind

theorem agree_typedTuple (r : Record) (format : List Param) :
    Agree Failure.kind Eq (r.typedTuple s format) (r.typedTuple s' format) := by
  refine Agree.map_eq ?_ _
  unfold typedValues
  split
  · exact agree_convertAll s s' r.fields format
  · exact .error rfl

end Record

/-! ## Fields -/

namespace Instance

def Like (i i' : Instance) : Prop := i.fields = i'.fields

variable {i i' : Instance} {offset : Nat}

theorem Like.read (h : i.Like i') (offset : Nat) :
    Agree Failure.kind Eq (i.read offset) (i'.read offset) := by
  unfold Instance.read
  rw [h]
  cases i'.fields[offset]? with
  | some field => exact .ok rfl
  | none => exact .error rfl

theorem Like.readInt (h : i.Like i') (offset : Nat) :
    Agree Failure.kind Eq (i.readInt offset) (i'.readInt offset) := by
  unfold Instance.readInt
  rcases (h.read offset).cases_eq with ⟨field, hx, hy⟩ | ⟨f, f', hx, hy, hkind⟩
  · rw [hx, hy]
    cases field with
    | int n => exact .ok rfl
    | object value => exact .error rfl
  · rw [hx, hy]
    exact .error hkind

theorem Like.readObject (h : i.Like i') (offset : Nat) :
    Agree Failure.kind Eq (i.readObject offset) (i'.readObject offset) := by
  unfold Instance.readObject
  rcases (h.read offset).cases_eq with ⟨field, hx, hy⟩ | ⟨f, f', hx, hy, hkind⟩
  · rw [hx, hy]
    cases field with
    | object value => exact .ok rfl
    | int n => exact .error rfl
  · rw [hx, hy]
    exact .error hkind

theorem Like.write (h : i.Like i') (offset : Nat) (content : Field) :
    Agree Failure.kind Like (i.write offset content) (i'.write offset content) := by
  unfold Instance.write
  rw [h]
  cases i'.fields[offset]? with
  | none => exact .error rfl
  | some field =>
    dsimp only
    split
    · exact .ok rfl
    · exact .error rfl

end Instance

/-! ## Slots -/

section Slots

variable {i i' : Instance} (h : i.Like i')
include h

theorem LengthSlot.agree_run (slot : LengthSlot) :
    Agree Failure.kind Eq (slot.run i) (slot.run i') := by
  cases slot with
  | int offset => exact h.readInt offset
  | fail => exact .error rfl

theorem ContainsSlot.agree_run (slot : ContainsSlot) (s : Store) (item : Value)
    (inside : Value → Except Exception Bool) :
    Agree NativeError.kind Eq (slot.run s i item inside) (slot.run s i' item inside) := by
  cases slot with
  | equalsObject => exact ((h.readObject 0).bind_eq fun content => .refl _ _).failing
  | equalsInt => exact ((h.readInt 0).bind_eq fun n => .refl _ _).failing
  | inObject => exact (h.readObject 0).failing.bind_eq fun content => .refl _ _
  | counter =>
    exact ((Agree.refl Failure.kind _).bind_eq fun n => (h.readInt 0).bind_eq fun bound =>
      .refl _ _).failing

theorem IterSlot.agree_run (slot : IterSlot) (rt : Runtime)
    (inside : Value → Except Exception Sketch) :
    Agree NativeError.kind Eq (slot.run rt i inside) (slot.run rt i' inside) := by
  cases slot with
  | positions => exact ((h.readInt 0).bind_eq fun bound => .refl _ _).failing
  | ofObject => exact (h.readObject 0).failing.bind_eq fun content => .refl _ _
  | rawObject => exact ((h.readObject 0).bind_eq fun content => .refl _ _).failing
  | counter =>
    unfold IterSlot.run
    dsimp only
    cases rt.registry.named? Sample.counterIteratorName with
    | none => exact .error rfl
    | some t => exact ((h.readInt 0).bind_eq fun bound => .refl _ _).failing

end Slots

theorem NewSlot.agree_check (slot : NewSlot) (s s' : Store) (args : List Value) :
    Agree Failure.kind Eq (slot.check s args) (slot.check s' args) := by
  cases slot with
  | alloc => exact .ok rfl
  | noArguments => exact (ArgSpec.agree_parse s s' _ args).map_eq _
  | failSilently | fail => exact .error rfl
  | box => exact (ArgSpec.agree_parse s s' _ args).bind_eq fun a => .refl _ _

/-! ## The sample types -/

namespace Sample

variable {i i' : Instance} (h : i.Like i')
include h

theorem Box.agree_init (s s' : Store) (args : List Value) :
    Agree Failure.kind Instance.Like (Box.init s i args) (Box.init s' i' args) := by
  refine (ArgSpec.agree_parse s s' _ args).bind_eq fun a => ?_
  refine (Agree.refl _ (a.get 0)).bind_eq fun contents => ?_
  refine (Agree.refl _ (Box.initialCounter a contents)).bind_eq fun counter => ?_
  -- The counter is written to what the first write has left.
  exact (h.write _ _).bind fun j j' hj => hj.write _ _

theorem Counter.agree_init (s s' : Store) (args : List Value) :
    Agree Failure.kind Instance.Like (Counter.init s i args) (Counter.init s' i' args) := by
  refine (ArgSpec.agree_parse s s' _ args).bind_eq fun a => ?_
  refine (Agree.refl _ (a.get 0)).bind_eq fun v => ?_
  split
  · have hextract : Agree Failure.kind Eq (a.extract s 0) (a.extract s' 0) :=
      (Agree.refl _ (a.get 0)).bind_eq fun v => s.agree_toNative s' v
    exact hextract.bind_eq fun bound => h.write _ _
  · exact .error rfl

theorem Box.agree_contents : Agree Failure.kind Eq (Box.contents i) (Box.contents i') :=
  (h.readObject _).map_eq _

theorem Box.agree_counter : Agree Failure.kind Eq (Box.counter i) (Box.counter i') := h.readInt _

theorem Box.agree_record : Agree Failure.kind Eq (Box.record i) (Box.record i') :=
  (agree_contents h).bind_eq fun _ => (agree_counter h).bind_eq fun _ => .refl _ _

theorem Box.agree_incr : Agree Failure.kind Instance.Like (Box.incr i) (Box.incr i') := by
  refine (agree_counter h).bind_eq fun n => ?_
  split
  · exact h.write _ _
  · exact .error rfl

theorem Counter.agree_rawLength :
    Agree Failure.kind Eq (Counter.rawLength i) (Counter.rawLength i') :=
  (h.readInt _).bind_eq fun _ => .refl _ _

end Sample

end ObjectProtocol
