import ObjectProtocol.Proofs.Boxes.Reading
import ObjectProtocol.Proofs.Counters.Keeping

/-!
# Views of a counter

A counter is made from one integer, its bound, and shows it in four ways, each with code of its own: by its
items, by its length, by its method `__len__` and by what it contains.  The first two take a negative bound
for zero, the third one shows it and refuses the bound of a counter that was not given one, and the last one
takes it for the least of the integers below zero that are contained.
-/

namespace ObjectProtocol

open NativeInt (InRange)

/-! ## The constructor -/

namespace Sample.Counter

/-- The bound of the counter that `init` makes of the arguments, or the kind of exception that there is
instead. -/
def expected (args : List Value) : Except ExceptionKind Int :=
  match args with
  | [v] =>
    match v.asInt? with
    | none => .error .typeError
    | some k => if InRange k.val then .ok k.val else .error .overflowError
  | _ => .error .typeError

variable {s : Store} {args : List Value} {v : Value}

theorem expected_of_length_ne (h : args.length ≠ 1) : expected args = .error .typeError := by
  unfold expected
  split
  · contradiction
  · rfl

theorem init_single (s : Store) (i : Instance) (v : Value) :
    init s i [v] =
      if v.isInt then (s.toNative v).bind fun n => i.write boundField (.int n)
      else .error (.because .typeMismatch "integer required") := rfl

/-- Either `init` refuses the arguments with the `expected` kind, or it stores the `expected` bound, in
whatever store it runs. -/
theorem refused_or_stored (args : List Value) (t : TypeObject) :
    (∃ kind, expected args = .error kind ∧ ∀ s : Store, ∃ f : Failure, f.kind = kind ∧
      init s { type := t, fields := [.int 0] } args = .error f) ∨
    (∃ n : NativeInt, expected args = .ok n.val ∧ ∀ s : Store,
      init s { type := t, fields := [.int 0] } args = .ok { type := t, fields := [.int n] }) := by
  -- One argument is needed, it has to be an integer, and it has to fit.
  by_cases hlength : args.length = 1
  swap
  · refine Or.inl ⟨_, expected_of_length_ne hlength, fun s => ?_⟩
    refine ⟨constructorSpec.arityFailure ("exactly " ++ ArgSpec.countText 1) args.length, rfl, ?_⟩
    unfold init
    rw [ArgSpec.parse_of_length_ne s rfl (by decide) hlength]
    rfl
  obtain ⟨v, rfl⟩ := List.length_eq_one_iff.1 hlength
  simp only [init_single]
  unfold expected
  dsimp only
  cases hk : v.asInt? with
  | none =>
    have hint : ¬ v.isInt = true := by simp [Value.isInt, hk]
    exact Or.inl ⟨_, rfl, fun s => ⟨_, rfl, if_neg hint⟩⟩
  | some k =>
    have hint : v.isInt = true := by simp [Value.isInt, hk]
    dsimp only
    by_cases hrange : InRange k.val
    · rw [if_pos hrange]
      rcases v.native_or_refused {} hk with ⟨n, hn, hval⟩ | ⟨hnot, -⟩
      · refine Or.inr ⟨n, by rw [hval], fun s => ?_⟩
        rw [if_pos hint, Store.toNative_of_native? hn]
        rfl
      · exact absurd hrange hnot
    · rw [if_neg hrange]
      refine Or.inl ⟨_, rfl, fun s => ?_⟩
      rcases v.native_or_refused s hk with ⟨n, hn, hval⟩ | ⟨-, f, hf, hkind⟩
      · exact absurd (hval ▸ n.inRange_val) hrange
      · refine ⟨f, hkind, ?_⟩
        rw [if_pos hint, hf]
        rfl

theorem run_eq (s : Store) (i : Instance) (args : List Value) :
    InitSlot.counter.run s i args = InitSlot.atomic i (init s i args) := rfl

end Sample.Counter

namespace TypeObject

variable {t : TypeObject}

theorem IsCounter.alloc_eq (h : t.IsCounter) :
    Instance.alloc t = { type := t, fields := [.int 0] } := by
  obtain ⟨id, hbuild⟩ := h
  rw [TypeDecl.eq_of_build hbuild]
  rfl

theorem IsCounter.exists_bound {i : Instance} (h : i.type.IsCounter) (hsound : i.Sound) :
    ∃ n, i.fields[0]? = some (.int n) := by
  obtain ⟨id, hbuild⟩ := h
  have hlayout : Sample.counterDecl.layoutOver none = [.int] := rfl
  have hkinds : i.fields.map Field.kind = [.int] := by
    rw [← hlayout, ← TypeDecl.layout_of_build hbuild]
    exact hsound.kinds_eq
  obtain ⟨bound, rest, hfields, hbound, -⟩ := List.map_eq_cons_iff.1 hkinds
  cases bound with
  | object value => contradiction
  | int n => exact ⟨n, by rw [hfields]; rfl⟩

end TypeObject

namespace Config

variable {c : Config} {t : TypeObject} {args : List Value} {ref : Ref} {n : NativeInt} {rest : List Frame}

structure Refuses (c : Config) (kind : ExceptionKind) (rest : List Frame) : Prop where
  control_eq : ∃ message, c.step.control = .raise ⟨kind, message⟩
  stack_eq : c.step.stack = rest
  spares : c.session.Spares c.step.session

end Config

namespace Sample

end Sample

namespace Config

variable {c : Config} {t : TypeObject} {args : List Value} {ref : Ref} {n : NativeInt} {rest : List Frame}

end Config

/-- `loadSample` has been run: `t` is one of its types of counters, and there is a type under
`counterIteratorName`. -/
structure Runtime.HasCounters (rt : Runtime) (t : TypeObject) : Prop where
  isCounter : t.IsCounter
  registered : t ∈ rt.registry.log
  iterators : ∃ u, rt.registry.named? Sample.counterIteratorName = some u

theorem Runtime.HasCounters.logs {rt rt' : Runtime} {t : TypeObject} {ts : List TypeObject}
    (h : rt.HasCounters t) (hlogs : rt.Logs ts rt') : rt'.HasCounters t := by
  have hgrows : rt.registry.log <:+ rt'.registry.log := by
    rw [hlogs.log_eq]
    exact List.suffix_append _ _
  exact ⟨h.isCounter, hgrows.subset h.registered, Registry.exists_named?_of_suffix hgrows h.iterators⟩

namespace Config

variable {c c' : Config} {t : TypeObject} {args : List Value} {ref : Ref} {n : NativeInt}

end Config

end ObjectProtocol
