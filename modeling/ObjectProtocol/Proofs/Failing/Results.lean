import ObjectProtocol.Call
import ObjectProtocol.Proofs.Attributes.Fit

/-!
# What fails, and how

A failure is ordinary if the host sees it as something other than a `SystemError`.  `FailsOnly` says of a
result that its error, if it is one, has a property, and goes along the ways in which results are put
together.  Parsing fails in ordinary ways only, and so does whatever only looks at the kinds of values.
-/

namespace ObjectProtocol

/-- The error satisfies `Q`, if there is one. -/
def FailsOnly {ε α : Type} (Q : ε → Prop) (x : Except ε α) : Prop := ∀ e, x = .error e → Q e

namespace FailsOnly

variable {ε ε' α β : Type} {Q : ε → Prop} {R : ε' → Prop} {x : Except ε α}

theorem ok (a : α) : FailsOnly Q (.ok a) := by
  intro e h
  contradiction

theorem error {e : ε} (h : Q e) : FailsOnly Q (.error e : Except ε α) := by
  intro e' heq
  cases heq
  exact h

theorem of_exists (h : ∃ a, x = .ok a) : FailsOnly Q x := by
  obtain ⟨a, rfl⟩ := h
  exact ok a

theorem mono {Q' : ε → Prop} (h : FailsOnly Q x) (hQ : ∀ e, Q e → Q' e) : FailsOnly Q' x :=
  fun e heq => hQ e (h e heq)

theorem map {f : α → β} (h : FailsOnly Q x) : FailsOnly Q (x.map f) := by
  cases x with
  | ok a => exact ok (f a)
  | error e => exact error (h e rfl)

theorem mapError {f : ε → ε'} (h : FailsOnly (fun e => R (f e)) x) :
    FailsOnly R (x.mapError f) := by
  cases x with
  | ok a => exact ok a
  | error e => exact error (h e rfl)

theorem bind {f : α → Except ε β} (h : FailsOnly Q x) (hf : ∀ a, x = .ok a → FailsOnly Q (f a)) :
    FailsOnly Q (x >>= f) := by
  cases x with
  | ok a => exact hf a rfl
  | error e => exact error (h e rfl)

end FailsOnly

/-! ## Ordinary errors -/

def Exception.Ordinary (e : Exception) : Prop := e.kind ≠ .systemError

/-- The host sees the failure as something other than a `systemError`. -/
def Failure.Ordinary (f : Failure) : Prop := f.toException.Ordinary

def NativeError.Ordinary (x : NativeError) : Prop := x.toException.Ordinary

theorem Failure.ordinary_because {code : FailureCode} (h : code ≠ .invariantBroken)
    (reason : String) : (because code reason).Ordinary := kind_because h reason

theorem Store.ordinary_toNative (s : Store) (v : Value) :
    FailsOnly Failure.Ordinary (s.toNative v) := fun _ hf => toNative_error hf

theorem Exception.ordinary_mk {kind : ExceptionKind} (h : kind ≠ .systemError) (message : String) :
    Ordinary ⟨kind, message⟩ := h

/-! ## Parsing -/

namespace ArgSpec

variable {s : Store} {spec : ArgSpec} {args : List Value} {a : Args} {i : Nat}

theorem ordinary_checkArity (spec : ArgSpec) (given : Nat) :
    FailsOnly Failure.Ordinary (spec.checkArity given) := by
  -- All five refusals are the same failure with different words.
  have harity (takes : String) :
      FailsOnly Failure.Ordinary (.error (spec.arityFailure takes given) : Except Failure Unit) :=
    .error (Failure.ordinary_because (by decide) _)
  unfold checkArity
  split
  · exact harity _
  · split
    · exact harity _
    · split
      · exact harity _
      · split
        · split
          · exact harity _
          · exact .ok ()
        · exact .ok ()

theorem ordinary_narrow (s : Store) (spec : ArgSpec) (i : Nat) (v : Value) :
    FailsOnly Failure.Ordinary (spec.narrow s i v) := by
  unfold narrow
  dsimp only
  split
  · exact .ok none
  · split
    · exact .map (s.ordinary_toNative v)
    · exact .error (Failure.ordinary_because (by decide) _)
  · split
    · exact .ok none
    · exact .error (Failure.ordinary_because (by decide) _)

theorem ordinary_narrowAll (s : Store) (spec : ArgSpec) (i : Nat) (args : List Value) :
    FailsOnly Failure.Ordinary (spec.narrowAll s i args) := by
  induction args generalizing i with
  | nil => exact .ok []
  | cons v rest ih =>
    unfold narrowAll
    split
    · rename_i f hf
      exact .error (ordinary_narrow s spec i v f hf)
    · exact .map (ih (i + 1))

theorem ordinary_parse (s : Store) (spec : ArgSpec) (args : List Value) :
    FailsOnly Failure.Ordinary (spec.parse s args) := by
  unfold parse
  split
  · rename_i f hf
    exact .error (spec.ordinary_checkArity _ f hf)
  · exact .map (ordinary_narrowAll s spec 0 args)

end ArgSpec

/-! ## Conversions and answers -/

theorem Record.ordinary_convert (s : Store) (name : String) (v : Value) (p : Param) :
    FailsOnly Failure.Ordinary (convert s name v p) := by
  cases p with
  | any => exact .ok v
  | int => exact .map (s.ordinary_toNative v)
  | str =>
    unfold convert
    dsimp only
    split
    · exact .ok v
    · exact .error (Failure.ordinary_because (by decide) _)

theorem Record.ordinary_convertAll (s : Store) (fields : List (String × Value))
    (format : List Param) : FailsOnly Failure.Ordinary (convertAll s fields format) := by
  induction fields generalizing format with
  | nil => exact .ok []
  | cons field fields ih =>
    obtain ⟨name, v⟩ := field
    cases format with
    | nil => exact .ok []
    | cons p format =>
      unfold convertAll
      split
      · rename_i f hf
        exact .error (ordinary_convert s name v p f hf)
      · exact .map (ih format)

theorem ordinary_ensureCallable (s : Store) (target : Value) :
    FailsOnly Failure.Ordinary (ensureCallable s target) := by
  unfold ensureCallable
  split
  · exact .ok ()
  · exact .error (Failure.ordinary_because (by decide) _)

theorem Host.failsOnly_answer {Q : NativeError → Prop} {x : Except NativeError (Answer × Change)}
    (hx : FailsOnly Q x) (h : Host) : FailsOnly Q (h.answer x).1 := by
  cases x with
  | ok r => exact .ok r.1
  | error e => exact .error (hx e rfl)

theorem InitSlot.failsOnly_atomic {Q : Failure → Prop} {x : Except Failure Instance}
    (hx : FailsOnly Q x) (i : Instance) : FailsOnly Q (atomic i x).1 := by
  cases x with
  | ok j => exact .ok ()
  | error f => exact .error (hx f rfl)

theorem Store.live_of_released {s : Store} (h : s.released = []) (t : TypeObject) :
    s.live t = .ok t := by
  unfold live
  rw [h]
  rfl

theorem Runtime.exists_typeOf (rt : Runtime) {s : Store} (h : s.released = []) (v : Value) :
    ∃ t, rt.typeOf s v = .ok t := by
  cases v with
  | object ref => exact ⟨_, s.live_of_released h _⟩
  | iterator ref => exact ⟨_, s.live_of_released h _⟩
  | _ => exact ⟨_, rfl⟩

end ObjectProtocol
