import Mathlib.Data.List.Infix
import ObjectProtocol.Proofs.Failing.Calls
import ObjectProtocol.Proofs.Sample.Failures
import ObjectProtocol.Proofs.Types.Released

/-!
# Who says that a type was released

The notice that a type was released is an exception like any other, and native code that is told so can
raise it.  Otherwise only asking for a type raises it: the failures of native code have other categories
or texts that begin differently.
-/

namespace ObjectProtocol

/-! ## Notices -/

/-- The exception is not `TypeObject.gone` of any type. -/
def Exception.NotGone (e : Exception) : Prop := ∀ t : TypeObject, e ≠ t.gone

def Failure.NotGone (f : Failure) : Prop := f.toException.NotGone

def NativeError.NotGone (x : NativeError) : Prop := x.toException.NotGone

/-- Neither text begins with the other. -/
def Clash (p q : String) : Prop := ¬ p.toList <+: q.toList ∧ ¬ q.toList <+: p.toList

instance (p q : String) : Decidable (Clash p q) :=
  inferInstanceAs (Decidable (¬ p.toList <+: q.toList ∧ ¬ q.toList <+: p.toList))

theorem Exception.Ordinary.notGone {e : Exception} (h : e.Ordinary) : e.NotGone := by
  rintro t rfl
  exact h rfl

theorem Exception.notGone_of_prefix {e : Exception} (p : String) (h : p.toList <+: e.message.toList)
    (hp : Clash p "type '") : e.NotGone := by
  rintro t rfl
  have hbegins : "type '".toList <+: t.gone.message.toList := by
    unfold TypeObject.gone
    simp [String.toList_append]
  rcases List.prefix_or_prefix_of_prefix h hbegins with hprefix | hprefix
  · exact hp.1 hprefix
  · exact hp.2 hprefix

namespace Failure

theorem Ordinary.notGone {f : Failure} (h : f.Ordinary) : f.NotGone := Exception.Ordinary.notGone h

theorem notGone_because (code : FailureCode) {reason : String} (p : String)
    (h : p.toList <+: reason.toList) (hp : Clash p "type '") : (because code reason).NotGone :=
  Exception.notGone_of_prefix p h hp

theorem notGone_silent (code : FailureCode) : (silent code).NotGone := by
  cases code with
  | sequenceExhausted => exact Exception.Ordinary.notGone (Exception.ordinary_mk (by decide) "")
  | _ =>
    exact Exception.notGone_of_prefix "error return without exception set" List.prefix_rfl
      (by decide)

end Failure

/-! ## Arguments and fields -/

namespace Args

variable (a : Args) (i : Nat)

theorem notGone_get : FailsOnly Failure.NotGone (a.get i) := by
  unfold get
  split
  · exact .ok _
  · refine .error (Failure.notGone_because _ "missing argument " ?_ (by decide))
    simp [String.toList_append]

theorem notGone_int : FailsOnly Failure.NotGone (a.int i) := by
  unfold int
  split
  · exact .ok _
  · refine .error (Failure.notGone_because _ "argument " ?_ (by decide))
    simp [String.toList_append]

theorem notGone_text : FailsOnly Failure.NotGone (a.text i) := by
  refine .bind (a.notGone_get i) fun v _ => ?_
  split
  · exact .ok _
  · refine .error (Failure.notGone_because _ "argument " ?_ (by decide))
    simp [String.toList_append]

theorem notGone_extract (s : Store) : FailsOnly Failure.NotGone (a.extract s i) :=
  .bind (a.notGone_get i) fun v _ => (s.ordinary_toNative v).mono fun _ => Failure.Ordinary.notGone

end Args

namespace Instance

variable (i : Instance) (offset : Nat)

theorem notGone_outOfBounds : (i.outOfBounds offset).NotGone :=
  Failure.notGone_because _ "field offset " (by simp [String.toList_append]) (by decide)

theorem notGone_read : FailsOnly Failure.NotGone (i.read offset) := by
  unfold read
  split
  · exact .ok _
  · exact .error (i.notGone_outOfBounds offset)

theorem notGone_readInt : FailsOnly Failure.NotGone (i.readInt offset) := by
  unfold readInt
  split
  · exact .ok _
  · refine .error (Failure.notGone_because _ "field " ?_ (by decide))
    simp [String.toList_append]
  · rename_i f hf
    exact .error (i.notGone_read offset f hf)

theorem notGone_readObject : FailsOnly Failure.NotGone (i.readObject offset) := by
  unfold readObject
  split
  · exact .ok _
  · refine .error (Failure.notGone_because _ "field " ?_ (by decide))
    simp [String.toList_append]
  · rename_i f hf
    exact .error (i.notGone_read offset f hf)

theorem notGone_write (content : Field) : FailsOnly Failure.NotGone (i.write offset content) := by
  unfold write
  split
  · split
    · exact .ok _
    · refine .error (Failure.notGone_because _ "field " ?_ (by decide))
      simp [String.toList_append]
  · exact .error (i.notGone_outOfBounds offset)

end Instance

/-! ## Native routines -/

/-- `fail` and `raise` take the text of their exception from an argument. -/
def StockRoutine.Tells (r : StockRoutine) (args : List Value) (e : Exception) : Prop :=
  (r = .fail ∨ r = .raise) ∧ ∃ v ∈ args, v.asText? = some e.message

theorem FailsOnly.notGone_failing {α : Type} {x : Except Failure α}
    (h : FailsOnly Failure.NotGone x) : FailsOnly NativeError.NotGone (failing x) := .mapError h

theorem FailsOnly.notGone_of_ordinary {α : Type} {x : Except Failure α}
    (h : FailsOnly Failure.Ordinary x) : FailsOnly Failure.NotGone x :=
  h.mono fun _ => Failure.Ordinary.notGone

theorem notGone_ensureCallable (s : Store) (target : Value) :
    FailsOnly NativeError.NotGone (failing (ensureCallable s target)) :=
  (ordinary_ensureCallable s target).notGone_of_ordinary.notGone_failing

theorem notGone_invoke (s : Store) (target : Value) (args : List Value) :
    FailsOnly NativeError.NotGone (invoke s target args) :=
  .map (notGone_ensureCallable s target)

namespace Args

variable {a : Args} {i : Nat}

theorem mem_values_of_get? {v : Value} (h : a.get? i = some v) : v ∈ a.values := by
  obtain ⟨item, hitem, rfl⟩ := Option.map_eq_some_iff.1 h
  exact List.mem_map_of_mem (List.mem_of_getElem? hitem)

theorem exists_of_text {text : String} (h : a.text i = .ok text) :
    ∃ v ∈ a.values, v.asText? = some text := by
  unfold Args.text Args.get at h
  cases hget : a.get? i with
  | none =>
    rw [hget] at h
    contradiction
  | some v =>
    rw [hget] at h
    refine ⟨v, mem_values_of_get? hget, ?_⟩
    cases htext : v.asText? with
    | none =>
      simp [bind, Except.bind, htext] at h
    | some text' =>
      simp [bind, Except.bind, htext] at h
      rw [h]

end Args

namespace StockRoutine

theorem notGone_run (r : StockRoutine) (s : Store) (a : Args) :
    FailsOnly (fun x => x.NotGone ∨ r.Tells a.values x.toException) (r.run s a) := by
  have hother {α : Type} {x : Except NativeError α} (h : FailsOnly NativeError.NotGone x) :
      FailsOnly (fun x => x.NotGone ∨ r.Tells a.values x.toException) x := h.mono fun _ => Or.inl
  cases r with
  | values | narrowed => exact .ok _
  | first =>
    exact hother (.notGone_failing (.bind (a.notGone_get 0) fun v _ => .ok _))
  | text =>
    exact hother (.notGone_failing (.bind (a.notGone_text 0) fun v _ => .ok _))
  | extract =>
    exact hother (.notGone_failing (.bind (a.notGone_extract 0 s) fun v _ => .ok _))
  | fail =>
    refine .mapError (.bind ((a.notGone_text 0).mono fun _ => Or.inl) fun name _ => ?_)
    -- The message is an argument, so it may be the one of a released type.
    cases hreason : (a.get? 1).bind (·.asText?) with
    | none => exact .error (Or.inl (Failure.notGone_silent _))
    | some reason =>
      obtain ⟨v, hv, htext⟩ := Option.bind_eq_some_iff.1 hreason
      exact .error (Or.inr ⟨Or.inl rfl, v, Args.mem_values_of_get? hv, htext⟩)
  | raise =>
    refine .bind (hother (.notGone_failing (a.notGone_text 0))) fun kind _ => ?_
    refine .bind (hother (.notGone_failing (a.notGone_text 1))) fun message hmessage => ?_
    have htext : a.text 1 = .ok message := by
      cases h : a.text 1 with
      | ok text =>
        rw [h] at hmessage
        cases hmessage
        rfl
      | error f =>
        rw [h] at hmessage
        contradiction
    exact .error (Or.inr ⟨Or.inr rfl, Args.exists_of_text htext⟩)
  | invoke =>
    refine hother (.bind (.notGone_failing (a.notGone_get 0)) fun target _ => ?_)
    exact notGone_invoke s target _

end StockRoutine

theorem InstanceRoutine.notGone_run (r : InstanceRoutine) (ref : Ref) (i : Instance) (a : Args) :
    FailsOnly Failure.NotGone (r.run ref i a) := by
  cases r with
  | receiver | info => exact .ok _
  | getInt =>
    exact .bind (a.notGone_int 0) fun offset _ => .bind (i.notGone_readInt _) fun n _ => .ok _
  | setInt =>
    exact .bind (a.notGone_int 0) fun offset _ => .bind (a.notGone_int 1) fun n _ =>
      .bind (i.notGone_write _ _) fun j _ => .ok _
  | getObject =>
    exact .bind (a.notGone_int 0) fun offset _ => .bind (i.notGone_readObject _) fun v _ => .ok _
  | setObject =>
    exact .bind (a.notGone_int 0) fun offset _ => .bind (i.notGone_write _ _) fun j _ => .ok _

end ObjectProtocol
