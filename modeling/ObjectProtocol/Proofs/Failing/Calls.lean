import ObjectProtocol.Proofs.Effect
import ObjectProtocol.Proofs.Failing.Operations

/-!
# What steps raise

A call raises what the routine behind it fails with, or an ordinary exception of its own: arguments that
do not fit, a value that cannot be called, a depth that has been reached.  So a step raises what operations
and calls raise, lets an exception on its way pass, or begins with an expression that raises one.
-/

namespace ObjectProtocol

variable {Q : Exception → Prop}

namespace Entry

/-- If the entry raises, then what satisfies `Q`. -/
def RaisesOnly (Q : Exception → Prop) : Entry → Prop
  | raise e => Q e
  | give _ | call .. | run .. => True

theorem RaisesOnly.mono {Q' : Exception → Prop} {entry : Entry} (h : entry.RaisesOnly Q)
    (hQ : ∀ e, Q e → Q' e) : entry.RaisesOnly Q' := by
  cases entry with
  | raise e => exact hQ e h
  | give | call | run => exact trivial

theorem raisesOnly_ofAnswer {r : Except NativeError Answer × Host}
    (hr : FailsOnly (fun x => Q x.toException) r.1) : (ofAnswer r).1.RaisesOnly Q := by
  obtain ⟨answer, h⟩ := r
  cases answer with
  | error x => exact hr x rfl
  | ok answer => cases answer <;> exact trivial

end Entry

/-! ## Calls -/

namespace Host

variable {h : Host} {d : Descriptor} {receiver : Value} {args : List Value} {t : TypeObject}

theorem raisesOnly_runMethod (hQ : ∀ e, e.Ordinary → Q e)
    (hrun : ∀ routine ref a, d.method.body = .native routine → receiver = .object ref →
      d.method.spec.parse h.store args = .ok a →
      FailsOnly (fun x => Q x.toException) (routine.run h ref a).1) :
    (h.runMethod d receiver args).1.RaisesOnly Q := by
  unfold runMethod
  split
  · rename_i routine hbody
    split
    · rename_i ref
      split
      · rename_i a ha
        exact Entry.raisesOnly_ofAnswer (hrun routine ref a hbody rfl ha)
      · -- Arguments that do not fit are refused in an ordinary way, as is a receiver that is no
        -- instance.
        rename_i f hf
        exact hQ _ (ArgSpec.ordinary_parse _ _ _ f hf)
    · exact hQ _ (Exception.ordinary_mk (by decide) _)
  · split
    · exact trivial
    · rename_i f hf
      exact hQ _ (ArgSpec.ordinary_checkArity _ _ f hf)

theorem raisesOnly_runFunction {f : Function} (hQ : ∀ e, e.Ordinary → Q e)
    (hrun : ∀ spec routine a, f.body = .native spec routine → spec.parse h.store args = .ok a →
      FailsOnly (fun x => Q x.toException) (routine.run h a).1) :
    (h.runFunction f args).1.RaisesOnly Q := by
  unfold runFunction
  split
  · exact trivial
  · rename_i spec routine hbody
    split
    · rename_i a ha
      exact Entry.raisesOnly_ofAnswer (hrun spec routine a hbody ha)
    · rename_i e he
      exact hQ _ (ArgSpec.ordinary_parse _ _ _ e he)

theorem of_refusal? (hQ : ∀ e, e.Ordinary → Q e)
    (hcheck : ∀ slot, t.findSlot? (·.new) = some slot →
      FailsOnly (fun f => Q f.toException) (slot.check h.store args))
    {e : Exception} (he : h.refusal? t args = some e) : Q e := by
  unfold refusal? at he
  split at he
  · cases he
    exact hQ _ (Exception.ordinary_mk (by decide) _)
  · cases hslot : t.findSlot? (·.new) with
    | none =>
      rw [hslot] at he
      contradiction
    | some slot =>
      rw [hslot] at he
      dsimp only [Option.elim_some] at he
      split at he
      · rename_i f hf
        cases he
        exact hcheck slot hslot f hf
      · contradiction

theorem raisesOnly_setUp {ref : Ref} (hQ : ∀ e, e.Ordinary → Q e)
    (hmethod : ∀ d, t.findMethod? "__init__" = some d →
      (h.runMethod d (.object ref) args).1.RaisesOnly Q)
    (hinit : ∀ slot, t.findSlot? (·.init) = some slot →
      FailsOnly (fun f => Q f.toException) (slot.run h.store (h.store.instanceAt ref) args).1) :
    (h.setUp t ref args).1.RaisesOnly Q := by
  unfold setUp
  split
  · rename_i d hfound
    exact hmethod d hfound
  · -- Without a method the nearest slot initializes, and without either only surplus arguments are
    -- refused.
    split
    · rename_i slot hslot
      have hrun := hinit slot hslot
      dsimp only
      split
      · exact trivial
      · rename_i f hf
        exact hrun f hf
    · split
      · exact hQ _ (Exception.ordinary_mk (by decide) _)
      · exact trivial

/-- What `Config.dispatch` begins for the value raises only what satisfies `Q`. -/
def CallRaisesOnly (Q : Exception → Prop) (h : Host) (target : Value) (args : List Value) : Prop :=
  match target with
  | .function f => (h.runFunction f args).1.RaisesOnly Q
  | .method _ receiver d => (h.runMethod d receiver args).1.RaisesOnly Q
  | .type t => (∀ e, h.refusal? t args = some e → Q e) ∧
    ((h.newInstance t).2.setUp t (h.newInstance t).1 args).1.RaisesOnly Q
  | .object ref => ∀ d, (h.store.instanceAt ref).type.findMethod? "__call__" = some d →
    (h.runMethod d (.object ref) args).1.RaisesOnly Q
  | _ => True

end Host

namespace Control

def RaisesOnly (Q : Exception → Prop) : Control → Prop
  | raise e => Q e
  | eval _ | body _ | give _ | call .. | malformed => True

theorem RaisesOnly.mono {Q' : Exception → Prop} {control : Control} (h : control.RaisesOnly Q)
    (hQ : ∀ e, Q e → Q' e) : control.RaisesOnly Q' := by
  cases control with
  | raise e => exact hQ e h
  | eval | body | give | call | malformed => exact trivial

end Control

namespace Config

variable {c : Config} {target : Value} {args : List Value}

theorem raisesOnly_enter {f : Host → Entry × Host} (hf : (f c.session.host).1.RaisesOnly Q) :
    (c.enter f).control.RaisesOnly Q := by
  obtain ⟨control, stack, args, session⟩ := c
  unfold enter onHost onSession Session.onHost
  dsimp only at hf ⊢
  split
  · exact trivial
  · rename_i e heq
    rw [heq] at hf
    exact hf
  · exact trivial
  · exact trivial

theorem raisesOnly_dispatch (hQ : ∀ e, e.Ordinary → Q e)
    (hlive : ∀ t, c.session.host.store.live t = .ok t)
    (hcall : c.session.host.CallRaisesOnly Q target args) :
    (c.dispatch target args).control.RaisesOnly Q := by
  have hnone (target : Value) : Q (c.notCallable target) :=
    hQ _ (Exception.ordinary_mk (by decide) _)
  cases target with
  | function f => exact raisesOnly_enter (f := fun h => h.runFunction f args) hcall
  | method id receiver d => exact raisesOnly_enter (f := fun h => h.runMethod d receiver args) hcall
  | type t =>
    obtain ⟨hrefusal, hsetUp⟩ := hcall
    unfold dispatch
    dsimp only
    split
    · rename_i e he
      exact hrefusal e he
    · exact raisesOnly_enter hsetUp
  | object ref =>
    unfold dispatch
    dsimp only
    rw [hlive]
    dsimp only
    split
    · rename_i d hfound
      exact raisesOnly_enter (f := fun h => h.runMethod d (.object ref) args) (hcall d hfound)
    · exact hnone _
  | null | bool | int | float | str | tuple | list | dict | iterator => exact hnone _

theorem raisesOnly_call (hQ : ∀ e, e.Ordinary → Q e)
    (hlive : ∀ t, c.session.host.store.live t = .ok t)
    (hcall : c.counted.host.CallRaisesOnly Q target args) :
    (c.call target args).control.RaisesOnly Q := by
  unfold call
  split
  · exact hQ _ (Exception.ordinary_mk (by decide) _)
  · exact raisesOnly_dispatch (c := (c.setDepth (c.depth + 1)).push _) hQ hlive hcall

/-! ## Steps -/

theorem raisesOnly_operate {op : Op Code} {operands : List Value} {s : Store}
    (hrun : (op.run operands c.session).1.RaisesOnly Q s)
    (hmeasure : ∀ t d receiver, (op.run operands c.session).1 = .measure t d receiver →
      ((op.run operands c.session).2.host.runMethod d receiver []).1.RaisesOnly Q) :
    (c.operate op operands).control.RaisesOnly Q := by
  obtain ⟨control, stack, args, session⟩ := c
  unfold operate onSession
  dsimp only at hrun hmeasure ⊢
  split
  · exact trivial
  · rename_i e heq
    rw [heq] at hrun
    exact hrun
  · exact trivial
  · rename_i t d receiver heq
    exact raisesOnly_enter (f := fun h => h.runMethod d receiver []) (hmeasure t d receiver heq)
  · exact trivial

/-- A raised exception comes from an operation, a call or an expression, or it has been on its way before;
a length that is no integer is `Ordinary`. -/
theorem raisesOnly_advance (hQ : ∀ e, e.Ordinary → Q e)
    (hoperate : ∀ op operands rest, c.Performs op operands rest →
      (({ c with stack := rest }).operate op operands).control.RaisesOnly Q)
    (hcall : ∀ target args, c.control = .call target args →
      (c.call target args).control.RaisesOnly Q) :
    c.advance.control.RaisesOnly fun e => Q e ∨ c.control = .raise e ∨ c.control = .eval (.raise e) := by
  -- Steps that perform an operation are settled by `hoperate`; of all others only four can raise: an
  -- expression, a call, an exception on its way and a length.
  by_cases hperforms : ∃ op operands rest, c.Performs op operands rest
  · obtain ⟨op, operands, rest, hperforms⟩ := hperforms
    rw [hperforms.advance_eq]
    exact (hoperate op operands rest hperforms).mono fun e => Or.inl
  · have hidle (op : Op Code) (operands : List Value) (rest : List Frame) :
        ¬ c.Performs op operands rest := fun h => hperforms ⟨op, operands, rest, h⟩
    clear hperforms hoperate
    obtain ⟨control, stack, args, session⟩ := c
    cases control with
    | eval e =>
      cases e with
      | raise e => exact Or.inr (Or.inr rfl)
      | apply op es =>
        cases es with
        | nil => exact absurd (.bare rfl) (hidle op [] stack)
        | cons e es => exact trivial
      | «repeat» count body =>
        cases count with
        | zero => exact absurd (.noValues rfl) (hidle (.object .list) [] stack)
        | succ count => exact trivial
      | dict pairs => cases pairs <;> exact trivial
      | null | bool | int | float | str | arg | args | seq | ite | attempt => exact trivial
    | body es =>
      match es with
      | [] | [e] | e :: e' :: rest => exact trivial
    | call target args' => exact (hcall target args' rfl).mono fun e => Or.inl
    | give v =>
      match stack with
      | [] => exact trivial
      | frame :: rest =>
        cases frame with
        | operand op done todo =>
          cases todo with
          | nil => exact absurd (.operands rfl rfl) (hidle op _ rest)
          | cons e todo => exact trivial
        | repetition left body done =>
          cases left with
          | zero => exact absurd (.values rfl rfl) (hidle (.object .list) _ rest)
          | succ left => exact trivial
        | entry made key pairs => cases pairs <;> exact trivial
        | length t =>
          unfold advance receive
          dsimp only
          split
          · exact trivial
          · rename_i f hf
            exact Or.inl (hQ _ (Store.toNative_error hf))
        | condition | sequence | attempt | key | activation | scope | initializer => exact trivial
    | raise e =>
      match stack with
      | [] => exact Or.inr (Or.inl rfl)
      | frame :: rest =>
        cases frame with
        | attempt => exact trivial
        | operand | condition | sequence | repetition | key | entry | activation | scope
        | initializer | length => exact Or.inr (Or.inl rfl)
    | malformed => exact trivial

end Config

end ObjectProtocol
