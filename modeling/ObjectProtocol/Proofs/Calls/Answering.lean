import ObjectProtocol.Proofs.Calls.Balance
import ObjectProtocol.Proofs.Effect

/-!
# Calls that are answered at once

A native method that gives a value or fails by itself has been run by the step that counts its call, and
the next step leaves the call again.  So the call has ended after two steps, and what it has done to the
session is what the method has done.
-/

namespace ObjectProtocol.Config

variable {c c' c'' : Config}

/-- What `c` begins has ended in `c'`, on top of the frames that were there before, and no sooner. -/
def AnsweredBy (c c' : Config) : Prop :=
  ∃ n, c.after n = c' ∧ c'.SettledOn c.stack ∧ ∀ k < n, ¬ (c.after k).SettledOn c.stack

theorem AnsweredBy.eq (h : c.AnsweredBy c') (h' : c.AnsweredBy c'') : c' = c'' := by
  obtain ⟨n, rfl, hn, hbefore⟩ := h
  obtain ⟨m, rfl, hm, hbefore'⟩ := h'
  rcases Nat.lt_trichotomy n m with hlt | rfl | hlt
  · exact absurd hn (hbefore' n hlt)
  · rfl
  · exact absurd hm (hbefore m hlt)

theorem step_of_activation {kept : List Value} {rest : List Frame} (hout : c.control.isOutcome = true)
    (hstack : c.stack = .activation kept :: rest) :
    c.step = { c.setDepth (c.depth - 1) with stack := rest } := by
  have hasks := asksForType_of_isOutcome hout fun _ _ _ hoperand => by
    cases hstack.symm.trans hoperand
  rw [step_of_asksForType hasks]
  obtain ⟨control, stack, args, session⟩ := c
  dsimp only at hout hstack
  subst hstack
  cases control with
  | give v | raise e => rfl
  | eval | body | call | malformed => contradiction

theorem answeredBy_of_activation {target : Value} {args kept : List Value}
    (hcontrol : c.control = .call target args) (hout : c.step.control.isOutcome = true)
    (hstack : c.step.stack = .activation kept :: c.stack) :
    c.AnsweredBy { c.step.setDepth (c.step.depth - 1) with stack := c.stack } := by
  have hleft := step_of_activation hout hstack
  refine ⟨2, hleft, ⟨hout, rfl⟩, fun k hk => ?_⟩
  match k with
  | 0 =>
    refine not_settledOn (Or.inl ?_)
    rw [after_zero, hcontrol]
    rfl
  | 1 =>
    refine not_settledOn (Or.inr ?_)
    rw [show c.after 1 = c.step from rfl, hstack, List.length_cons]
    exact Nat.succ_ne_self _

/-- `Config.enter` of an entry that is an outcome is left by the second step, and what it has done stays.
-/
theorem exists_answeredBy_of_enter {target : Value} {args : List Value} {f : Host → Entry × Host}
    {entry : Entry} {h : Host} (hcontrol : c.control = .call target args) (hdepth : c.depth < c.limit)
    (hdispatch : ∀ c' : Config, c'.dispatch target args = c'.enter f)
    (hrun : f c.ready.counted.host = (entry, h)) (hout : entry.control.isOutcome = true) :
    ∃ c', c.AnsweredBy c' ∧ c'.control = entry.control ∧
      c'.session = (c.ready.session.withHost
        ⟨{ h.runtime with depth := h.runtime.depth - 1 }, h.store⟩) := by
  -- An entry that is an outcome lays nothing on the activation, so the next step leaves it.
  have hframes (outside : List Value) : entry.frames outside = [] := by
    cases entry with
    | give | raise | call => rfl
    | run => contradiction
  have hstep := (step_call_of_depth_lt hcontrol hdepth).trans (hdispatch _)
  rw [enter_eq (show f ((c.ready.setDepth (c.ready.depth + 1)).push
    (.activation (c.ready.keptBy target args))).session.host = (entry, h) from hrun)] at hstep
  have houtcome : c.step.control.isOutcome = true := by
    rw [hstep]
    exact hout
  have hstack : c.step.stack = .activation (c.ready.keptBy target args) :: c.stack := by
    rw [hstep, hframes, List.nil_append, ← c.stack_ready]
    rfl
  refine ⟨_, answeredBy_of_activation hcontrol houtcome hstack, ?_, ?_⟩
  · rw [hstep]
    rfl
  · rw [hstep]
    rfl

theorem exists_answeredBy_of_runMethod {id : Identity} {receiver : Value} {d : Descriptor} {args : List Value}
    {entry : Entry} {h : Host} (hcontrol : c.control = .call (.method id receiver d) args)
    (hdepth : c.depth < c.limit)
    (hrun : c.ready.counted.host.runMethod d receiver args = (entry, h))
    (hout : entry.control.isOutcome = true) :
    ∃ c', c.AnsweredBy c' ∧ c'.control = entry.control ∧
      c'.session = (c.ready.session.withHost
        ⟨{ h.runtime with depth := h.runtime.depth - 1 }, h.store⟩) :=
  exists_answeredBy_of_enter (f := fun h => h.runMethod d receiver args) hcontrol hdepth
    (fun _ => rfl) hrun hout

theorem exists_answeredBy_of_limit_le {target : Value} {args : List Value}
    (hcontrol : c.control = .call target args) (hdepth : c.limit ≤ c.depth) :
    ∃ c', c.AnsweredBy c' ∧ c'.control = .raise tooDeep := by
  obtain ⟨hraise, hstack⟩ := step_of_limit_le hcontrol hdepth
  refine ⟨c.step, ⟨1, rfl, ⟨by rw [hraise]; rfl, hstack⟩, fun k hk => ?_⟩, hraise⟩
  obtain rfl : k = 0 := by omega
  refine not_settledOn (Or.inl ?_)
  rw [after_zero, hcontrol]
  rfl

end ObjectProtocol.Config
