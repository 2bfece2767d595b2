import Mathlib.Algebra.Ring.Nat
import ObjectProtocol.Proofs.Calls.Balance
import ObjectProtocol.Proofs.Effect

/-!
# What makes no call comes to an end

An expression has no loop but one that counts down, so what is left to do gets less with every step,
until something is called or a method is asked for a length: those may go on for as long as they like.
`Config.work` measures what is left to do, in the control and in the frames.
-/

namespace ObjectProtocol

namespace Expr

mutual

/-- More than the number of `step`s that evaluating the expression takes, if it makes no call. -/
def work : Expr → Nat
  -- One step to the outcome, which counts as one itself.
  | null | bool _ | int _ | float _ | str _ | arg _ | args | raise _ => 2
  | dict pairs => 2 + workOfPairs pairs
  | apply _ operands => 2 + workOfAll operands
  | seq body => 3 + workOfAll body
  | ite condition yes no => 2 + condition.work + yes.work + no.work
  | .repeat count body => 2 + count * body.work
  | attempt body => 2 + body.work

def workOfAll : List Expr → Nat
  | [] => 0
  | e :: rest => 2 + e.work + workOfAll rest

def workOfPair : Expr × Expr → Nat
  | (key, value) => key.work + value.work

def workOfPairs : List (Expr × Expr) → Nat
  | [] => 0
  | pair :: rest => workOfPair pair + workOfPairs rest

end

theorem two_le_work (e : Expr) : 2 ≤ e.work := by
  cases e <;> simp only [work] <;> omega

end Expr

open ObjectProtocol.Expr

def Frame.work : Frame → Nat
  | operand _ _ todo => 1 + workOfAll todo
  | condition yes no => 1 + yes.work + no.work
  | sequence rest => 2 + workOfAll rest
  | repetition left body _ => 1 + left * body.work
  | key _ value rest => 1 + value.work + workOfPairs rest
  | entry _ _ rest => 1 + workOfPairs rest
  | attempt | activation _ | scope _ | initializer _ | length _ => 1

def Control.work : Control → Nat
  | eval e => e.work
  | body es => 2 + workOfAll es
  | give _ | raise _ | call .. | malformed => 1

def workOfStack (stack : List Frame) : Nat := (stack.map Frame.work).sum

theorem workOfStack_cons (frame : Frame) (rest : List Frame) :
    workOfStack (frame :: rest) = frame.work + workOfStack rest := by
  unfold workOfStack
  rw [List.map_cons, List.sum_cons]

theorem Frame.work_pos (frame : Frame) : 1 ≤ frame.work := by
  cases frame <;> simp only [work] <;> omega

namespace Config

def work (c : Config) : Nat := c.control.work + workOfStack c.stack

/-- The next step calls something, or has a method run for a length. -/
def Enters (c : Config) : Prop :=
  (∃ target args, c.control = .call target args) ∨
    ∃ op operands rest t d receiver, c.Performs op operands rest ∧
      (op.run operands c.session).1 = .measure t d receiver

variable {c : Config}

theorem work_operate {op : Op Code} {operands : List Value}
    (h : ∀ t d receiver, (op.run operands c.session).1 ≠ .measure t d receiver) :
    (c.operate op operands).work = 1 + workOfStack c.stack := by
  cases hrequest : (op.run operands c.session).1 with
  | measure t d receiver => exact absurd hrequest (h t d receiver)
  | value v | raise e | call target args | malformed =>
    rw [operate_of_control? (Prod.ext hrequest rfl) rfl]
    rfl

theorem Performs.work_advance {op : Op Code} {operands : List Value} {rest : List Frame}
    (hperforms : c.Performs op operands rest) (h : ¬ c.Enters) :
    c.advance.work = 1 + workOfStack rest := by
  rw [hperforms.advance_eq]
  exact work_operate (c := { c with stack := rest }) fun t d receiver heq =>
    h (Or.inr ⟨op, operands, rest, t, d, receiver, hperforms, heq⟩)

theorem work_eval {e : Expr} (hcontrol : c.control = .eval e) (h : ¬ c.Enters) :
    c.advance.work < c.work := by
  have hwork : c.work = e.work + workOfStack c.stack := by rw [work, hcontrol, Control.work]
  have hadvance := advance_of_eval hcontrol
  have hdone (hperformed : c.advance.work = 1 + workOfStack c.stack) : c.advance.work < c.work := by
    have hpositive := e.two_le_work
    omega
  cases e with
  | apply op es =>
    cases es with
    | nil => exact hdone (Performs.work_advance (.bare hcontrol) h)
    | cons e es =>
      rw [hadvance, hwork]
      show e.work + workOfStack (.operand op [] es :: c.stack) < _
      simp only [workOfStack_cons, Frame.work, Expr.work, workOfAll]
      omega
  | «repeat» count body =>
    cases count with
    | zero => exact hdone (Performs.work_advance (.noValues hcontrol) h)
    | succ count =>
      -- One round goes into the control, and the frame keeps the others.
      rw [hadvance, hwork]
      show body.work + workOfStack (.repetition count body [] :: c.stack) < _
      simp only [workOfStack_cons, Frame.work, Expr.work, Nat.succ_mul]
      omega
  | dict pairs =>
    cases pairs with
    | nil => exact hdone (by rw [hadvance]; rfl)
    | cons pair rest =>
      obtain ⟨key, value⟩ := pair
      rw [hadvance, hwork]
      show key.work + workOfStack (.key {} value rest :: c.stack) < _
      simp only [workOfStack_cons, Frame.work, Expr.work, workOfPairs, workOfPair]
      omega
  | seq es =>
    rw [hadvance, hwork]
    show 2 + workOfAll es + workOfStack c.stack < _
    simp only [Expr.work]
    omega
  | ite condition yes no =>
    rw [hadvance, hwork]
    show condition.work + workOfStack (.condition yes no :: c.stack) < _
    simp only [workOfStack_cons, Frame.work, Expr.work]
    omega
  | attempt body =>
    rw [hadvance, hwork]
    show body.work + workOfStack (.attempt :: c.stack) < _
    simp only [workOfStack_cons, Frame.work, Expr.work]
    omega
  | null | bool | int | float | str | arg | args | raise =>
    exact hdone (by rw [hadvance]; rfl)

theorem work_body {es : List Expr} (hcontrol : c.control = .body es) : c.advance.work < c.work := by
  have hwork : c.work = 2 + workOfAll es + workOfStack c.stack := by rw [work, hcontrol, Control.work]
  rw [advance_of_body hcontrol, hwork]
  match es with
  | [] =>
    show 1 + workOfStack c.stack < _
    omega
  | [e] =>
    show e.work + workOfStack c.stack < _
    simp only [workOfAll]
    omega
  | e :: e' :: rest =>
    show e.work + workOfStack (.sequence (e' :: rest) :: c.stack) < _
    rw [workOfStack_cons]
    simp only [Frame.work, workOfAll]
    omega

theorem work_give {v : Value} {frame : Frame} {rest : List Frame} (hcontrol : c.control = .give v)
    (hstack : c.stack = frame :: rest) (h : ¬ c.Enters) : c.advance.work < c.work := by
  have hwork : c.work = 1 + (frame.work + workOfStack rest) := by
    rw [work, hcontrol, hstack, workOfStack_cons, Control.work]
  have hadvance := advance_of_give hcontrol hstack
  have hdone (hgiven : c.advance.work = 1 + workOfStack rest) : c.advance.work < c.work := by
    have hpositive := frame.work_pos
    omega
  cases frame with
  | operand op done todo =>
    cases todo with
    | nil => exact hdone (Performs.work_advance (.operands hcontrol hstack) h)
    | cons e todo =>
      rw [hadvance, hwork]
      show e.work + workOfStack (.operand op (v :: done) todo :: rest) < _
      simp only [workOfStack_cons, Frame.work, workOfAll]
      omega
  | repetition left body done =>
    cases left with
    | zero => exact hdone (Performs.work_advance (.values hcontrol hstack) h)
    | succ left =>
      rw [hadvance, hwork]
      show body.work + workOfStack (.repetition left body (v :: done) :: rest) < _
      simp only [workOfStack_cons, Frame.work, Nat.succ_mul]
      omega
  | condition yes no =>
    rw [hadvance, hwork]
    show (if _ then yes else no).work + workOfStack rest < _
    simp only [Frame.work]
    split <;> omega
  | sequence es =>
    rw [hadvance, hwork]
    show 2 + workOfAll es + workOfStack rest < _
    simp only [Frame.work]
    omega
  | key made value pairs =>
    rw [hadvance, hwork]
    show value.work + workOfStack (.entry made v pairs :: rest) < _
    simp only [workOfStack_cons, Frame.work]
    omega
  | entry made key pairs =>
    cases pairs with
    | nil => exact hdone (by rw [hadvance]; rfl)
    | cons pair pairs =>
      obtain ⟨nextKey, value⟩ := pair
      rw [hadvance, hwork]
      show nextKey.work + workOfStack
          (.key (made.insert c.session.host.store.equal key v) value pairs :: rest) < _
      simp only [workOfStack_cons, Frame.work, workOfPairs, workOfPair]
      omega
  | length t =>
    -- A length is given or refused, and neither lays a frame.
    refine hdone ?_
    rw [hadvance]
    unfold receive
    dsimp only
    split <;> rfl
  | attempt | activation | scope | initializer => exact hdone (by rw [hadvance]; rfl)

theorem work_raise {e : Exception} {frame : Frame} {rest : List Frame} (hcontrol : c.control = .raise e)
    (hstack : c.stack = frame :: rest) : c.advance.work < c.work := by
  have hwork : c.work = 1 + (frame.work + workOfStack rest) := by
    rw [work, hcontrol, hstack, workOfStack_cons, Control.work]
  have hdone : c.advance.work = 1 + workOfStack rest := by
    rw [advance_of_raise hcontrol hstack]
    cases frame <;> rfl
  have hpositive := frame.work_pos
  omega

/-- A step leaves less `work`, unless it `Enters` something, has no meaning or is at the end. -/
theorem work_step (henters : ¬ c.ready.Enters) (hmalformed : c.control ≠ .malformed)
    (hend : ¬ c.SettledOn []) : c.step.work < c.work := by
  have hready : c.ready.work = c.work := by
    unfold work
    rw [c.control_ready, c.stack_ready]
  rw [step_eq_advance, ← hready]
  rw [← c.control_ready] at hmalformed
  have hend : ¬ c.ready.SettledOn [] := by
    rintro ⟨hout, hstack⟩
    exact hend ⟨c.control_ready ▸ hout, c.stack_ready ▸ hstack⟩
  -- From here on it does not matter how the configuration got ready.
  generalize c.ready = c at henters hmalformed hend
  cases hcontrol : c.control with
  | eval e => exact work_eval hcontrol henters
  | body es => exact work_body hcontrol
  | call target args => exact absurd (Or.inl ⟨target, args, hcontrol⟩) henters
  | malformed => exact absurd hcontrol hmalformed
  | give v =>
    cases hstack : c.stack with
    | nil => exact absurd ⟨by rw [hcontrol]; rfl, hstack⟩ hend
    | cons frame rest => exact work_give hcontrol hstack henters
  | raise e =>
    cases hstack : c.stack with
    | nil => exact absurd ⟨by rw [hcontrol]; rfl, hstack⟩ hend
    | cons frame rest => exact work_raise hcontrol hstack

theorem Accounts.exists_end {below : List Frame} {d : Nat} (h : c.Accounts below d) :
    ∃ k, (∀ j < k, ¬ (c.after j).SettledOn below) ∧
      ((c.after k).SettledOn below ∨ (c.after k).control = .malformed ∨ (c.after k).ready.Enters) := by
  -- By induction on what is left to do.
  generalize hwork : c.work = w
  induction w using Nat.strongRecOn generalizing c with
  | ind w ih =>
    have hnone : ∀ j < 0, ¬ (c.after j).SettledOn below := fun j hj => absurd hj (Nat.not_lt_zero j)
    by_cases hend : c.SettledOn below
    · exact ⟨0, hnone, Or.inl hend⟩
    by_cases hmalformed : c.control = .malformed
    · exact ⟨0, hnone, Or.inr (Or.inl hmalformed)⟩
    by_cases henters : c.ready.Enters
    · exact ⟨0, hnone, Or.inr (Or.inr henters)⟩
    have hbusy : ¬ c.SettledOn [] := by
      rintro ⟨hout, hnil⟩
      obtain ⟨above, hstack, -⟩ := h
      rw [hnil] at hstack
      obtain ⟨-, hbelow⟩ := List.append_eq_nil_iff.1 hstack.symm
      exact hend ⟨hout, hnil.trans hbelow.symm⟩
    have hless := work_step henters hmalformed hbusy
    obtain ⟨k, hrun, hk⟩ := ih c.step.work (hwork ▸ hless) (h.step hend) rfl
    rw [after_step] at hk
    refine ⟨k + 1, fun j hj => ?_, hk⟩
    cases j with
    | zero => exact hend
    | succ j =>
      rw [← after_step]
      exact hrun j (Nat.lt_of_succ_lt_succ hj)

end Config

end ObjectProtocol
