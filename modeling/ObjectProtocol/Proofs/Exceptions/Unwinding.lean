import ObjectProtocol.Proofs.Calls.Balance

/-!
# Outcomes on their way

An outcome leaves one frame after another, and under a tower of frames that let it pass it comes out below
as it is.  Only the frame of a `try` does anything with an exception: calls, host bodies, initializers and
lengths let it pass, and give back what they have taken.  So an exception that is raised under any tower of
such frames is what the task at the bottom of the tower ends with.
-/

namespace ObjectProtocol

/-- A step with this control leaves the frame, and the control is the same below. -/
def Frame.Passes (frame : Frame) (control : Control) : Prop :=
  ∀ ⦃c : Config⦄ ⦃rest : List Frame⦄, c.control = control → c.stack = frame :: rest →
    c.step.control = control ∧ c.step.stack = rest

namespace Config

variable {c : Config} {control : Control} {tower below : List Frame}

/-! ## Towers of frames -/

theorem after_of_passes (hcontrol : c.control = control) (hstack : c.stack = tower ++ below)
    (htower : ∀ frame ∈ tower, frame.Passes control) {n : Nat} (hn : n ≤ tower.length) :
    (c.after n).control = control ∧ (c.after n).stack = tower.drop n ++ below := by
  induction n with
  | zero => exact ⟨hcontrol, hstack⟩
  | succ n ih =>
    obtain ⟨hsame, hleft⟩ := ih (Nat.le_of_succ_le hn)
    have hlt : n < tower.length := hn
    rw [List.drop_eq_getElem_cons hlt] at hleft
    exact htower _ (List.getElem_mem hlt) hsame hleft

theorem settles_of_passes (hout : control.isOutcome = true) (hcontrol : c.control = control)
    (hstack : c.stack = tower ++ below) (htower : ∀ frame ∈ tower, frame.Passes control) :
    (∀ k < tower.length, ¬ (c.after k).SettledOn below) ∧
      (c.after tower.length).SettledOn below ∧ (c.after tower.length).control = control := by
  refine ⟨fun k hk => not_settledOn (Or.inr ?_), ?_⟩
  · -- Frames of the tower are still to be left.
    rw [(after_of_passes hcontrol hstack htower (Nat.le_of_lt hk)).2, List.length_append,
      List.length_drop]
    omega
  · obtain ⟨hsame, hleft⟩ := after_of_passes hcontrol hstack htower (Nat.le_refl tower.length)
    rw [List.drop_length, List.nil_append] at hleft
    exact ⟨⟨hsame ▸ hout, hleft⟩, hsame⟩

/-! ## Exceptions -/

variable {e : Exception}

/-- An exception passes every frame but `attempt` as it is. -/
theorem unwind_of_ne {frame : Frame} (h : frame ≠ .attempt) :
    (c.unwind e frame).control = .raise e ∧ (c.unwind e frame).stack = c.stack := by
  cases frame with
  | attempt => contradiction
  | operand | condition | sequence | repetition | key | entry | activation | scope | initializer
  | length => exact ⟨rfl, rfl⟩

theorem passes_raise {frame : Frame} (h : frame ≠ .attempt) : frame.Passes (.raise e) := by
  intro c rest hcontrol hstack
  rw [step_eq_advance,
    advance_of_raise (c.control_ready.trans hcontrol) (c.stack_ready.trans hstack)]
  exact unwind_of_ne h

theorem forall_passes_raise (htower : .attempt ∉ tower) : ∀ frame ∈ tower, frame.Passes (.raise e) :=
  fun _ hframe => passes_raise fun heq => htower (heq ▸ hframe)

theorem control_of_settled {m n : Nat} (hcontrol : (c.after m).control = .raise e)
    (hstack : (c.after m).stack = tower ++ below) (htower : .attempt ∉ tower) (hle : m ≤ n)
    (hrun : ∀ k < n, ¬ (c.after k).SettledOn below) (hend : (c.after n).SettledOn below) :
    (c.after n).control = .raise e := by
  obtain ⟨k, rfl⟩ : ∃ k, n = m + k := ⟨n - m, by omega⟩
  rcases Nat.lt_or_ge tower.length k with hlt | hge
  · -- The tower has been left before.
    obtain ⟨-, hsettled, -⟩ := settles_of_passes rfl hcontrol hstack (forall_passes_raise htower)
    rw [after_add] at hsettled
    exact absurd hsettled (hrun (m + tower.length) (by omega))
  · rw [← after_add]
    exact (after_of_passes hcontrol hstack (forall_passes_raise htower) hge).1

/-- The `Task`, put to the configuration, ends with the exception, at the depth where it began. -/
def EndsWith (c : Config) (task : Task) (e : Exception) : Prop :=
  ∃ n, (∀ k < n, ¬ ((c.start task).after k).SettledOn c.stack) ∧
    ((c.start task).after n).control = .raise e ∧ ((c.start task).after n).stack = c.stack ∧
    ((c.start task).after n).depth = c.depth

theorem endsWith_of_raise {task : Task} {n : Nat}
    (hrun : ∀ k < n, ¬ ((c.start task).after k).SettledOn c.stack)
    (hcontrol : ((c.start task).after n).control = .raise e)
    (hstack : ((c.start task).after n).stack = tower ++ c.stack) (htower : .attempt ∉ tower) :
    c.EndsWith task e := by
  obtain ⟨hpassing, ⟨-, hleft⟩, hraise⟩ :=
    settles_of_passes rfl hcontrol hstack (forall_passes_raise htower)
  rw [after_add] at hraise hleft
  have hbusy : ∀ k < n + tower.length, ¬ ((c.start task).after k).SettledOn c.stack :=
    forall_after_add (P := fun c' => ¬ c'.SettledOn c.stack) hrun hpassing
  have haccounts := (c.accounts_start task).after (n + tower.length) hbusy
  exact ⟨n + tower.length, hbusy, hraise, hleft, haccounts.depth_eq hleft⟩

end Config

end ObjectProtocol
