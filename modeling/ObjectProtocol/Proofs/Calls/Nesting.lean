import ObjectProtocol.Proofs.Calls.Balance

/-!
# Nested host bodies

A host body runs under a frame of its own, `Frame.scope`.  Where a call runs it, the frame of the call
is below, with at most that of an initializer between them, so the body is counted; where a length is
asked for, it lies on that question alone and nothing counts it.  Hence the depth bounds the bodies
that calls have entered, and no more: lengths can be nested without bound at depth 0.
-/

namespace ObjectProtocol

def Frame.isScope : Frame → Bool
  | .scope _ => true
  | _ => false

theorem Frame.isScope_of_isPlain {frame : Frame} (h : frame.isPlain = true) :
    frame.isScope = false := by
  cases frame with
  | scope outside => contradiction
  | _ => rfl

/-- The number of host bodies on a stack: its `Frame.scope`s. -/
def bodies (stack : List Frame) : Nat := stack.countP Frame.isScope

/-- How many of the `bodies` run for a length. -/
def lengthBodies : List Frame → Nat
  | [] => 0
  | .scope _ :: .length _ :: rest => lengthBodies rest + 1
  | _ :: rest => lengthBodies rest

/-- A stack on which every `Frame.scope` lies on the activation of its own call or on a length. -/
inductive Counted : List Frame → Prop
  | empty : Counted []
  | frame {frame : Frame} {rest : List Frame} : frame.isScope = false → Counted rest →
    Counted (frame :: rest)
  | callBody (outside kept : List Value) {rest : List Frame} : Counted rest →
    Counted (.scope outside :: .activation kept :: rest)
  | initializerBody (outside kept : List Value) (receiver : Value) {rest : List Frame} :
    Counted rest → Counted (.scope outside :: .initializer receiver :: .activation kept :: rest)
  | lengthBody (outside : List Value) (t : TypeObject) {rest : List Frame} : Counted rest →
    Counted (.scope outside :: .length t :: rest)

@[simp] theorem bodies_scope (outside : List Value) (rest : List Frame) :
    bodies (.scope outside :: rest) = bodies rest + 1 := List.countP_cons_of_pos rfl

theorem bodies_cons_of_false {frame : Frame} (h : frame.isScope = false) (rest : List Frame) :
    bodies (frame :: rest) = bodies rest := List.countP_cons_of_neg (by simp [h])

@[simp] theorem lengthBodies_lengthBody (outside : List Value) (t : TypeObject)
    (rest : List Frame) :
    lengthBodies (.scope outside :: .length t :: rest) = lengthBodies rest + 1 := rfl

theorem lengthBodies_cons_of_false {frame : Frame} (h : frame.isScope = false)
    (rest : List Frame) : lengthBodies (frame :: rest) = lengthBodies rest := by
  cases frame with
  | scope outside => contradiction
  | _ => rfl

theorem bodies_le_cons (frame : Frame) (rest : List Frame) :
    bodies rest ≤ bodies (frame :: rest) := (List.sublist_cons_self frame rest).countP_le

theorem activations_le_cons (frame : Frame) (rest : List Frame) :
    activations rest ≤ activations (frame :: rest) :=
  (List.sublist_cons_self frame rest).countP_le

theorem Laid.bodies_append {top : List Frame} (htop : Laid top) (rest : List Frame) :
    (bodies (top ++ rest) = bodies rest + 1 ∧
        lengthBodies (top ++ rest) = lengthBodies rest + 1) ∨
      bodies (top ++ rest) = bodies rest := by
  cases htop with
  | nothing => exact Or.inr rfl
  | plain hplain => exact Or.inr (bodies_cons_of_false (Frame.isScope_of_isPlain hplain) rest)
  | length t => exact Or.inr (bodies_cons_of_false rfl rest)
  | lengthBody outside t =>
    refine Or.inl ⟨?_, rfl⟩
    exact (bodies_scope outside _).trans (congrArg (· + 1) (bodies_cons_of_false rfl rest))

namespace Counted

variable {stack top rest : List Frame}

theorem tail {frame : Frame} (h : Counted (frame :: rest)) : Counted rest := by
  cases h with
  | frame _ h => exact h
  | callBody _ _ h => exact .frame rfl h
  | initializerBody _ _ _ h => exact .frame rfl (.frame rfl h)
  | lengthBody _ _ h => exact .frame rfl h

theorem lay (h : Counted stack) (htop : Laid top) : Counted (top ++ stack) := by
  cases htop with
  | nothing => exact h
  | plain hplain => exact .frame (Frame.isScope_of_isPlain hplain) h
  | length t => exact .frame rfl h
  | lengthBody outside t => exact .lengthBody outside t h

theorem call (h : Counted stack) (htop : LaidInCall top) (kept : List Value) :
    Counted (top ++ .activation kept :: stack) := by
  cases htop with
  | routine => exact .frame rfl h
  | body outside => exact .callBody outside kept h
  | initializer receiver => exact .frame rfl (.frame rfl h)
  | initializerBody outside receiver => exact .initializerBody outside kept receiver h

theorem step {c : Config} (h : Counted c.stack) : Counted c.step.stack := by
  obtain ⟨hshift, -⟩ := c.shift_step
  -- One case for each `Shift`: frames are laid on top, a call is laid, a frame is replaced, or one is
  -- left.
  cases hshift with
  | lay htop hstack hdepth =>
    rw [hstack]
    exact h.lay htop
  | call htop hstack hlt hdepth =>
    rw [hstack]
    exact h.call htop _
  | pass hout hstack hact htop hstack' hdepth =>
    rw [hstack] at h
    rw [hstack']
    exact h.tail.lay htop
  | leave hout hstack hstack' hdepth =>
    rw [hstack] at h
    rw [hstack']
    exact h.tail

/-- Apart from `lengthBodies`, there are no more `bodies` than `activations`. -/
theorem bodies_le (h : Counted stack) :
    bodies stack ≤ activations stack + lengthBodies stack := by
  -- A body comes with the frame of its call, or it counts as one that runs for a length.
  induction h with
  | empty => exact Nat.zero_le _
  | @frame frame rest hframe _ ih =>
    rw [bodies_cons_of_false hframe, lengthBodies_cons_of_false hframe]
    have hle := activations_le_cons frame rest
    omega
  | @callBody outside kept rest _ ih =>
    have hlength : lengthBodies (.scope outside :: .activation kept :: rest) = lengthBodies rest :=
      rfl
    rw [hlength, bodies_scope, bodies_cons_of_false rfl, activations_cons_of_false rfl,
      activations_activation]
    omega
  | @initializerBody outside kept receiver rest _ ih =>
    have hlength :
        lengthBodies (.scope outside :: .initializer receiver :: .activation kept :: rest) =
          lengthBodies rest := rfl
    rw [hlength, bodies_scope, bodies_cons_of_false rfl, bodies_cons_of_false rfl,
      activations_cons_of_false rfl, activations_cons_of_false rfl, activations_activation]
    omega
  | @lengthBody outside t rest _ ih =>
    rw [lengthBodies_lengthBody, bodies_scope, bodies_cons_of_false rfl,
      activations_cons_of_false rfl, activations_cons_of_false rfl]
    omega

end Counted

namespace Config

theorem Reachable.counted {c : Config} (h : c.Reachable) : Counted c.stack := by
  induction h with
  | start setup e => exact .empty
  | step hc ih => exact ih.step
  | next e hc hend ih => exact .empty
  | restart setup e hc hend ih => exact .empty

theorem depth_step_of_bodies (c : Config) (hmore : bodies c.step.stack = bodies c.stack + 1) :
    (c.step.depth = c.depth + 1 ∧ lengthBodies c.step.stack = lengthBodies c.stack) ∨
      (c.step.depth = c.depth ∧ lengthBodies c.step.stack = lengthBodies c.stack + 1) := by
  obtain ⟨hshift, -⟩ := c.shift_step
  cases hshift with
  -- Without a call, only a body for a length is laid.
  | lay htop hstack hdepth =>
    rw [hstack] at hmore ⊢
    rcases htop.bodies_append c.stack with ⟨-, hlength⟩ | hbodies
    · exact Or.inr ⟨hdepth, hlength⟩
    · omega
  | @call top kept htop hstack hlt hdepth =>
    -- What a call lays stands on its own frame, not on a length.
    rw [hstack] at hmore ⊢
    refine Or.inl ⟨hdepth, ?_⟩
    cases htop <;> rfl
  | @pass frame rest top hout hstack hact htop hstack' hdepth =>
    have hle := bodies_le_cons frame rest
    rw [hstack, hstack'] at hmore
    rw [hstack, hstack']
    rcases htop.bodies_append rest with ⟨hbodies, hlength⟩ | hbodies
    · -- Had a body been taken off, there would be no more than before.
      have hframe : frame.isScope = false := by
        cases frame with
        | scope outside =>
          rw [bodies_scope] at hmore
          omega
        | _ => rfl
      rw [lengthBodies_cons_of_false hframe]
      exact Or.inr ⟨hdepth, hlength⟩
    · omega
  | @leave kept rest hout hstack hstack' hdepth =>
    -- No body is laid when a call is left.
    have hle := bodies_le_cons (.activation kept) rest
    rw [hstack, hstack'] at hmore
    omega

/-! ## Main result -/

/-- In every `Reachable` configuration `bodies` exceeds `depth`, and the limit, by `lengthBodies` at most,
and only entering a body for a length makes room for one more. Once they are that many, the next call
raises `tooDeep`. -/
theorem bodies_counted {c : Config} (h : c.Reachable) :
    bodies c.stack ≤ c.depth + lengthBodies c.stack ∧
      bodies c.stack ≤ c.limit + lengthBodies c.stack ∧
      (bodies c.step.stack = bodies c.stack + 1 →
        (c.step.depth = c.depth + 1 ∧ lengthBodies c.step.stack = lengthBodies c.stack) ∨
          (c.step.depth = c.depth ∧ lengthBodies c.step.stack = lengthBodies c.stack + 1)) ∧
      ∀ target args, c.control = .call target args →
        c.limit + lengthBodies c.stack ≤ bodies c.stack → c.step.control = .raise tooDeep := by
  have hbodies := h.counted.bodies_le
  rw [← h.depth_eq] at hbodies
  have hdepth := h.depth_le
  refine ⟨hbodies, by omega, c.depth_step_of_bodies, ?_⟩
  intro target args hcall hfull
  obtain ⟨ready, -, hstep⟩ := step_call_of_limit_le hcall (by omega)
  rw [hstep]

/-- A class whose `__len__` takes the length of its receiver. -/
def endlessDecl : TypeDecl Code :=
  { name := "Endless", kind := .host
    methods := [⟨"__len__", .empty, .host [.apply (.object .len) [.arg 0]]⟩] }

def endlessLength : Config :=
  { control := .eval
      (.apply (.object .len) [.apply (.object .call) [.apply (.declare endlessDecl) []]])
    session := .ofSetup { options := { maxCallDepth := 1 }, sample := false } }

def inLength : Config := endlessLength.after 8

theorem reachable_inLength : inLength.Reachable := (Reachable.start _ _).after 8

/-- With `maxCallDepth` 1 two bodies are active at depth 0. -/
theorem bodies_counted_inLength :
    (inLength.after 4).Reachable ∧ bodies (inLength.after 4).stack = 2 ∧
      (inLength.after 4).depth = 0 ∧ (inLength.after 4).limit = 1 ∧
      bodies (inLength.after 4).stack ≤
        (inLength.after 4).depth + lengthBodies (inLength.after 4).stack := by
  have hreachable := reachable_inLength.after 4
  exact ⟨hreachable, by decide +kernel, rfl, rfl, (bodies_counted hreachable).1⟩

end Config

end ObjectProtocol
