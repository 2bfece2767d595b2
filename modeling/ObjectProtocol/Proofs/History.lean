import ObjectProtocol.Proofs.Effect

/-!
# Histories

A history lists what a run does to the session on purpose: the operations that it performs, each with its
operands and the session it finds, and the restarts.  What an operation has answered and left behind can
be read off its entry, since operations are functions; so a statement about all answers of a run is one about
its history.
-/

namespace ObjectProtocol

/-- An entry of a history: an operation that was run, or a restart. -/
inductive Event
  /-- The operation was run on the operands in the session. -/
  | operation (op : Op Code) (operands : List Value) (session : Session)
  | restart (setup : Setup)

namespace Event

def isRestart : Event → Bool
  | operation .. => false
  | restart _ => true

end Event

namespace Config

/-- The operation that `advance` runs next, if it runs one, with its operands. -/
def performed? (c : Config) : Option (Op Code × List Value) :=
  match c.control, c.stack with
  | .eval (.apply op []), _ => some (op, [])
  | .give v, .operand op done [] :: _ => some (op, (v :: done).reverse)
  | .eval (.repeat 0 _), _ => some (.object .list, [])
  | .give v, .repetition 0 _ done :: _ => some (.object .list, (v :: done).reverse)
  | _, _ => none

theorem performed?_eq_some_iff {c : Config} {op : Op Code} {operands : List Value} :
    c.performed? = some (op, operands) ↔ ∃ rest, c.Performs op operands rest := by
  constructor
  · intro h
    unfold performed? at h
    split at h
    · rename_i hcontrol
      cases h
      exact ⟨_, .bare hcontrol⟩
    · rename_i hcontrol hstack
      cases h
      exact ⟨_, .operands hcontrol hstack⟩
    · rename_i hcontrol
      cases h
      exact ⟨_, .noValues hcontrol⟩
    · rename_i hcontrol hstack
      cases h
      exact ⟨_, .values hcontrol hstack⟩
    · contradiction
  · -- The constructors of `Performs` are the cases of `performed?`.
    rintro ⟨rest, h⟩
    unfold performed?
    cases h with
    | bare hcontrol => rw [hcontrol]
    | operands hcontrol hstack => rw [hcontrol, hstack]
    | noValues hcontrol =>
      rw [hcontrol]
      rfl
    | values hcontrol hstack =>
      rw [hcontrol, hstack]
      rfl

def event? (c : Config) : Option Event :=
  c.ready.performed?.map fun p => .operation p.1 p.2 c.ready.session

/-- The `Event`s from the first configuration to the second, in order. -/
inductive History (c : Config) : List Event → Config → Prop
  | refl : History c [] c
  | step {events : List Event} {c' : Config} : History c events c' →
    History c (events ++ c'.event?.toList) c'.step
  | next {events : List Event} {c' : Config} (e : Expr) : History c events c' → c'.SettledOn [] →
    History c events { control := .eval e, session := c'.session }
  | restart {events : List Event} {c' : Config} (setup : Setup) (e : Expr) :
    History c events c' → c'.SettledOn [] →
    History c (events ++ [.restart setup])
      { control := .eval e, session := (c'.session.restart setup.options).equip setup }

variable {c c' c'' : Config} {events events' : List Event}

theorem History.leadsTo (h : c.History events c') : c.LeadsTo c' := by
  induction h with
  | refl => exact .refl
  | step _ ih => exact ih.step
  | next e _ hend ih => exact ih.next e hend
  | restart setup e _ hend ih => exact ih.restart setup e hend

theorem History.trans (h : c.History events c') (h' : c'.History events' c'') :
    c.History (events ++ events') c'' := by
  induction h' with
  | refl => rw [List.append_nil]; exact h
  | step _ ih => rw [← List.append_assoc]; exact ih.step
  | next e _ hend ih => exact ih.next e hend
  | restart setup e _ hend ih => rw [← List.append_assoc]; exact ih.restart setup e hend

/-- The `Event`s of the next `n` steps. -/
def eventsOf (c : Config) : Nat → List Event
  | 0 => []
  | n + 1 => c.eventsOf n ++ (c.after n).event?.toList

theorem history_after (c : Config) (n : Nat) : c.History (c.eventsOf n) (c.after n) := by
  induction n with
  | zero => exact .refl
  | succ n ih => exact ih.step

theorem isRestart_event? (c : Config) : ∀ event ∈ c.event?.toList, event.isRestart = false := by
  intro event hevent
  obtain ⟨p, -, rfl⟩ := Option.map_eq_some_iff.1 (Option.mem_toList.1 hevent)
  rfl

theorem isRestart_eventsOf (c : Config) (n : Nat) :
    ∀ event ∈ c.eventsOf n, event.isRestart = false := by
  induction n with
  | zero => exact fun event hevent => by contradiction
  | succ n ih => exact List.forall_mem_append.2 ⟨ih, (c.after n).isRestart_event?⟩

/-! ## What a step does -/

theorem event?_eq {op : Op Code} {operands : List Value} {rest : List Frame}
    (h : c.ready.Performs op operands rest) :
    c.event? = some (.operation op operands c.ready.session) := by
  unfold event?
  rw [performed?_eq_some_iff.2 ⟨rest, h⟩]
  rfl

theorem event?_cases (c : Config) :
    (∃ op operands rest, c.ready.Performs op operands rest ∧
      c.event? = some (.operation op operands c.ready.session)) ∨
    ((∀ op operands rest, ¬ c.ready.Performs op operands rest) ∧ c.event? = none) := by
  cases hperformed : c.ready.performed? with
  | some p =>
    obtain ⟨op, operands⟩ := p
    obtain ⟨rest, h⟩ := performed?_eq_some_iff.1 hperformed
    exact Or.inl ⟨op, operands, rest, h, event?_eq h⟩
  | none =>
    refine Or.inr ⟨fun op operands rest h => ?_, ?_⟩
    · rw [performed?_eq_some_iff.2 ⟨rest, h⟩] at hperformed
      contradiction
    · unfold event?
      rw [hperformed]
      rfl

end Config

end ObjectProtocol
