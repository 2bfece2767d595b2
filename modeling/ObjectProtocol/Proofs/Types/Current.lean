import ObjectProtocol.Proofs.Types.Registration

/-!
# Types of the present runtime

A type is released after its runtime has ended, at the earliest.  Identities are handed out in order and
never again, so what lingers from earlier runtimes, or has been released, is told apart from every type
that the present runtime has registered: the types of the present runtime are there whenever somebody asks
for them.
-/

namespace ObjectProtocol

namespace Session

/-- Identities have been handed out up to the next one, and no registered type is in `lingering` or in
`released`. -/
structure Current (s : Session) : Prop where
  registered_lt : ∀ t ∈ s.host.runtime.registry.log, t.id < s.host.store.nextId
  lingering_lt : ∀ t ∈ s.lingering, t.id < s.host.store.nextId
  released_lt : ∀ id ∈ s.host.store.released, id < s.host.store.nextId
  not_lingering : ∀ t ∈ s.host.runtime.registry.log, ∀ old ∈ s.lingering, old.id ≠ t.id
  not_released : ∀ t ∈ s.host.runtime.registry.log, t.id ∉ s.host.store.released

variable {s s' : Session}

theorem Current.live_eq (h : s.Current) {t : TypeObject} (ht : t ∈ s.host.runtime.registry.log) :
    s.host.store.live t = .ok t := if_neg (h.not_released t ht)

theorem Current.growsTo (h : s.Current) (hgrows : s.GrowsTo s') : s'.Current := by
  have hle := hgrows.host.store.nextId_le
  refine ⟨fun t ht => ?_, fun t ht => ?_, fun id hid => ?_, fun t ht old hold => ?_, fun t ht => ?_⟩
  · rcases hgrows.host.fresh t ht with ht | ⟨-, hlt⟩
    · exact Nat.lt_of_lt_of_le (h.registered_lt t ht) hle
    · exact hlt
  · rw [hgrows.lingering_eq] at ht
    exact Nat.lt_of_lt_of_le (h.lingering_lt t ht) hle
  · rw [hgrows.host.store.released_eq] at hid
    exact Nat.lt_of_lt_of_le (h.released_lt id hid) hle
  · -- A type that is registered later has a later identity than the lingering ones.
    rw [hgrows.lingering_eq] at hold
    rcases hgrows.host.fresh t ht with ht | ⟨hnew, -⟩
    · exact h.not_lingering t ht old hold
    · exact Nat.ne_of_lt (Nat.lt_of_lt_of_le (h.lingering_lt old hold) hnew)
  · rw [hgrows.host.store.released_eq]
    rcases hgrows.host.fresh t ht with ht | ⟨hnew, -⟩
    · exact h.not_released t ht
    · exact fun hid => Nat.not_lt_of_le hnew (h.released_lt t.id hid)

theorem Current.sweep (h : s.Current) (others : Unit → List Value) : (s.sweep others).Current := by
  obtain ⟨gone, lingering, hgone, hlingering, heq⟩ := s.exists_sweep_of_lingering others
  rw [heq]
  refine ⟨h.registered_lt, fun t ht => h.lingering_lt t (hlingering ht), fun id hid => ?_,
    fun t ht old hold => h.not_lingering t ht old (hlingering hold), fun t ht hid => ?_⟩
  · rcases List.mem_append.1 hid with hid | hid
    · obtain ⟨t, ht, rfl⟩ := List.mem_map.1 hid
      exact h.lingering_lt t (hgone ht)
    · exact h.released_lt id hid
  · rcases List.mem_append.1 hid with hid | hid
    · obtain ⟨old, hold, heq⟩ := List.mem_map.1 hid
      exact h.not_lingering t ht old (hgone hold) heq
    · exact h.not_released t ht hid

theorem mem_log_start {options : Options} {first : Identity} {t : TypeObject}
    (ht : t ∈ (Runtime.start options first).registry.log) :
    first ≤ t.id ∧ t.id < first + Builtin.all.length := by
  rw [Runtime.log_start] at ht
  obtain ⟨b, -, rfl⟩ := List.mem_map.1 ht
  refine ⟨Nat.le_add_right _ _, Nat.add_lt_add_left ?_ first⟩
  cases b <;> decide

theorem current_start (options : Options) : (start options).Current where
  registered_lt t ht := by
    have hlt : t.id < 0 + Builtin.all.length := (mem_log_start ht).2
    rwa [Nat.zero_add] at hlt
  lingering_lt t ht := by contradiction
  released_lt id hid := by contradiction
  not_lingering t ht old hold := by contradiction
  not_released t ht hid := by contradiction

theorem Current.restart (h : s.Current) (options : Options) : (s.restart options).Current := by
  have hle : s.host.store.nextId ≤ s.host.store.nextId + Builtin.all.length := Nat.le_add_right _ _
  have hold {t : TypeObject} (ht : t ∈ s.host.runtime.registry.log ++ s.lingering) :
      t.id < s.host.store.nextId := by
    rcases List.mem_append.1 ht with ht | ht
    · exact h.registered_lt t ht
    · exact h.lingering_lt t ht
  unfold Session.restart
  refine Current.sweep ?_ _
  refine ⟨fun t ht => (mem_log_start ht).2, fun t ht => Nat.lt_of_lt_of_le (hold ht) hle,
    fun id hid => Nat.lt_of_lt_of_le (h.released_lt id hid) hle, fun t ht old hlingers => ?_,
    fun t ht hid => ?_⟩
  · exact Nat.ne_of_lt (Nat.lt_of_lt_of_le (hold hlingers) (mem_log_start ht).1)
  · exact Nat.not_lt_of_le (mem_log_start ht).1 (h.released_lt t.id hid)

end Session

namespace Config

variable {c : Config}

theorem current_ready (h : c.session.Current) : c.ready.session.Current := by
  rcases c.ready_cases with heq | heq
  · rw [heq]
    exact h
  · rw [heq]
    exact h.sweep fun () => c.roots

/-- The types of the present runtime are told apart from those of earlier ones. -/
theorem Reachable.current (h : c.Reachable) : c.session.Current := by
  induction h with
  | start setup e =>
    exact (Session.current_start setup.options).growsTo (Session.growsTo_equip _ setup)
  | @step c hc ih =>
    rw [step_eq_advance]
    exact (current_ready ih).growsTo c.ready.growsTo_advance
  | next e hc hend ih => exact ih
  | restart setup e hc hend ih =>
    exact (ih.restart setup.options).growsTo (Session.growsTo_equip _ setup)

/-- A registered type is `live`. -/
theorem Reachable.live_eq (h : c.Reachable) {t : TypeObject}
    (ht : t ∈ c.session.host.runtime.registry.log) : c.session.host.store.live t = .ok t :=
  h.current.live_eq ht

end Config

end ObjectProtocol
