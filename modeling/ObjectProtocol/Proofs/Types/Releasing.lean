import Mathlib.Data.List.TakeWhile
import ObjectProtocol.Proofs.Run

/-!
# What a sweep releases

A sweep looks for the lingering types among the owners that can be reached, and keeps those that a
circle of owners holds.  So a type goes when it is neither among what is held, nor inside of it, nor
inside of any object of the store.  That set of values is given as a predicate that is closed under what
its values own; both searches stay inside it.
-/

namespace ObjectProtocol

/-- What the steps of `follow` preserve holds at the end of the row, if each step may rely on its value
being in the row. -/
theorem follow_induction {σ : Type} {row : σ → Array Value} {enough : σ → Bool}
    {step : σ → Value → σ} {I : σ → Prop}
    (hstep : ∀ state, I state → ∀ v ∈ row state, I (step state v))
    (n i : Nat) {state : σ} (h : I state) : I (follow row enough step n i state) := by
  induction n generalizing i state with
  | zero => exact h
  | succ n ih =>
    unfold follow
    split
    · exact h
    · split
      · exact h
      · rename_i v hv
        exact ih (i + 1) (hstep state h v (Array.mem_of_getElem? hv))

/-- The values of `Q` own nothing but values of `Q`, the cells of the store are among them, and the type
with the identity is not. -/
structure Store.Apart (s : Store) (Q : Value → Prop) (id : Identity) : Prop where
  owner : ∀ v, Q v → v.owner? ≠ some (.fixed id)
  parts : ∀ v, Q v → ∀ w ∈ s.parts v, Q w
  cells : ∀ v ∈ s.cells, Q v

variable {s : Store} {Q : Value → Prop} {id : Identity}

/-! ## The search among what is held -/

namespace Search

/-- The search is still looking for the type, and has only met values of `Q`. -/
structure Misses (f : Search) (Q : Value → Prop) (id : Identity) : Prop where
  wanted : id ∈ f.wanted
  hasMet_eq : f.hasMet id = false
  row : ∀ v ∈ f.row, Q v

variable {f : Search}

theorem misses_meet (h : f.Misses Q id) {v : Value} (hv : Q v) (howner : v.owner? ≠ some (.fixed id)) :
    (f.meet v).Misses Q id := by
  unfold meet
  split
  · exact h
  · rename_i owner heq
    split
    · exact h
    · refine ⟨h.wanted, ?_, fun w hw => ?_⟩
      · -- The owner that is met is another one, so `id` stays wanted.
        have hne : owner ≠ .fixed id := fun hid => howner (heq.trans (congrArg some hid))
        have hmet := h.hasMet_eq
        unfold hasMet at hmet ⊢
        rw [Std.HashSet.contains_insert, hmet, Bool.or_false]
        exact beq_eq_false_iff_ne.2 hne
      · rcases Array.mem_push.1 hw with hw | rfl
        · exact h.row w hw
        · exact hv

theorem misses_meetAll (h : f.Misses Q id) {values : List Value} (hv : ∀ v ∈ values, Q v)
    (howner : ∀ v, Q v → v.owner? ≠ some (.fixed id)) : (f.meetAll values).Misses Q id := by
  have hmeet : (values.foldl meet f).Misses Q id := by
    induction values generalizing f with
    | nil => exact h
    | cons v values ih =>
      have hfirst := hv v List.mem_cons_self
      exact ih (misses_meet h hfirst (howner v hfirst)) fun w hw => hv w (List.mem_cons_of_mem v hw)
  refine ⟨?_, hmeet.hasMet_eq, hmeet.row⟩
  -- Only types that have been met are struck off.
  have hsplit := List.takeWhile_append_dropWhile (p := (values.foldl meet f).hasMet)
    (l := (values.foldl meet f).wanted)
  have hmem := hmeet.wanted
  rw [← hsplit] at hmem
  refine (List.mem_append.1 hmem).resolve_left fun htake => ?_
  have hmet := List.mem_takeWhile_imp htake
  rw [hmeet.hasMet_eq] at hmet
  contradiction

theorem misses_extend (hapart : s.Apart Q id) (h : f.Misses Q id) {values : List Value}
    (hv : ∀ v ∈ values, Q v) : (f.extend s values).Misses Q id :=
  follow_induction (I := fun f : Search => f.Misses Q id)
    (fun _ hf v hmem => misses_meetAll hf (hapart.parts v (hf.row v hmem)) hapart.owner) _ _
    (misses_meetAll h hv hapart.owner)

end Search

/-! ## The search for circles -/

namespace Clearance

structure Misses (c : Clearance) (Q : Value → Prop) (id : Identity) : Prop where
  references : c.references.contains (.fixed id) = false
  row : ∀ v ∈ c.row, Q v

variable {c : Clearance} {v : Value}

theorem misses_insert {m : Std.HashMap Owner Nat} (h : m.contains (.fixed id) = false) {owner : Owner}
    (hne : owner ≠ .fixed id) (count : Nat) : (m.insert owner count).contains (.fixed id) = false := by
  rw [Std.HashMap.contains_insert, h, Bool.or_false]
  exact beq_eq_false_iff_ne.2 hne

theorem misses_refer (reached : Std.HashSet Owner) (h : c.Misses Q id) (hv : Q v)
    (howner : v.owner? ≠ some (.fixed id)) : (refer reached c v).Misses Q id := by
  have hpush : ∀ w ∈ c.row.push v, Q w := by
    intro w hw
    rcases Array.mem_push.1 hw with hw | rfl
    · exact h.row w hw
    · exact hv
  unfold refer
  split
  · exact h
  · rename_i owner heq
    split
    · exact h
    · -- The reference is to another owner.
      have hne : owner ≠ .fixed id := fun hid => howner (heq.trans (congrArg some hid))
      refine ⟨misses_insert h.references hne _, ?_⟩
      dsimp only
      split
      · exact hpush
      · exact h.row

theorem misses_drop (h : c.Misses Q id) (hv : Q v) (howner : v.owner? ≠ some (.fixed id)) :
    (drop c v).Misses Q id := by
  unfold drop
  split
  · exact h
  · rename_i owner heq
    have hne : owner ≠ .fixed id := fun hid => howner (heq.trans (congrArg some hid))
    split
    · exact h
    · refine ⟨?_, fun w hw => ?_⟩
      · rw [Std.HashMap.contains_erase, h.references, Bool.and_false]
      · rcases Array.mem_push.1 hw with hw | rfl
        · exact h.row w hw
        · exact hv
    · exact ⟨misses_insert h.references hne _, h.row⟩

theorem misses_foldl {step : Clearance → Value → Clearance}
    (hstep : ∀ c v, c.Misses Q id → Q v → (step c v).Misses Q id) (h : c.Misses Q id)
    {values : List Value} (hv : ∀ v ∈ values, Q v) : (values.foldl step c).Misses Q id := by
  induction values generalizing c with
  | nil => exact h
  | cons v values ih =>
    exact ih (hstep c v h (hv v List.mem_cons_self)) fun w hw => hv w (List.mem_cons_of_mem v hw)

theorem misses_run (hapart : s.Apart Q id) (reached : Std.HashSet Owner) :
    (run s reached).Misses Q id := by
  unfold run
  have hrefer (c : Clearance) (v : Value) (h : c.Misses Q id) (hv : Q v) :=
    misses_refer reached h hv (hapart.owner v hv)
  have hdrop (c : Clearance) (v : Value) (h : c.Misses Q id) (hv : Q v) :=
    misses_drop h hv (hapart.owner v hv)
  have hunreached : Clearance.Misses
      { row := (s.cells.filter fun v => v.owner?.any (!reached.contains ·)).toArray } Q id :=
    ⟨Std.HashMap.contains_empty,
      fun v hv => hapart.cells v (List.mem_filter.1 (List.mem_toArray.1 hv)).1⟩
  -- The references are counted first; what is left without any goes, with the references it makes.
  have hfull : Clearance.Misses
      (follow (·.row) (fun _ => false) (fun c v => (s.parts v).foldl (refer reached) c) s.ownerLimit 0
        { row := (s.cells.filter fun v => v.owner?.any (!reached.contains ·)).toArray }) Q id :=
    follow_induction (I := fun c : Clearance => c.Misses Q id)
      (fun c h v hmem => misses_foldl hrefer h (hapart.parts v (h.row v hmem))) _ _ hunreached
  exact follow_induction (I := fun c : Clearance => c.Misses Q id)
    (fun c h v hmem => misses_foldl hdrop h (hapart.parts v (h.row v hmem))) _ _
    ⟨hfull.references, fun v hv => hfull.row v (Array.mem_filter.1 hv).1⟩

end Clearance

/-! ## Sweeps and restarts -/

namespace Session

variable {s : Session} {t : TypeObject}

theorem mem_released_sweep {others : Unit → List Value}
    (hapart : s.host.store.Apart Q t.id) (hheld : ∀ v ∈ s.held, Q v)
    (hregistered : ∀ u ∈ s.host.runtime.registry.log, Q (.type u)) (hothers : ∀ v ∈ others (), Q v)
    (ht : t ∈ s.lingering) : t.id ∈ (s.sweep others).host.store.released := by
  have hroots : ∀ v ∈ s.held ++ s.host.runtime.registry.log.map Value.type, Q v := by
    intro v hv
    rcases List.mem_append.1 hv with hv | hv
    · exact hheld v hv
    · obtain ⟨u, hu, rfl⟩ := List.mem_map.1 hv
      exact hregistered u hu
  have hnew : Search.Misses { wanted := s.lingering.map (·.id) } Q t.id :=
    ⟨List.mem_map_of_mem ht, Std.HashSet.contains_empty,
      fun v hv => absurd hv (Array.not_mem_empty v)⟩
  have hnonempty (f : Search) (hf : f.Misses Q t.id) : ¬ f.wanted.isEmpty = true := by
    intro hempty
    have hwanted := hf.wanted
    rw [List.isEmpty_iff.1 hempty] at hwanted
    contradiction
  -- Neither the session nor the caller's values lead to the type.
  have hfirst := Search.misses_extend hapart hnew hroots
  have hsecond := Search.misses_extend hapart hfirst hothers
  -- Of what nobody reaches, nothing refers to it either.
  have hleft := Clearance.misses_run (s := s.host.store) hapart
  unfold sweep
  dsimp only
  rw [if_neg (hnonempty _ hfirst), if_neg (hnonempty _ hsecond)]
  refine List.mem_append_left _ (List.mem_map_of_mem (List.mem_filter.2 ⟨?_, ?_⟩))
  · rw [List.partition_eq_filter_filter]
    refine List.mem_filter.2 ⟨ht, ?_⟩
    rw [Function.comp_apply, hsecond.hasMet_eq]
    rfl
  · rw [(hleft _).references]
    rfl

theorem globals_restart (s : Session) (options : Options) :
    (s.restart options).globals = s.globals := by
  unfold restart
  obtain ⟨gone, lingering, heq⟩ := exists_sweep_eq
    { s with
      host :=
        { runtime := .start options s.host.store.nextId
          store := { s.host.store with nextId := s.host.store.nextId + Builtin.all.length } }
      modules := {}
      lingering := s.host.runtime.registry.log ++ s.lingering } fun () => []
  rw [heq]
  rfl

/-- `restart` releases a type that no variable leads to. -/
theorem mem_released_restart {options : Options} (hapart : s.host.store.Apart Q t.id)
    (hglobals : ∀ v ∈ s.globals.values, Q v)
    (hbuiltin : ∀ b : Builtin, Q (.type (b.typeObject s.host.store.nextId)))
    (ht : t ∈ s.host.runtime.registry.log ++ s.lingering) :
    t.id ∈ (s.restart options).host.store.released := by
  unfold restart
  refine mem_released_sweep (Q := Q) ⟨hapart.owner, hapart.parts, hapart.cells⟩ ?_ ?_
    (fun v hv => by contradiction) ht
  · intro v hv
    -- The modules have been dropped.
    exact hglobals v ((List.mem_append.1 hv).resolve_right (by rintro ⟨⟩))
  · intro u hu
    dsimp only at hu
    rw [Runtime.log_start] at hu
    obtain ⟨b, -, rfl⟩ := List.mem_map.1 hu
    exact hbuiltin b

end Session

end ObjectProtocol
