import ObjectProtocol.Proofs.Exceptions.Handing
import ObjectProtocol.Proofs.Failing.Results
import ObjectProtocol.Proofs.Registering

/-!
# What operations raise

An operation raises what the slots and members of instances fail with, or an ordinary exception of its own
making, or a failure of a declaration.  So whatever property ordinary exceptions have, the exceptions of an
operation have it as soon as those of the slots and members have it; `Store.Failing` asks for that.
-/

namespace ObjectProtocol

/-- All types are live, and the exceptions of the slots and of the access to attributes satisfy `Q`. -/
structure Store.Failing (Q : Exception → Prop) (rt : Runtime) (s : Store) : Prop where
  live : ∀ t, s.live t = .ok t
  length : ∀ ref slot, (s.instanceAt ref).type.findSlot? (·.length) = some slot →
    FailsOnly (fun f => Q f.toException) (slot.run (s.instanceAt ref))
  contains : ∀ ref slot, (s.instanceAt ref).type.findSlot? (·.contains) = some slot →
    ∀ item inside, (∀ v, FailsOnly Q (inside v)) →
      FailsOnly (fun x => Q x.toException) (slot.run s (s.instanceAt ref) item inside)
  iter : ∀ ref slot, (s.instanceAt ref).type.findSlot? (·.iter) = some slot →
    ∀ inside, (∀ v, FailsOnly Q (inside v)) →
      FailsOnly (fun x => Q x.toException) (slot.run rt (s.instanceAt ref) inside)
  next : ∀ ref slot, (s.instanceAt ref).type.findSlot? (·.next) = some slot →
    FailsOnly (fun f => Q f.toException) (slot.run (s.instanceAt ref))
  getAttr : ∀ v name, FailsOnly Q (s.getAttr v name)
  setAttr : ∀ v name w, FailsOnly Q (s.setAttr v name w)
  delAttr : ∀ v name, FailsOnly Q (s.delAttr v name)

variable {Q : Exception → Prop}

namespace Store

/-! ## Sequences -/

section Sequences

variable {s : Store} {rt : Runtime}

theorem Failing.measure (h : s.Failing Q rt) (hQ : ∀ e, e.Ordinary → Q e) (v : Value) :
    FailsOnly Q (s.measure v) := by
  have hnone : FailsOnly Q (.error (measure.noLength s v) : Except Exception Length) :=
    .error (hQ _ (Exception.ordinary_mk (by decide) _))
  cases v with
  | object ref =>
    unfold Store.measure
    dsimp only
    rw [h.live]
    dsimp only
    cases hslot : (s.instanceAt ref).type.findSlot? (·.length) with
    | some slot =>
      have hrun := h.length ref slot hslot
      dsimp only
      cases hn : slot.run (s.instanceAt ref) with
      | ok n => exact .ok _
      | error f => exact .error (hrun f hn)
    | none =>
      dsimp only
      split
      · exact .ok _
      · exact hnone
  | str | tuple | list | dict => exact .ok _
  | null | bool | int | float | type | function | method | iterator => exact hnone

theorem Failing.containsWithin (h : s.Failing Q rt) (hQ : ∀ e, e.Ordinary → Q e) (n : Nat)
    (container item : Value) : FailsOnly Q (s.containsWithin n container item) := by
  have hnone (container : Value) :
      FailsOnly Q (.error (s.notIterable container) : Except Exception Bool) :=
    .error (hQ _ (Exception.ordinary_mk (by decide) _))
  -- Handing on spends one unit of fuel, so the induction is on the fuel, for all containers.
  induction n using Nat.strongRecOn generalizing container with
  | ind n ih =>
    cases container with
    | object ref =>
      cases hslot : (s.instanceAt ref).type.findSlot? (·.contains) with
      | some slot =>
        rw [containsWithin_object (h.live _) hslot]
        refine .mapError (h.contains ref slot hslot item _ fun v => ?_)
        cases n with
        | zero => exact .error (hQ _ (Exception.ordinary_mk (by decide) _))
        | succ m => exact ih m (Nat.lt_succ_self m) v
      | none =>
        rw [containsWithin.eq_def]
        dsimp only
        rw [h.live]
        dsimp only
        rw [hslot]
        exact hnone _
    | str id text =>
      rw [containsWithin.eq_def]
      dsimp only
      split
      · exact .ok _
      · exact .error (hQ _ (Exception.ordinary_mk (by decide) _))
    | tuple | list | dict =>
      rw [containsWithin.eq_def]
      exact .ok _
    | null | bool | int | float | type | function | method | iterator =>
      rw [containsWithin.eq_def]
      exact hnone _

theorem Failing.contains_eq (h : s.Failing Q rt) (hQ : ∀ e, e.Ordinary → Q e) (container item : Value) :
    FailsOnly Q (s.contains container item) := h.containsWithin hQ _ container item

theorem Failing.iterWithin (h : s.Failing Q rt) (hQ : ∀ e, e.Ordinary → Q e) (n : Nat) (v : Value) :
    FailsOnly Q (s.iterWithin rt n v) := by
  have hnone (v : Value) : FailsOnly Q (.error (s.notIterable v) : Except Exception Sketch) :=
    .error (hQ _ (Exception.ordinary_mk (by decide) _))
  -- Again on the fuel, for all values.
  induction n using Nat.strongRecOn generalizing v with
  | ind n ih =>
    cases v with
    | object ref =>
      cases hslot : (s.instanceAt ref).type.findSlot? (·.iter) with
      | some slot =>
        rw [iterWithin_object (h.live _) hslot]
        refine .mapError (h.iter ref slot hslot _ fun v => ?_)
        cases n with
        | zero => exact .error (hQ _ (Exception.ordinary_mk (by decide) _))
        | succ m => exact ih m (Nat.lt_succ_self m) v
      | none =>
        rw [iterWithin.eq_def]
        dsimp only
        rw [h.live]
        dsimp only
        rw [hslot]
        dsimp only
        split
        · exact .ok _
        · exact hnone _
    | str | tuple | list | dict | iterator =>
      rw [iterWithin.eq_def]
      exact .ok _
    | null | bool | int | float | type | function | method =>
      rw [iterWithin.eq_def]
      exact hnone _

theorem Failing.iter_eq (h : s.Failing Q rt) (hQ : ∀ e, e.Ordinary → Q e) (v : Value) :
    FailsOnly Q (s.iter rt v) := h.iterWithin hQ _ v

theorem Failing.next_eq (h : s.Failing Q rt) (hQ : ∀ e, e.Ordinary → Q e) (v : Value) :
    FailsOnly Q (s.next v) := by
  unfold Store.next
  split
  · exact .ok _
  · rename_i ref
    dsimp only
    rw [h.live]
    dsimp only
    split
    · rename_i slot hslot
      have hrun := h.next ref slot hslot
      cases hadvance : slot.run (s.instanceAt ref) with
      | ok r => exact .ok _
      | error f => exact .error (hrun f hadvance)
    · exact .error (hQ _ (Exception.ordinary_mk (by decide) _))
  · exact .error (hQ _ (Exception.ordinary_mk (by decide) _))

theorem failsOnly_drain {S : Store → Prop} {iterator : Value}
    (hnext : ∀ s, S s → FailsOnly Q (s.next iterator))
    (happly : ∀ s r, S s → s.next iterator = .ok r → S (s.apply r.2)) (h : S s) (taken : Array Value)
    (n : Nat) : FailsOnly Q (s.drain iterator taken n).1 := by
  induction n generalizing s taken with
  | zero => exact .ok taken
  | succ n ih =>
    unfold drain
    split
    · rename_i e he
      exact .error (hnext s h e he)
    · exact .ok taken
    · rename_i v change hadvance
      exact ih (happly s _ h hadvance) _

theorem ordinary_itemAt (s : Store) (items : Array Value) (key : Value) (kind : String) :
    FailsOnly Exception.Ordinary (s.itemAt items key kind) := by
  unfold itemAt
  split
  · exact .error (Exception.ordinary_mk (by decide) _)
  · dsimp only
    split
    · exact .ok _
    · exact .error (Exception.ordinary_mk (by decide) _)

theorem ordinary_getItem (s : Store) (container key : Value) :
    FailsOnly Exception.Ordinary (s.getItem container key) := by
  unfold getItem
  split
  · exact s.ordinary_itemAt _ _ _
  · exact s.ordinary_itemAt _ _ _
  · split
    · exact .ok _
    · exact .error (Exception.ordinary_mk (by decide) _)
  · exact .error (Exception.ordinary_mk (by decide) _)

theorem ordinary_add (s : Store) (v w : Value) : FailsOnly Exception.Ordinary (s.add v w) := by
  have hunsupported : FailsOnly Exception.Ordinary
      (.error (add.unsupported s v w) : Except Exception Sketch) :=
    .error (Exception.ordinary_mk (by decide) _)
  unfold add
  split
  · split
    · exact .ok _
    · exact .error (Exception.ordinary_mk (by decide) _)
  · split
    · exact .ok _
    · split
      · exact .ok _
      · exact hunsupported
    · split
      · exact .ok _
      · exact hunsupported
    · exact .ok _
    · exact .ok _
    · exact .ok _
    · exact hunsupported

end Sequences

end Store

/-! ## Operations on objects -/

namespace Request

/-- A raised exception satisfies `Q`, and a method that `measure` asks for is one that the type of the
instance has. -/
def RaisesOnly (Q : Exception → Prop) (s : Store) : Request → Prop
  | raise e => Q e
  | measure _ d v => ∃ ref, v = .object ref ∧
    (s.instanceAt ref).type.findMethod? "__len__" = some d
  | value _ | call .. | malformed => True

variable {s : Store}

theorem RaisesOnly.mono {Q' : Exception → Prop} {r : Request} (h : r.RaisesOnly Q s)
    (hQ : ∀ e, Q e → Q' e) : r.RaisesOnly Q' s := by
  cases r with
  | raise e => exact hQ e h
  | measure => exact h
  | value | call | malformed => exact trivial

end Request

/-- What `Member.get`, `set` and `delete` fail with, on whatever instance, satisfies `Q`. -/
structure Member.Failing (Q : Exception → Prop) : Prop where
  get : ∀ (m : Member) i, FailsOnly (fun f => Q f.toException) (m.get i)
  set : ∀ (m : Member) s i v, FailsOnly (fun f => Q f.toException) (m.set s i v)
  delete : ∀ (m : Member) i, FailsOnly (fun f => Q f.toException) (m.delete i)

namespace ObjectOp

def takesMember : ObjectOp → Bool
  | memberGet _ | memberSet _ | memberDelete _ => true
  | _ => false

variable {op : ObjectOp} {operands : List Value} {rt : Runtime} {s : Store}

theorem Refuses.raises {e : Exception} (hrefuses : op.Refuses rt s operands e)
    (hQ : ∀ e, e.Ordinary → Q e) (h : s.Failing Q rt)
    (hmembers : op.takesMember = true → Member.Failing Q) : Q e := by
  -- All types are live, so asking for one never raises.
  have htype (v : Value) : ∃ t, rt.typeOf s v = .ok t := by
    cases v with
    | object ref => exact ⟨_, h.live _⟩
    | iterator ref => exact ⟨_, h.live _⟩
    | _ => exact ⟨_, rfl⟩
  cases hrefuses with
  | callMethod he => exact h.getAttr _ _ _ he
  | getAttr he => exact h.getAttr _ _ _ he
  | setAttr he => exact h.setAttr _ _ _ _ he
  | delAttr he => exact h.delAttr _ _ _ he
  | len he => exact h.measure hQ _ _ he
  | contains he => exact h.contains_eq hQ _ _ _ he
  | iter he => exact h.iter_eq hQ _ _ he
  | next he => exact h.next_eq hQ _ _ he
  | nextOrRaise he => exact h.next_eq hQ _ _ he
  | item he => exact hQ _ (s.ordinary_getItem _ _ _ he)
  | add he => exact hQ _ (s.ordinary_add _ _ _ he)
  | @typeOf v _ he => exact FailsOnly.of_exists (htype v) _ he
  | @isInstance v _ _ he => exact FailsOnly.map (.of_exists (htype v)) _ he
  | memberGet hf => exact (hmembers rfl).get _ _ _ hf
  | memberSet hf => exact (hmembers rfl).set _ _ _ _ _ hf
  | memberDelete hf => exact (hmembers rfl).delete _ _ _ hf

theorem raisesOnly_run (hQ : ∀ e, e.Ordinary → Q e) (h : s.Failing Q rt)
    (hcollect : ∀ v ∈ operands, FailsOnly Q (s.collect rt v).1)
    (hmembers : op.takesMember = true → Member.Failing Q) :
    (op.run operands rt s).1.RaisesOnly Q s := by
  have hran := op.ran_run operands rt s
  generalize op.run operands rt s = answer at hran
  cases hran with
  | refuses hrefuses => exact hrefuses.raises hQ h hmembers
  | measure hmeasure => exact Store.findMethod?_of_measure hmeasure
  | nextOrRaiseEnd => exact hQ _ (Exception.ordinary_mk (by decide) _)
  | @collectEnd v e s' heq =>
    have hall := hcollect v List.mem_cons_self
    rw [heq] at hall
    exact hall e rfl
  | _ => exact trivial

end ObjectOp

/-! ## Declarations and modules -/

namespace TypeDecl

variable {d : TypeDecl Code} {base : Option TypeObject} {f : Failure}

/-- Over these operands the declaration contradicts itself or its base, and `e` says so. -/
def Inconsistent (d : TypeDecl Code) (operands : List Value) (e : Exception) : Prop :=
  ∃ base f, operands = (base.map Value.type).toList ∧ d.fault? base = some f ∧
    f.code = .invariantBroken ∧ e = f.toException

theorem ordinary_or_of_fault? (h : d.fault? base = some f) :
    f.Ordinary ∨ ∃ p rest, (p = "'" ∨ p = "member '") ∧ f = .because .invariantBroken (p ++ rest) := by
  cases fault_of_fault? h with
  | refused => exact Or.inl (Failure.ordinary_because (by decide) _)
  | redeclared => exact Or.inr ⟨"'", _, Or.inl rfl, by simp only [String.append_assoc]; rfl⟩
  | misfit => exact Or.inr ⟨"member '", _, Or.inr rfl, by simp only [String.append_assoc]; rfl⟩
  | repeated => exact Or.inr ⟨"'", _, Or.inl rfl, by simp only [String.append_assoc]; rfl⟩

end TypeDecl

theorem Host.fault?_of_register {h : Host} {d : TypeDecl Code} {base : Option TypeObject}
    {f : Failure} (heq : h.register d base = .error f) : d.fault? base = some f := by
  unfold Host.register Registry.register TypeDecl.build at heq
  cases hfault : d.fault? base with
  | none =>
    rw [hfault] at heq
    contradiction
  | some g =>
    rw [hfault] at heq
    cases heq
    rfl

theorem Host.raisesOnly_declare (hQ : ∀ e, e.Ordinary → Q e) (h : Host) {d : TypeDecl Code}
    {operands : List Value} (hinconsistent : ∀ e, d.Inconsistent operands e → Q e) :
    (h.declare d operands).1.RaisesOnly Q h.store := by
  rcases h.declare_cases d operands with ⟨base, hoperands, -, hcases⟩ | ⟨-, hdeclare⟩
  · rcases hcases with ⟨t, h', -, hdeclare⟩ | ⟨f, hregister, hdeclare⟩
    · rw [hdeclare]
      exact trivial
    · rw [hdeclare]
      have hfault := fault?_of_register hregister
      rcases TypeDecl.ordinary_or_of_fault? hfault with hordinary | ⟨p, rest, -, heq⟩
      · exact hQ _ hordinary
      · exact hinconsistent _ ⟨base, f, hoperands, hfault, by rw [heq]; rfl, rfl⟩
  · rw [hdeclare]
    exact trivial

theorem SessionOp.ordinary_run (op : SessionOp) (operands : List Value) (s : Session) :
    (op.run operands s).1.RaisesOnly Exception.Ordinary s.host.store := by
  have honModule (name : String) {f : Module → Request}
      (hf : ∀ m, (f m).RaisesOnly Exception.Ordinary s.host.store) :
      (onModule s name f).1.RaisesOnly Exception.Ordinary s.host.store := by
    unfold onModule
    split
    · exact hf _
    · exact trivial
  unfold run
  split
  -- Variables
  · split <;> exact trivial
  · exact trivial
  · exact trivial
  -- Modules: looking into one, describing one, making one
  · refine honModule _ fun m => ?_
    unfold Module.attr
    cases m.get? _ with
    | some v => exact trivial
    | none => exact Exception.ordinary_mk (by decide) _
  · exact honModule _ fun m => trivial
  · split <;> exact trivial
  · split <;> exact trivial
  · obtain ⟨m, h', hload, -⟩ := Sample.exists_load s.host
    unfold Session.loadSample
    rw [hload]
    exact trivial
  · exact trivial

namespace Op

variable {op : Op Code} {operands : List Value} {s : Session}

/-- The members and declarations that the operation itself brings along raise only what satisfies `Q`. -/
structure Failing (Q : Exception → Prop) (op : Op Code) (operands : List Value) : Prop where
  members : ∀ o, op = .object o → o.takesMember = true → Member.Failing Q
  declaration : ∀ d, op = .declare d → ∀ e, d.Inconsistent operands e → Q e

theorem raisesOnly_run (hQ : ∀ e, e.Ordinary → Q e)
    (hstore : s.host.store.Failing Q s.host.runtime)
    (hcollect : ∀ v ∈ operands, FailsOnly Q (s.host.store.collect s.host.runtime v).1)
    (hop : op.Failing Q operands) : (op.run operands s).1.RaisesOnly Q s.host.store := by
  cases op with
  | object op => exact op.raisesOnly_run hQ hstore hcollect (hop.members op rfl)
  | draw op =>
    unfold run
    dsimp only
    split <;> exact trivial
  | declare d => exact s.host.raisesOnly_declare hQ (hop.declaration d rfl)
  | closure name body => exact trivial
  | session op => exact (op.ordinary_run operands s).mono hQ

end Op

end ObjectProtocol
