import ObjectProtocol.Proofs.Sample.Constancy

/-!
# What leaves a bound alone

The bound of a counter is in its first field.  In a run in which no native code is put to the counter that
writes to the fields of any instance, the bound stays what it was, whatever else the run does and whatever
other native code it brings.
-/

namespace ObjectProtocol

/-- `Guarded`, and no member opens the first field either. -/
structure TypeObject.Seals (t : TypeObject) : Prop extends t.Guarded where
  not_opens : ¬ t.Opens 0

namespace Store

/-- At `ref` is an instance of type `t` with `content` in its first field. -/
def HoldsAt (s : Store) (ref : Ref) (t : TypeObject) (content : Field) : Prop :=
  ∃ i, s.instances.get? ref = some i ∧ i.type = t ∧ i.fields[0]? = some content

variable {s s' : Store} {ref : Ref} {t : TypeObject} {content : Field}

theorem HoldsAt.of_eq (h : s.HoldsAt ref t content) (heq : s'.instances = s.instances) :
    s'.HoldsAt ref t content := by
  unfold HoldsAt
  rw [heq]
  exact h

theorem HoldsAt.keepsAt (h : s.HoldsAt ref t content) (ht : t.Seals) (hkept : s.KeepsAt ref s') :
    s'.HoldsAt ref t content := by
  obtain ⟨i, hi, rfl, hfield⟩ := h
  obtain ⟨j, hj, hij⟩ := hkept i hi
  exact ⟨j, hj, hij.type_eq, (hij.field_eq ht.not_opens).trans hfield⟩

theorem HoldsAt.type_eq (h : s.HoldsAt ref t content) : (s.instanceAt ref).type = t := by
  obtain ⟨i, hi, htype, -⟩ := h
  rw [instanceAt_eq hi, htype]

theorem HoldsAt.eq {other : Field} (h : s.HoldsAt ref t content) (h' : s.HoldsAt ref t other) :
    content = other := by
  obtain ⟨i, hi, -, hcontent⟩ := h
  obtain ⟨j, hj, -, hother⟩ := h'
  cases hi.symm.trans hj
  exact Option.some.inj (hcontent.symm.trans hother)

end Store

/-! ## Runs -/

namespace Config

variable {c c' : Config} {ref : Ref} {t : TypeObject} {content : Field}

end Config

end ObjectProtocol
