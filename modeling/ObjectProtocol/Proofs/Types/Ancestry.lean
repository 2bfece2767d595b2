import ObjectProtocol.Proofs.Registering

/-!
# Ancestry

From a type one comes to its base, then to the base of that, and so on; the chain of an ancestor is what
is left of the chain of the type.  Whether one type derives from another is asked of identities, so the
answer is right only among types that have different ones: where an identity stands for one type, the
types that a type derives from are its ancestors, and deriving is a partial order because being the rest
of a chain is one.  A registration keeps it so, as it gives a new identity to what it builds.
-/

namespace ObjectProtocol

theorem Builtin.index_inj {b b' : Builtin} (h : b.index = b'.index) : b = b' := by
  revert h
  cases b <;> cases b' <;> decide

theorem TypeDecl.basetype_of_build {d : TypeDecl Code} {id : Identity} {b t : TypeObject}
    (h : d.build id (some b) = .ok t) : b.own.basetype = true := by
  have hfault := fault?_of_build h
  rw [fault?_eq] at hfault
  simp only [Option.or_eq_none_iff] at hfault
  have haccepted : ¬ Refused (some b) := accepted_of_baseFault? hfault.1.1.1
  simpa [Refused] using haccepted

namespace TypeObject

variable {t u b : TypeObject} {n : Nat}

/-- What comes of `n` times going from a type to its base. -/
def ancestor? (t : TypeObject) : Nat → Option TypeObject
  | 0 => some t
  | n + 1 => (t.ancestor? n).bind base?

theorem chain_inj : t.chain = u.chain ↔ t = u := by
  constructor
  · intro h
    obtain ⟨own, bases⟩ := t
    obtain ⟨rfl, rfl⟩ := List.cons.inj h
    rfl
  · exact congrArg chain

theorem base?_eq_some_iff : t.base? = some b ↔ t.bases = b.chain := by
  obtain ⟨own, bases⟩ := t
  cases bases with
  | nil => simp [chain]
  | cons layer rest =>
    rw [base?_mk_cons, Option.some.injEq, ← chain_inj]
    rfl

/-- An ancestor has the rest of the `chain`. -/
theorem ancestor?_eq_some_iff : t.ancestor? n = some u ↔ t.chain.drop n = u.chain := by
  induction n generalizing u with
  | zero => rw [ancestor?, Option.some.injEq, List.drop_zero, chain_inj]
  | succ n ih =>
    have hstep : t.chain.drop (n + 1) = (t.chain.drop n).tail := List.tail_drop.symm
    rw [ancestor?, Option.bind_eq_some_iff, hstep]
    constructor
    · rintro ⟨a, ha, hbase⟩
      rw [ih.1 ha]
      exact base?_eq_some_iff.1 hbase
    · intro h
      -- The `n`-th ancestor exists, since its chain is not empty.
      cases hrest : t.chain.drop n with
      | nil =>
        rw [hrest] at h
        contradiction
      | cons layer rest =>
        rw [hrest] at h
        exact ⟨⟨layer, rest⟩, ih.2 hrest, base?_eq_some_iff.2 h⟩

theorem exists_ancestor?_iff : (∃ n, t.ancestor? n = some u) ↔ u.chain <:+ t.chain := by
  constructor
  · rintro ⟨n, h⟩
    rw [← ancestor?_eq_some_iff.1 h]
    exact List.drop_suffix _ _
  · intro h
    exact ⟨_, ancestor?_eq_some_iff.2 (List.suffix_iff_eq_drop.1 h).symm⟩

theorem ancestor?_length (t : TypeObject) : t.ancestor? t.chain.length = none := by
  cases h : t.ancestor? t.chain.length with
  | none => rfl
  | some u =>
    have hchain := ancestor?_eq_some_iff.1 h
    rw [List.drop_length] at hchain
    contradiction

/-- `isSubtype` holds of whatever has the identity of an `ancestor?`. -/
theorem isSubtype_iff :
    t.isSubtype u = true ↔ ∃ n a, t.ancestor? n = some a ∧ a.id = u.id := by
  unfold isSubtype
  rw [List.any_eq_true]
  constructor
  · rintro ⟨layer, hlayer, hid⟩
    obtain ⟨n, hn, rfl⟩ := List.getElem_of_mem hlayer
    exact ⟨n, ⟨_, t.chain.drop (n + 1)⟩, ancestor?_eq_some_iff.2 (List.drop_eq_getElem_cons hn),
      of_decide_eq_true hid⟩
  · rintro ⟨n, a, ha, hid⟩
    refine ⟨a.own, List.mem_of_mem_drop (i := n) ?_, decide_eq_true hid⟩
    rw [ancestor?_eq_some_iff.1 ha]
    exact List.mem_cons_self

end TypeObject

/-! ## Types that are told apart -/

/-- Types with their bases, no two of the same identity. -/
structure Lineage (types : List TypeObject) : Prop where
  base : ∀ t ∈ types, ∀ b, t.base? = some b → b ∈ types
  eq_of_id : ∀ t ∈ types, ∀ u ∈ types, t.id = u.id → t = u

namespace Lineage

variable {types : List TypeObject} {t u w a b : TypeObject} {n i j : Nat}

theorem ancestor (h : Lineage types) (ht : t ∈ types) (ha : t.ancestor? n = some a) : a ∈ types := by
  induction n generalizing a with
  | zero =>
    cases ha
    exact ht
  | succ n ih =>
    obtain ⟨b, hb, hbase⟩ := Option.bind_eq_some_iff.1 ha
    exact h.base b (ih hb) a hbase

theorem isSubtype_iff (h : Lineage types) (ht : t ∈ types) (hu : u ∈ types) :
    t.isSubtype u = true ↔ ∃ n, t.ancestor? n = some u := by
  rw [TypeObject.isSubtype_iff]
  refine exists_congr fun n => ?_
  constructor
  · rintro ⟨a, ha, hid⟩
    rw [ha, h.eq_of_id a (h.ancestor ht ha) u hu hid]
  · intro hn
    exact ⟨u, hn, rfl⟩

theorem isSubtype_iff_suffix (h : Lineage types) (ht : t ∈ types) (hu : u ∈ types) :
    t.isSubtype u = true ↔ u.chain <:+ t.chain :=
  (h.isSubtype_iff ht hu).trans TypeObject.exists_ancestor?_iff

theorem isSubtype_trans (h : Lineage types) (ht : t ∈ types) (hu : u ∈ types) (hw : w ∈ types)
    (htu : t.isSubtype u = true) (huw : u.isSubtype w = true) : t.isSubtype w = true := by
  rw [h.isSubtype_iff_suffix ht hu] at htu
  rw [h.isSubtype_iff_suffix hu hw] at huw
  exact (h.isSubtype_iff_suffix ht hw).2 (huw.trans htu)

theorem isSubtype_antisymm (h : Lineage types) (ht : t ∈ types) (hu : u ∈ types)
    (htu : t.isSubtype u = true) (hut : u.isSubtype t = true) : t = u := by
  rw [h.isSubtype_iff_suffix ht hu] at htu
  rw [h.isSubtype_iff_suffix hu ht] at hut
  exact TypeObject.chain_inj.1 (hut.eq_of_length_le htu.length_le)

theorem ancestor?_inj (h : Lineage types) (ht : t ∈ types) (ha : t.ancestor? i = some a)
    (hb : t.ancestor? j = some b) (hid : a.id = b.id) : i = j := by
  obtain rfl := h.eq_of_id a (h.ancestor ht ha) b (h.ancestor ht hb) hid
  have hlengths := congrArg List.length
    ((TypeObject.ancestor?_eq_some_iff.1 ha).trans (TypeObject.ancestor?_eq_some_iff.1 hb).symm)
  have hpositive : (t.chain.drop i).length ≠ 0 := by
    rw [TypeObject.ancestor?_eq_some_iff.1 ha]
    exact Nat.succ_ne_zero _
  simp only [List.length_drop] at hlengths hpositive
  omega

/-! ## Registrations -/

theorem nil : Lineage [] where
  base t ht := by contradiction
  eq_of_id t ht := by contradiction

theorem cons (h : Lineage types) (hnew : ∀ u ∈ types, u.id ≠ t.id)
    (hbase : ∀ b, t.base? = some b → b ∈ types) : Lineage (t :: types) where
  base u hu b hb := by
    rcases List.mem_cons.1 hu with rfl | hu
    · exact List.mem_cons_of_mem _ (hbase b hb)
    · exact List.mem_cons_of_mem _ (h.base u hu b hb)
  eq_of_id u hu w hw hid := by
    rcases List.mem_cons.1 hu with rfl | hu
    · rcases List.mem_cons.1 hw with rfl | hw
      · rfl
      · exact absurd hid.symm (hnew w hw)
    · rcases List.mem_cons.1 hw with heq | hw
      · exact absurd (heq ▸ hid) (hnew u hu)
      · exact h.eq_of_id u hu w hw hid

theorem builtins (h : Lineage types) {first : Identity} (hlt : ∀ t ∈ types, t.id < first)
    (options : Options) : Lineage ((Runtime.start options first).registry.log ++ types) := by
  rw [Runtime.log_start]
  have hold {t : TypeObject} (ht : t ∈ types) (b : Builtin) : t.id ≠ (b.typeObject first).id :=
    Nat.ne_of_lt (Nat.lt_of_lt_of_le (hlt t ht) (Nat.le_add_right _ _))
  constructor
  · intro t ht b hb
    rcases List.mem_append.1 ht with ht | ht
    · obtain ⟨b', -, rfl⟩ := List.mem_map.1 ht
      contradiction
    · exact List.mem_append_right _ (h.base t ht b hb)
  · intro t ht u hu hid
    rcases List.mem_append.1 ht with ht | ht
    · obtain ⟨b, -, rfl⟩ := List.mem_map.1 ht
      -- Two built-in types of one identity have one index, and an older type has a smaller identity.
      rcases List.mem_append.1 hu with hu | hu
      · obtain ⟨b', -, rfl⟩ := List.mem_map.1 hu
        rw [Builtin.index_inj (Nat.add_left_cancel hid)]
      · exact absurd hid.symm (hold hu b)
    · rcases List.mem_append.1 hu with hu | hu
      · obtain ⟨b, -, rfl⟩ := List.mem_map.1 hu
        exact absurd hid (hold ht b)
      · exact h.eq_of_id t ht u hu hid

/-- What `tryAll` builds has the next identity, and its base was there before. -/
theorem tryAll (h : Lineage types) {host : Host} (hlt : ∀ t ∈ types, t.id < host.store.nextId)
    {attempts : List Attempt}
    (hbases : ∀ d base, (d, some base) ∈ attempts → base.own.basetype = true → base ∈ types) :
    Lineage ((host.tryAll attempts).1.reverse ++ types) := by
  induction attempts generalizing host types with
  | nil => exact h
  | cons attempt rest ih =>
    obtain ⟨d, base⟩ := attempt
    cases hregister : host.register d base with
    | error f =>
      rw [Host.tryAll_of_error hregister]
      exact ih h hlt fun d' b hb => hbases d' b (List.mem_cons_of_mem _ hb)
    | ok r =>
      obtain ⟨t, host'⟩ := r
      rw [Host.tryAll_of_ok hregister, List.reverse_cons, List.append_assoc]
      have hbuild := Host.build_of_register hregister
      have hid := TypeDecl.id_of_build hbuild
      have hcons : Lineage (t :: types) := by
        refine h.cons (fun u hu => ?_) fun b hb => ?_
        · rw [hid]
          exact Nat.ne_of_lt (hlt u hu)
        · rw [TypeDecl.base?_of_build hbuild] at hb
          subst hb
          exact hbases d b List.mem_cons_self (TypeDecl.basetype_of_build hbuild)
      -- The type of this attempt may be a base in the next ones.
      refine ih hcons (fun u hu => ?_) fun d' b hb hbasetype => ?_
      · obtain ⟨-, rfl⟩ := Host.register_eq_ok_iff.1 hregister
        rcases List.mem_cons.1 hu with rfl | hu
        · exact hid ▸ Nat.lt_succ_self _
        · exact Nat.lt_succ_of_lt (hlt u hu)
      · exact List.mem_cons_of_mem _ (hbases d' b (List.mem_cons_of_mem _ hb) hbasetype)

end Lineage

end ObjectProtocol
