import ObjectProtocol.Host

/-!
# Types that come about

A type is built in, or built from a declaration over a base that came about itself.  What the check of
a declaration establishes for one type and its base so holds along whole chains: every member of a
chain fits the layout of the type at its front, whichever layer declares it.
-/

namespace ObjectProtocol

namespace TypeObject

/-- The types that registrations lead to: the built-in ones, and what `TypeDecl.build` makes over a built
base. -/
inductive Built : TypeObject → Prop
  | builtin (id : Identity) (name : String) : Built (.builtin id name)
  | declared {d : TypeDecl Code} {id : Identity} {base : Option TypeObject} {t : TypeObject} :
    (∀ b, base = some b → Built b) → d.build id base = .ok t → Built t

end TypeObject

namespace TypeDecl

variable {d : TypeDecl Code} {id : Identity} {base : Option TypeObject} {t : TypeObject}

theorem fault?_of_build (h : d.build id base = .ok t) : d.fault? base = none := by
  unfold build at h
  split at h
  · contradiction
  · assumption

theorem eq_of_build (h : d.build id base = .ok t) :
    t = { own :=
            { id, name := d.name, doc := d.doc, kind := d.kind, layout := d.layoutOver base,
              members := d.members, methods := d.methods, slots := d.slots,
              basetype := d.isBasetype, hasDict := d.hasDictOver base }
          bases := base.elim [] (·.chain) } := by
  unfold build at h
  split at h
  · contradiction
  · exact (Except.ok.inj h).symm

theorem id_of_build (h : d.build id base = .ok t) : t.id = id := by
  rw [eq_of_build h]
  rfl

theorem base?_of_build (h : d.build id base = .ok t) : t.base? = base := by
  rw [eq_of_build h]
  cases base <;> rfl

theorem layout_of_build (h : d.build id base = .ok t) : t.own.layout = d.layoutOver base := by
  rw [eq_of_build h]

theorem chain_of_build (h : d.build id base = .ok t) :
    t.chain = t.own :: base.elim [] (·.chain) := by
  rw [eq_of_build h]
  rfl

def Refused (base : Option TypeObject) : Prop := ∃ b, base = some b ∧ b.own.basetype = false

instance (base : Option TypeObject) : Decidable (Refused base) :=
  decidable_of_iff (base.any (!·.own.basetype) = true) (by cases base <;> simp [Refused])

def baseFault? (d : TypeDecl Code) (base : Option TypeObject) : Option Failure :=
  base.bind fun b =>
    if !b.own.basetype then
      some (.because .typeMismatch ("type '" ++ b.name ++ "' is not an acceptable base type"))
    else if !b.own.layout.isEmpty && !d.layout.isEmpty then
      some (.because .invariantBroken
        ("'" ++ d.name ++ "' redeclares the layout inherited from '" ++ b.name ++ "'"))
    else none

def misfit? (d : TypeDecl Code) (base : Option TypeObject) : Option Member :=
  d.members.find? fun m => (d.layoutOver base)[m.offset]? ≠ some m.kind

/-- `TypeDecl.fault?` runs its checks in this order. -/
theorem fault?_eq (d : TypeDecl Code) (base : Option TypeObject) :
    d.fault? base = (d.baseFault? base
      |>.or ((d.misfit? base).map fun m => .because .invariantBroken
        ("member '" ++ m.name ++ "' of '" ++ d.name ++ "' does not match field "
          ++ toString m.offset ++ " of the layout"))
      |>.or (fault?.repeated d (d.members.map (·.name)))
      |>.or (fault?.repeated d (d.methods.map (·.name)))) := rfl

/-- What `fault?` may report for a declaration over a base; the base is asked first. -/
inductive Fault (d : TypeDecl Code) (base : Option TypeObject) : Failure → Prop
  | refused {b : TypeObject} : base = some b → b.own.basetype = false → Fault d base
    (.because .typeMismatch ("type '" ++ b.name ++ "' is not an acceptable base type"))
  | redeclared {b : TypeObject} : ¬ Refused base → Fault d base
    (.because .invariantBroken
      ("'" ++ d.name ++ "' redeclares the layout inherited from '" ++ b.name ++ "'"))
  | misfit (m : Member) : ¬ Refused base → Fault d base
    (.because .invariantBroken ("member '" ++ m.name ++ "' of '" ++ d.name
      ++ "' does not match field " ++ toString m.offset ++ " of the layout"))
  | repeated (name : String) : ¬ Refused base → Fault d base
    (.because .invariantBroken ("'" ++ d.name ++ "' declares '" ++ name ++ "' twice"))

theorem accepted_of_baseFault? (h : d.baseFault? base = none) : ¬ Refused base := by
  rintro ⟨b, rfl, hrefused⟩
  simp [baseFault?, hrefused] at h

theorem fault_of_baseFault? {f : Failure} (h : d.baseFault? base = some f) : d.Fault base f := by
  unfold baseFault? at h
  obtain ⟨b, rfl, hfault⟩ := Option.bind_eq_some_iff.1 h
  cases hb : b.own.basetype with
  | false =>
    rw [if_pos (by simp [hb])] at hfault
    cases hfault
    exact .refused rfl hb
  | true =>
    rw [if_neg (by simp [hb])] at hfault
    split at hfault
    · cases hfault
      exact .redeclared (by simp [Refused, hb])
    · contradiction

theorem fault_of_fault? {f : Failure} (h : d.fault? base = some f) : d.Fault base f := by
  rw [fault?_eq] at h
  have haccepted {x y : Option Failure} (hnone : ((d.baseFault? base).or x).or y = none) :
      ¬ Refused base :=
    accepted_of_baseFault? (Option.or_eq_none_iff.1 (Option.or_eq_none_iff.1 hnone).1).1
  rcases Option.or_eq_some_iff.1 h with h | ⟨hnone, hmethods⟩
  · rcases Option.or_eq_some_iff.1 h with h | ⟨hnone, hmembers⟩
    · rcases Option.or_eq_some_iff.1 h with hbase | ⟨hnone, hmisfit⟩
      · exact fault_of_baseFault? hbase
      · obtain ⟨m, -, rfl⟩ := Option.map_eq_some_iff.1 hmisfit
        exact .misfit m (accepted_of_baseFault? hnone)
    · obtain ⟨name, -, rfl⟩ := Option.map_eq_some_iff.1 hmembers
      exact .repeated name (accepted_of_baseFault? (Option.or_eq_none_iff.1 hnone).1)
  · obtain ⟨name, -, rfl⟩ := Option.map_eq_some_iff.1 hmethods
    exact .repeated name (haccepted hnone)

theorem fits_of_fault? (h : d.fault? base = none) {m : Member} (hm : m ∈ d.members) :
    (d.layoutOver base)[m.offset]? = some m.kind := by
  -- Of the checks in a row, the one of the offsets and kinds is wanted.
  unfold fault? at h
  simp only [Option.or_eq_none_iff, Option.map_eq_none_iff, List.find?_eq_none] at h
  simpa using h.1.1.2 m hm

theorem layoutOver_of_base {b : TypeObject} (h : b.own.layout ≠ []) :
    d.layoutOver (some b) = b.own.layout := by
  simp [layoutOver, h]

end TypeDecl

namespace TypeObject

variable {t b : TypeObject} {name : String} {m : Member}

theorem Built.base? (h : t.Built) (hb : t.base? = some b) : b.Built := by
  cases h with
  | builtin id name => contradiction
  | declared hbase hbuild => exact hbase b ((TypeDecl.base?_of_build hbuild).symm.trans hb)

/-- Instances have a dictionary iff the type or one that it derives from is of kind `host`. -/
theorem Built.hasDict_iff (h : t.Built) :
    t.own.hasDict = true ↔ ∃ layer ∈ t.chain, layer.kind = .host := by
  induction h with
  | builtin id name => simp [TypeObject.builtin, chain]
  | @declared d id base t _ hbuild ih =>
    have hown : t.own.hasDict = d.hasDictOver base := by rw [TypeDecl.eq_of_build hbuild]
    have hkind : t.own.kind = d.kind := by rw [TypeDecl.eq_of_build hbuild]
    rw [hown, TypeDecl.chain_of_build hbuild]
    unfold TypeDecl.hasDictOver
    cases base with
    | none => simp [hkind]
    | some b => simp [hkind, ih b rfl]

/-- Every member of the chain is over a field of the type's `layout`, of the kind it declares. -/
def Fits (t : TypeObject) : Prop :=
  ∀ layer ∈ t.chain, ∀ m ∈ layer.members, t.own.layout[m.offset]? = some m.kind

theorem Built.fits (h : t.Built) : t.Fits := by
  -- The declaration checks the own layer; the rest of the chain is the base's.
  induction h with
  | builtin id name =>
    intro layer hlayer m hm
    obtain rfl : layer = { id, name, kind := .builtin } := List.mem_singleton.1 hlayer
    contradiction
  | @declared d id base t hbase hbuild ih =>
    intro layer hlayer m hm
    rw [TypeDecl.layout_of_build hbuild]
    rw [TypeDecl.chain_of_build hbuild, List.mem_cons] at hlayer
    rcases hlayer with rfl | hlayer
    · rw [TypeDecl.eq_of_build hbuild] at hm
      exact TypeDecl.fits_of_fault? (TypeDecl.fault?_of_build hbuild) hm
    · cases base with
      | none => contradiction
      | some b =>
        -- A base on whose chain there is a member has fields, so it prescribes the layout.
        have hfit : b.own.layout[m.offset]? = some m.kind := ih b rfl layer hlayer m hm
        have hfields : b.own.layout ≠ [] := by
          intro hnil
          rw [hnil] at hfit
          contradiction
        rw [TypeDecl.layoutOver_of_base hfields]
        exact hfit

theorem exists_layer_of_findMember? (h : t.findMember? name = some m) :
    ∃ layer ∈ t.chain, m ∈ layer.members := by
  obtain ⟨layer, hlayer, hm⟩ := List.exists_of_findSome?_eq_some h
  exact ⟨layer, hlayer, List.mem_of_find?_eq_some hm⟩

theorem Fits.of_findMember? (h : t.Fits) (hm : t.findMember? name = some m) :
    t.own.layout[m.offset]? = some m.kind := by
  obtain ⟨layer, hlayer, hmem⟩ := exists_layer_of_findMember? hm
  exact h layer hlayer m hmem

theorem name_of_findMethod? {d : Descriptor} (h : t.findMethod? name = some d) :
    d.method.name = name := by
  obtain ⟨layer, -, hlayer⟩ := List.exists_of_findSome?_eq_some h
  obtain ⟨m', hm', rfl⟩ := Option.map_eq_some_iff.1 hlayer
  simpa using List.find?_some hm'

end TypeObject

end ObjectProtocol
