import ObjectProtocol.Attribute
import ObjectProtocol.Proofs.Provenance.Objects

/-!
# What a name resolves to

A look-up meets the type's own layer, then the dictionary, then the bases.  The lemmas take it apart at
the first of these that has the name, and say what is left of it on a sound instance, whose dictionary
has no declared name: a member of the chain is found unless a method of the type's own layer hides it.
-/

namespace ObjectProtocol

namespace TypeObject

variable {t : TypeObject} {name : String}

/-- What the own layer does not declare, `TypeObject.attribute?` takes from the base. -/
theorem attribute?_of_own_none (hmember : t.own.member? name = none)
    (hmethod : t.own.descriptor? name = none) :
    t.base?.bind (·.attribute? name) = t.attribute? name := by
  unfold attribute?
  rw [findMember?_eq, findMethod?_eq, hmember, hmethod]
  cases t.base? with
  | none => rfl
  | some b => rfl

theorem own_member?_of_findMember? (h : t.findMember? name = none) : t.own.member? name = none := by
  rw [findMember?_eq] at h
  exact (Option.or_eq_none_iff.1 h).1

theorem own_descriptor?_of_findMethod? (h : t.findMethod? name = none) :
    t.own.descriptor? name = none := by
  rw [findMethod?_eq] at h
  exact (Option.or_eq_none_iff.1 h).1

end TypeObject

namespace Instance

variable {i : Instance} {name : String} {m : Member} {d : Descriptor}

theorem attribute?_of_member (h : i.type.own.member? name = some m) :
    i.attribute? name = some (.member m) := by
  unfold attribute? attributeAs? TypeLayer.attribute?
  rw [h]
  rfl

theorem attribute?_of_method (hmember : i.type.own.member? name = none)
    (hmethod : i.type.own.descriptor? name = some d) : i.attribute? name = some (.method d) := by
  unfold attribute? attributeAs? TypeLayer.attribute?
  rw [hmember, hmethod]
  rfl

theorem attribute?_of_own_none (hmember : i.type.own.member? name = none)
    (hmethod : i.type.own.descriptor? name = none) :
    i.attribute? name =
      ((i.dict.bind (·.get? name)).map .entry).or (i.type.attribute? name) := by
  unfold attribute? attributeAs? TypeLayer.attribute?
  rw [hmember, hmethod, TypeObject.attribute?_of_own_none hmember hmethod]
  rfl

def Has (i : Instance) (name : String) : Attribute → Prop
  | .member m => i.type.findMember? name = some m
  | .method d => i.type.findMethod? name = some d
  | .entry v => i.dict.bind (·.get? name) = some v

theorem has_of_attribute? {a : Attribute} (h : i.attribute? name = some a) : i.Has name a := by
  cases hmember : i.type.own.member? name with
  | some m =>
    rw [attribute?_of_member hmember] at h
    cases h
    show i.type.findMember? name = some m
    rw [TypeObject.findMember?_eq, hmember]
    rfl
  | none =>
    cases hmethod : i.type.own.descriptor? name with
    | some d =>
      rw [attribute?_of_method hmember hmethod] at h
      cases h
      show i.type.findMethod? name = some d
      rw [TypeObject.findMethod?_eq, hmethod]
      rfl
    | none =>
      -- What is left are the dictionary and the bases, members before methods.
      rw [attribute?_of_own_none hmember hmethod] at h
      unfold TypeObject.attribute? at h
      rcases Option.or_eq_some_iff.1 h with hentry | ⟨-, h⟩
      · obtain ⟨v, hv, rfl⟩ := Option.map_eq_some_iff.1 hentry
        exact hv
      · rcases Option.or_eq_some_iff.1 h with hfound | ⟨-, h⟩
        · obtain ⟨m, hm, rfl⟩ := Option.map_eq_some_iff.1 hfound
          exact hm
        · obtain ⟨d, hd, rfl⟩ := Option.map_eq_some_iff.1 h
          exact hd

theorem findMember?_of_attribute? (h : i.attribute? name = some (.member m)) :
    i.type.findMember? name = some m := has_of_attribute? h

theorem findMethod?_of_attribute? (h : i.attribute? name = some (.method d)) :
    i.type.findMethod? name = some d := has_of_attribute? h

theorem attribute?_of_undeclared (hmember : i.type.findMember? name = none)
    (hmethod : i.type.findMethod? name = none) :
    i.attribute? name = (i.dict.bind (·.get? name)).map .entry := by
  rw [attribute?_of_own_none (TypeObject.own_member?_of_findMember? hmember)
    (TypeObject.own_descriptor?_of_findMethod? hmethod)]
  unfold TypeObject.attribute?
  rw [hmember, hmethod]
  exact Option.or_none

theorem attribute?_of_no_member (hmember : i.type.findMember? name = none)
    (hentry : i.dict.bind (·.get? name) = none) :
    i.attribute? name = (i.type.findMethod? name).map .method := by
  have hown := TypeObject.own_member?_of_findMember? hmember
  cases hmethod : i.type.own.descriptor? name with
  | some d =>
    rw [attribute?_of_method hown hmethod, TypeObject.findMethod?_eq, hmethod]
    rfl
  | none =>
    rw [attribute?_of_own_none hown hmethod, hentry]
    unfold TypeObject.attribute?
    rw [hmember]
    rfl

namespace Sound

theorem dict_eq_none (h : i.Sound) (hmember : i.type.findMember? name = some m) :
    i.dict.bind (·.get? name) = none := by
  cases hentry : i.dict.bind (·.get? name) with
  | none => rfl
  | some v =>
    obtain ⟨hnone, -⟩ := h.undeclared name v hentry
    rw [hmember] at hnone
    contradiction

/-- On a `Sound` instance, a member of the chain is what its name means, unless a method of the own layer
hides it. -/
theorem attribute?_of_findMember? (h : i.Sound) (hmember : i.type.findMember? name = some m)
    (hvisible : ∀ d, i.type.own.attribute? name ≠ some (.method d)) :
    i.attribute? name = some (.member m) := by
  cases hown : i.type.own.member? name with
  | some own =>
    rw [TypeObject.findMember?_eq, hown] at hmember
    cases hmember
    exact attribute?_of_member hown
  | none =>
    -- The own layer says nothing of the name, and neither does the dictionary.
    have hmethod : i.type.own.descriptor? name = none := by
      cases hd : i.type.own.descriptor? name with
      | none => rfl
      | some d =>
        refine absurd ?_ (hvisible d)
        unfold TypeLayer.attribute?
        rw [hown, hd]
        rfl
    rw [attribute?_of_own_none hown hmethod, h.dict_eq_none hmember]
    unfold TypeObject.attribute?
    rw [hmember]
    rfl

end Sound

end Instance

end ObjectProtocol
