import ObjectProtocol.Proofs.Attributes.Stability

/-!
# Inherited attributes

A name that a type does not declare means on its instances what it means on those of the base, with one
exception.  Instances of the base meet its own layer first, members and methods; instances of the
derived type meet the members of the whole chain of the base before any of its methods.  So where the
base declares a method under the name of a member of one of its own bases, the one reads the method and
the other the member.
-/

namespace ObjectProtocol

namespace TypeObject

variable {t : TypeObject} {name : String}

/-- `TypeObject.attribute?`, which instances of derived types go by, and `declared?` differ iff the own
layer has a method under the name of an inherited member. -/
theorem attribute?_eq_declared?_iff (t : TypeObject) (name : String) :
    t.attribute? name = t.declared? name ↔
      ∀ d m, t.Hides name d → t.findMember? name ≠ some m := by
  cases hmember : t.own.member? name with
  | some own =>
    -- A member of the own layer comes first in both orders, and hides nothing.
    have hboth : t.attribute? name = t.declared? name := by
      unfold attribute? declared? TypeLayer.attribute?
      rw [findMember?_eq, hmember]
      rfl
    refine iff_of_true hboth fun d m hides => ?_
    rw [hides.own.1] at hmember
    contradiction
  | none =>
    cases hmethod : t.own.descriptor? name with
    | none =>
      have hboth : t.attribute? name = t.declared? name := by
        unfold declared? TypeLayer.attribute?
        rw [hmember, hmethod, attribute?_of_own_none hmember hmethod]
        rfl
      refine iff_of_true hboth fun d m hides => ?_
      rw [hides.own.2] at hmethod
      contradiction
    | some d =>
      have hides : t.Hides name d := by
        unfold Hides TypeLayer.attribute?
        rw [hmember, hmethod]
        rfl
      have hdeclared : t.declared? name = some (.method d) := by
        unfold declared?
        rw [hides, Option.some_or]
      have hfound : t.findMethod? name = some d := by
        rw [findMethod?_eq, hmethod, Option.some_or]
      rw [hdeclared]
      unfold attribute?
      rw [hfound]
      -- Whether a member comes before the method is all that is left to see.
      cases hfind : t.findMember? name with
      | none => exact iff_of_true rfl fun d m _ => by simp
      | some m => exact iff_of_false (by simp) fun h => h d m hides rfl

end TypeObject

namespace Instance

variable {i j : Instance} {name : String} {b : TypeObject}

theorem attribute?_of_base (hbase : i.type.base? = some b)
    (hmember : i.type.own.member? name = none) (hmethod : i.type.own.descriptor? name = none)
    (hdict : i.dict.bind (·.get? name) = none) : i.attribute? name = b.attribute? name := by
  rw [attribute?_of_own_none hmember hmethod, hdict, Option.map_none, Option.none_or,
    ← TypeObject.attribute?_of_own_none hmember hmethod, hbase, Option.bind_some]

theorem attribute?_of_dict_none (hdict : i.dict.bind (·.get? name) = none) :
    i.attribute? name = i.type.declared? name := by
  unfold attribute? attributeAs? TypeObject.declared?
  rw [hdict, Option.map_none, Option.or_none]

end Instance

namespace Config

/-- In every `Reachable` configuration, whichever types are released, for an instance of a type, an
instance of its base `b`, and a name that neither the own layer nor a dictionary has:
`Instance.attribute?` is the same on both, unless `b` declares a method under the name of a member of its
own bases. Then it is the member on the one and the method on the other. While the types are `live`,
`getAttr` reads what `attribute?` says. -/
theorem inheritance_transparent {c : Config} (h : c.Reachable) (released : List Identity)
    (derived base : Ref) {b : TypeObject} (name : String) :
    let s := { c.session.host.store with released }
    let i := s.instanceAt derived
    let j := s.instanceAt base
    i.type.base? = some b → j.type = b →
      i.type.own.member? name = none → i.type.own.descriptor? name = none →
      i.dict.bind (·.get? name) = none → j.dict.bind (·.get? name) = none →
        (i.attribute? name = j.attribute? name ↔
          ∀ d m, b.Hides name d → b.findMember? name ≠ some m) ∧
        (∀ d m, b.Hides name d → b.findMember? name = some m →
          i.attribute? name = some (.member m) ∧ j.attribute? name = some (.method d)) ∧
        (s.live i.type = .ok i.type → s.ReadsAs derived name (i.attribute? name)) ∧
        (s.live b = .ok b → s.ReadsAs base name (j.attribute? name)) := by
  intro s i j hbase htype hmember hmethod hi hj
  have hstore : s.Within TypeObject.Built := h.within.session.host.store.with _ released
  -- The derived instance asks the base for `attribute?`, the instance of the base for `declared?`: the
  -- theorem is about where these two differ.
  have hderived : i.attribute? name = b.attribute? name :=
    Instance.attribute?_of_base hbase hmember hmethod hi
  have hdeclared : j.attribute? name = b.declared? name := by
    rw [Instance.attribute?_of_dict_none hj, htype]
  refine ⟨?_, ?_, ?_, ?_⟩
  · rw [hderived, hdeclared]
    exact b.attribute?_eq_declared?_iff name
  · intro d m hides hfind
    rw [hderived, hdeclared]
    constructor
    · unfold TypeObject.attribute?
      rw [hfind]
      rfl
    · unfold TypeObject.declared?
      rw [hides, Option.some_or]
  · intro hlive
    exact Store.readsAs_attribute? hlive (hstore.instances derived).fitted name
  · intro hlive
    rw [← htype] at hlive
    exact Store.readsAs_attribute? hlive (hstore.instances base).fitted name

/-- Makes an instance of a class that has a method under the name of an inherited member, and then one of
a class derived from it. -/
def makeChain : Config :=
  let base : Expr := .apply (.object .call)
    [.apply (.declare hidingDecl) [.apply (.declare cellDecl) []]]
  { control := .eval
      (.apply (.object .call) [.apply (.declare plainDecl) [.apply (.object .typeOf) [base]]])
    session := .ofSetup { sample := false } }

def chainMade : Config := makeChain.after 15

theorem reachable_chainMade : chainMade.Reachable := (Reachable.start _ _).after 15

/-- In `chainMade` the name is the member on the derived instance and the method on that of the base. -/
theorem inheritance_transparent_chainMade :
    let s := chainMade.session.host.store
    chainMade.Reachable ∧ (s.instanceAt 1).type.base? = some (s.instanceAt 0).type ∧
      (∃ v, s.getAttr (.object 1) "content" = .ok (.given v)) ∧
      ∃ d, s.getAttr (.object 0) "content" = .ok (.method (.object 0) d) := by
  intro s
  have hbase : (s.instanceAt 1).type.base? = some (s.instanceAt 0).type := rfl
  obtain ⟨d, hides⟩ : ∃ d, (s.instanceAt 0).type.Hides "content" d := ⟨_, rfl⟩
  obtain ⟨m, hfind⟩ : ∃ m, (s.instanceAt 0).type.findMember? "content" = some m := ⟨_, rfl⟩
  obtain ⟨-, hclash, hderived, hread⟩ :=
    inheritance_transparent reachable_chainMade s.released 1 0 "content" hbase rfl rfl rfl rfl rfl
  obtain ⟨hmember, hmethod⟩ := hclash d m hides hfind
  -- Nothing has been released, so both types are live.
  have hvalue := hderived rfl
  rw [hmember] at hvalue
  obtain ⟨v, -, hv⟩ := hvalue
  have hbound := hread rfl
  rw [hmethod] at hbound
  exact ⟨reachable_chainMade, hbase, ⟨v, hv⟩, d, hbound⟩

end Config

end ObjectProtocol
