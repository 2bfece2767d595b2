import ObjectProtocol.Proofs.Sample.Constructors
import ObjectProtocol.Proofs.Subclasses.Mirroring

/-!
# Classes that add nothing

A host class may derive from a type without declaring anything of its own, and another from that class,
and so on.  Every look-up along the chain of such a class passes it and the classes between and ends up at
the type they derive from; what their instances have that its own do not is an attribute dictionary.
-/

namespace ObjectProtocol

/-- A host class without fields, members, methods and slots of its own. -/
structure TypeDecl.AddsNothing (d : TypeDecl Code) : Prop where
  kind_eq : d.kind = .host
  layout_eq : d.layout = []
  members_eq : d.members = []
  methods_eq : d.methods = []
  slots_eq : d.slots = {}

namespace TypeObject

/-- The type is a host class that `AddsNothing`, and derives from the base through others of that sort,
which are listed from the nearest to the type on. -/
inductive Bare (base : TypeObject) : List TypeObject → TypeObject → Prop
  | direct {d : TypeDecl Code} {id : Identity} {t : TypeObject} : d.AddsNothing →
    d.build id (some base) = .ok t → Bare base [] t
  | further {d : TypeDecl Code} {id : Identity} {between : List TypeObject} {u t : TypeObject} :
    Bare base between u → d.AddsNothing → d.build id (some u) = .ok t → Bare base (u :: between) t

/-- Instances of the type have the fields of the base, and `findMember?`, `findMethod?` and `findSlot?`
find what they find on the base. -/
structure Mimics (t base : TypeObject) : Prop where
  layout_eq : t.own.layout = base.own.layout
  findMember?_eq (name : String) : t.findMember? name = base.findMember? name
  findMethod?_eq (name : String) : t.findMethod? name = base.findMethod? name
  findSlot?_eq {α : Type} {pick : Slots → Option α} : pick {} = none →
    t.findSlot? pick = base.findSlot? pick

variable {d : TypeDecl Code} {id : Identity} {base t u : TypeObject} {between : List TypeObject}

theorem Mimics.trans (h : t.Mimics u) (h' : u.Mimics base) : t.Mimics base :=
  ⟨h.layout_eq.trans h'.layout_eq, fun name => (h.findMember?_eq name).trans (h'.findMember?_eq name),
    fun name => (h.findMethod?_eq name).trans (h'.findMethod?_eq name),
    fun hpick => (h.findSlot?_eq hpick).trans (h'.findSlot?_eq hpick)⟩

theorem mimics_of_build (hd : d.AddsNothing) (hbuild : d.build id (some u) = .ok t) : t.Mimics u := by
  rw [TypeDecl.eq_of_build hbuild]
  refine ⟨?_, fun name => ?_, fun name => ?_, fun {α pick} hpick => ?_⟩
  · show d.layoutOver (some u) = u.own.layout
    -- Over a base without fields the layout is that of the class, which is empty as well.
    unfold TypeDecl.layoutOver
    dsimp only
    split
    · rename_i hempty
      rw [hd.layout_eq, List.isEmpty_iff.1 hempty]
    · rfl
  · unfold findMember? chain TypeLayer.member?
    rw [hd.members_eq]
    rfl
  · unfold findMethod? chain TypeLayer.descriptor?
    rw [hd.methods_eq]
    rfl
  · unfold findSlot? chain
    rw [hd.slots_eq, List.findSome?_cons, hpick]
    rfl

theorem Bare.mimics (h : Bare base between t) : t.Mimics base := by
  induction h with
  | direct hd hbuild => exact mimics_of_build hd hbuild
  | further hu hd hbuild ih => exact (mimics_of_build hd hbuild).trans ih

theorem Bare.kind_eq (h : Bare base between t) : t.own.kind = .host := by
  cases h with
  | direct hd hbuild | further _ hd hbuild =>
    rw [TypeDecl.eq_of_build hbuild]
    exact hd.kind_eq

theorem Bare.isSubtype (h : Bare base between t) :
    ∀ u ∈ t :: (between ++ [base]), t.isSubtype u = true := by
  -- A type derives from whatever its base derives from.
  have hpass {d : TypeDecl Code} {id : Identity} {t u v : TypeObject}
      (hbuild : d.build id (some u) = .ok t) (hv : u.isSubtype v = true) : t.isSubtype v = true := by
    unfold TypeObject.isSubtype
    rw [TypeDecl.chain_of_build hbuild, List.any_cons]
    exact Bool.or_eq_true_iff.2 (Or.inr hv)
  induction h with
  | @direct d id t hd hbuild =>
    intro u hu
    rcases List.mem_cons.1 hu with rfl | hu
    · exact u.isSubtype_refl
    · obtain rfl := List.mem_singleton.1 hu
      exact hpass hbuild u.isSubtype_refl
  | @further d id between u t _ hd hbuild ih =>
    intro v hv
    rcases List.mem_cons.1 hv with rfl | hv
    · exact v.isSubtype_refl
    · exact hpass hbuild (ih v hv)

/-! ## The bases -/

/-- What one may ask of a box or a counter by `callMethod`. -/
def sampleMethods : List String :=
  ["__len__", "getcontents", "getcounter", "getdata", "getdatadict", "brokengetdata", "incr"]

section Sample

variable (h : base.IsBox ∨ base.IsCounter)
include h

theorem kind_of_sample : base.own.kind ≠ .builtin := by
  rcases h with ⟨id, hbuild⟩ | ⟨id, hbuild⟩ <;> rw [TypeDecl.eq_of_build hbuild] <;>
    exact fun heq => by cases heq

theorem hasDict_of_sample : base.own.hasDict = false := by
  rcases h with ⟨id, hbuild⟩ | ⟨id, hbuild⟩ <;> rw [TypeDecl.eq_of_build hbuild] <;> rfl

theorem slots_of_sample : base.findSlot? (·.next) = none ∧
    (base.findSlot? (·.length) = none → base.findMethod? "__len__" = none) ∧
    ∀ slot, base.findSlot? (·.iter) = some slot → slot = .counter := by
  rcases h with ⟨id, hbuild⟩ | ⟨id, hbuild⟩ <;> rw [TypeDecl.eq_of_build hbuild]
  · exact ⟨rfl, fun _ => rfl, fun slot hslot => by cases hslot⟩
  · exact ⟨rfl, fun heq => (by cases heq), fun slot hslot => by cases hslot; rfl⟩

theorem methods_of_sample {name : String} (hname : name ∈ sampleMethods) :
    base.findMember? name = none ∧ ∀ d, base.findMethod? name = some d →
      ∃ r, d.method.body = .native r ∧ r.isLocal = true := by
  have hcases : name = "__len__" ∨ name = "getcontents" ∨ name = "getcounter" ∨ name = "getdata" ∨
      name = "getdatadict" ∨ name = "brokengetdata" ∨ name = "incr" := by
    simpa [sampleMethods] using hname
  rcases h with ⟨id, hbuild⟩ | ⟨id, hbuild⟩ <;> rw [TypeDecl.eq_of_build hbuild]
  · rcases hcases with rfl | rfl | rfl | rfl | rfl | rfl | rfl
    · exact ⟨rfl, fun d hd => by cases hd⟩
    all_goals exact ⟨rfl, fun d hd => by cases hd; exact ⟨_, rfl, rfl⟩⟩
  · rcases hcases with rfl | rfl | rfl | rfl | rfl | rfl | rfl
    · exact ⟨rfl, fun d hd => by cases hd; exact ⟨_, rfl, rfl⟩⟩
    all_goals exact ⟨rfl, fun d hd => by cases hd⟩

end Sample

end TypeObject

end ObjectProtocol
