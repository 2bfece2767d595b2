import ObjectProtocol.Proofs.Boxes.Moves

/-!
# Asking a box by name

On a box, and on an instance of a class that derives from the type of boxes and gives no new meaning to the
names of the moves, the names find the methods of boxes.  So a box that is asked for a move by its name is
called for that move in the next step.
-/

namespace ObjectProtocol

namespace TypeObject

/-- The type `IsBox`, or it derives from one that keeps the moves and declares nothing under their names.
-/
inductive KeepsMoves : TypeObject → Prop
  | box {t : TypeObject} : t.IsBox → KeepsMoves t
  | derived {d : TypeDecl Code} {id : Identity} {u t : TypeObject} : KeepsMoves u →
    (∀ move : Sample.Move, (∀ m ∈ d.members, m.name ≠ move.name) ∧
      ∀ m ∈ d.methods, m.name ≠ move.name) →
    d.build id (some u) = .ok t → KeepsMoves t

variable {t : TypeObject}

theorem KeepsMoves.layout_eq (h : t.KeepsMoves) : t.own.layout = Sample.boxDecl.layout := by
  induction h with
  | box hbox =>
    obtain ⟨id, hbuild⟩ := hbox
    rw [TypeDecl.layout_of_build hbuild]
    rfl
  | derived _ _ hbuild ih =>
    rw [TypeDecl.layout_of_build hbuild, TypeDecl.layoutOver_of_base, ih]
    rw [ih]
    exact List.cons_ne_nil _ _

theorem find?_of_build {d : TypeDecl Code} {id : Identity} {u : TypeObject} {name : String}
    (hbuild : d.build id (some u) = .ok t) (hmembers : ∀ m ∈ d.members, m.name ≠ name)
    (hmethods : ∀ m ∈ d.methods, m.name ≠ name) :
    t.findMember? name = u.findMember? name ∧ t.findMethod? name = u.findMethod? name := by
  have hmember : t.own.member? name = none := by
    rw [TypeDecl.eq_of_build hbuild]
    exact List.find?_eq_none.2 fun m hm => by simpa using hmembers m hm
  have hmethod : t.own.descriptor? name = none := by
    rw [TypeDecl.eq_of_build hbuild]
    exact Option.map_eq_none_iff.2 (List.find?_eq_none.2 fun m hm => by simpa using hmethods m hm)
  rw [findMember?_eq, findMethod?_eq, hmember, hmethod, TypeDecl.base?_of_build hbuild]
  exact ⟨rfl, rfl⟩

theorem KeepsMoves.find?_eq (h : t.KeepsMoves) (move : Sample.Move) :
    t.findMember? move.name = none ∧
      ∃ owner, t.findMethod? move.name = some ⟨owner, move.method⟩ := by
  induction h with
  | box hbox =>
    obtain ⟨id, hbuild⟩ := hbox
    rw [TypeDecl.eq_of_build hbuild]
    cases move <;> exact ⟨rfl, id, rfl⟩
  | derived _ hnames hbuild ih =>
    obtain ⟨hmember, hmethod⟩ := find?_of_build hbuild (hnames move).1 (hnames move).2
    rw [hmember, hmethod]
    exact ih

end TypeObject

namespace Instance

variable {i : Instance}

theorem Sound.attribute?_move (h : i.Sound) (ht : i.type.KeepsMoves) (move : Sample.Move) :
    ∃ owner, i.attribute? move.name = some (.method ⟨owner, move.method⟩) := by
  obtain ⟨hmember, owner, hmethod⟩ := ht.find?_eq move
  have hentry : i.dict.bind (·.get? move.name) = none := by
    refine Option.eq_none_iff_forall_ne_some.2 fun v hv => ?_
    have hundeclared := (h.undeclared _ v hv).2
    rw [hmethod] at hundeclared
    contradiction
  refine ⟨owner, ?_⟩
  rw [attribute?_of_no_member hmember hentry, hmethod]
  rfl

theorem Sound.exists_counter (h : i.Sound) (ht : i.type.KeepsMoves) :
    ∃ n, Sample.Box.counter i = .ok n :=
  Sample.Box.exists_counter (h.kinds_eq.trans ht.layout_eq)

end Instance

namespace Config

variable {c : Config} {ref : Ref}

/-- Asked by name for a move, without arguments and below the depth limit, the instance at `ref` is called
for it in the next step, unless its type is no longer `live`; nothing is moved or drawn before. -/
def Resolves (c : Config) (ref : Ref) : Prop :=
  ∀ (move : Sample.Move) (rest : List Frame) (t : TypeObject),
    c.Performs (.object (.callMethod move.name)) [.object ref] rest → c.depth < c.limit →
    c.ready.session.host.store.live (c.session.host.store.instanceAt ref).type = .ok t →
    c.step.Begins ref move ∧ c.step.stack = rest ∧ c.session.LeavesBox ref c.step.session

theorem resolves (hsound : (c.session.host.store.instanceAt ref).Sound)
    (htype : (c.session.host.store.instanceAt ref).type.KeepsMoves) : c.Resolves ref := by
  intro move rest t hperforms hroom hlive
  -- Making ready only releases types, so the box is read as before.
  obtain ⟨released, hstore⟩ := c.exists_store_ready
  have hat : c.ready.session.host.store.instanceAt ref = c.session.host.store.instanceAt ref := by
    rw [hstore]
    rfl
  obtain ⟨owner, hattribute⟩ := hsound.attribute?_move htype move
  have hget : c.ready.session.host.store.getAttr (.object ref) move.name =
      .ok (.method (.object ref) ⟨owner, move.method⟩) :=
    Store.getAttr_of_method (hat.symm ▸ hlive) (hat.symm ▸ hattribute)
  have hruntime := c.runtime_ready
  rw [hperforms.step_of_callMethod hget]
  refine ⟨⟨⟨_, owner, rfl⟩, ?_⟩, rfl, ⟨congrArg Sample.Box.counter hat, ?_⟩, ?_⟩
  · show c.ready.depth < c.ready.limit
    rw [depth_ready, limit_ready]
    exact hroom
  · exact congrArg Runtime.options hruntime
  · exact congrArg Runtime.generator hruntime

end Config

end ObjectProtocol
