import ObjectProtocol.Proofs.Effect
import ObjectProtocol.Proofs.Operations.Writes

/-!
# What a step writes

A step of the machine runs an operation or a method, or it makes an instance and initializes it.
`Config.Edits` lists what the first kind writes to the store, and `edits_advance` tells the two kinds
apart: no other step makes an instance.
-/

namespace ObjectProtocol

/-- Only `len` asks a method for a length, one that the type of the instance has. -/
theorem Op.found_of_measure {op : Op Code} {operands : List Value} {s : Session} {t : TypeObject}
    {d : Descriptor} {receiver : Value} (h : (op.run operands s).1 = .measure t d receiver) :
    ∃ ref, receiver = .object ref ∧
      (s.host.store.instanceAt ref).type.findMethod? "__len__" = some d := by
  cases op with
  | object op =>
    have hran := op.ran_run operands s.host.runtime s.host.store
    have hrequest : (op.run operands s.host.runtime s.host.store).1 = .measure t d receiver := h
    generalize op.run operands s.host.runtime s.host.store = answer at hran hrequest
    cases hran with
    | measure hmeasure =>
      cases hrequest
      exact Store.findMethod?_of_measure hmeasure
    | _ => contradiction
  | draw op =>
    unfold Op.run at h
    dsimp only at h
    split at h <;> contradiction
  -- The other operations give or raise at once.
  | declare d =>
    have hdirect : ((Op.declare d).run operands s).1.isDirect = true :=
      s.host.isDirect_declare d operands
    rw [h] at hdirect
    contradiction
  | closure name body => contradiction
  | session op =>
    have hdirect : ((Op.session op).run operands s).1.isDirect = true :=
      (op.serves_run operands s).isDirect
    rw [h] at hdirect
    contradiction

namespace Config

/-- What the next `advance` writes to objects that exist, unless it makes an instance. -/
inductive Edits (c : Config) (s : Store) : Edit → Prop
  | operation {op : Op Code} {operands : List Value} {rest : List Frame} {e : Edit} :
    c.Performs op operands rest → op.Edits s operands e → Edits c s e
  /-- An operation asks the method of an instance for a length. -/
  | length {op : Op Code} {operands : List Value} {rest : List Frame} {ref : Ref} {d : Descriptor}
    {e : Edit} : c.Performs op operands rest →
    (c.session.host.store.instanceAt ref).type.findMethod? "__len__" = some d →
    d.Writes s (.object ref) e → Edits c s e
  | method {id : Identity} {receiver : Value} {d : Descriptor} {args : List Value} {e : Edit} :
    c.control = .call (.method id receiver d) args → d.Writes s receiver e → Edits c s e
  | object {ref : Ref} {d : Descriptor} {args : List Value} {e : Edit} :
    c.control = .call (.object ref) args →
    (c.session.host.store.instanceAt ref).type.findMethod? "__call__" = some d →
    d.Writes s (.object ref) e → Edits c s e

/-- `advance` edits the store, unless it calls a type: then the store gets an instance, which is
initialized. -/
theorem edits_advance (c : Config) :
    c.session.host.store.EditedBy c.Edits c.advance.session.host.store ∨
    ∃ t args, c.control = .call (.type t) args ∧
      (c.session.host.store.newInstance (.alloc t)).2.EditedBy
        (t.Initializes c.session.host.store.instances.size) c.advance.session.host.store := by
  have heffect := c.effect_advance
  generalize c.advance.session = s' at heffect ⊢
  cases heffect with
  | count depth => exact Or.inl .refl
  | make sketch hsketch => exact Or.inl (hsketch.editedBy _)
  | makeDict m => exact Or.inl (.dict m .refl)
  | @operate op operands rest hperforms =>
    exact Or.inl ((op.editedBy_run operands c.session).mono fun _ _ => .operation hperforms)
  -- The operation changes nothing itself; the method it falls back on may.
  | @measure op operands rest t d receiver hperforms hrequest =>
    obtain ⟨ref, rfl, hd⟩ := Op.found_of_measure hrequest
    have hrun := (op.editedBy_run operands c.session).mono fun _ _ => Edits.operation hperforms
    have hmethod := Host.editedBy_runMethod (op.run operands c.session).2.host d (.object ref) []
    exact Or.inl (hrun.trans (hmethod.mono fun _ _ => .length hperforms hd))
  | function _ => exact Or.inl (c.counted.host.editedBy_runFunction _ _)
  | method hcontrol =>
    exact Or.inl ((c.counted.host.editedBy_runMethod _ _ _).mono fun _ _ => .method hcontrol)
  | object hcontrol hd =>
    exact Or.inl ((c.counted.host.editedBy_runMethod _ _ _).mono fun _ _ => .object hcontrol hd)
  -- The instance is added first, and what follows is an edit of the store with it.
  | @create t args hcontrol =>
    exact Or.inr ⟨t, args, hcontrol, (c.counted.host.newInstance t).2.editedBy_setUp t _ args⟩

end Config

end ObjectProtocol
