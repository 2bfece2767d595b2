import ObjectProtocol.Proofs.Growth.Runs
import ObjectProtocol.Proofs.Sample.Instances

/-!
# Runs of the sample module

A run of the sample module begins with the module loaded and brings no native code of its own: the
classes it declares have host methods only and no slots, its modules export no native functions.  Every
type of such a run is one of the sample module or derives from one without adding native code, so
native code that a type has finds the layout it was declared with.  A method that is bound by a look-up
belongs to its receiver; since no instance ever changes its type, this also holds in every later store,
and so it can be part of an invariant of all that the run holds.
-/

namespace ObjectProtocol

/-! ## Types -/

/-- The declaration has neither native methods nor `Slots`. -/
def TypeDecl.HostOnly (d : TypeDecl Code) : Prop :=
  (∀ m ∈ d.methods, m.isNative = false) ∧ d.slots = {}

instance (d : TypeDecl Code) : Decidable d.HostOnly :=
  inferInstanceAs (Decidable ((∀ m ∈ d.methods, m.isNative = false) ∧ d.slots = {}))

namespace TypeObject

/-- The types of a `SampleRun`: built in, of the sample module, or host classes. -/
inductive Sampled : TypeObject → Prop
  | builtin (id : Identity) (name : String) : Sampled (.builtin id name)
  | sample {d : TypeDecl Code} {id : Identity} {t : TypeObject} : d ∈ Sample.nativeDecls →
    d.build id none = .ok t → Sampled t
  | hosted {d : TypeDecl Code} {id : Identity} {base : Option TypeObject} {t : TypeObject} :
    d.HostOnly → (∀ b, base = some b → Sampled b) → d.build id base = .ok t → Sampled t

namespace Sampled

variable {t : TypeObject} {layer : TypeLayer} {name : String} {d : Descriptor}

theorem built (h : t.Sampled) : t.Built := by
  induction h with
  | builtin id name => exact .builtin id name
  | sample _ hbuild => exact .declared (fun b hb => by contradiction) hbuild
  | hosted _ _ hbuild ih => exact .declared ih hbuild

theorem base? {b : TypeObject} (h : t.Sampled) (hb : t.base? = some b) : b.Sampled := by
  cases h with
  | builtin id name => contradiction
  | sample _ hbuild =>
    rw [TypeDecl.base?_of_build hbuild] at hb
    contradiction
  | hosted _ hbase hbuild =>
    rw [TypeDecl.base?_of_build hbuild] at hb
    exact hbase b hb

/-- A layer without native code, or one of the sample module; instances then have its layout. -/
def Explains (t : TypeObject) (layer : TypeLayer) : Prop :=
  ((∀ m ∈ layer.methods, m.isNative = false) ∧ layer.slots = {}) ∨
    ∃ d ∈ Sample.nativeDecls, layer.methods = d.methods ∧ layer.slots = d.slots ∧
      t.own.layout = d.layout

theorem layout_ne_nil {d : TypeDecl Code} (hd : d ∈ Sample.nativeDecls) : d.layout ≠ [] := by
  rcases Sample.cases_of_mem_nativeDecls hd with rfl | rfl <;> exact List.cons_ne_nil _ _

theorem explains (h : t.Sampled) : ∀ layer ∈ t.chain, Explains t layer := by
  induction h with
  | builtin id name =>
    intro layer hlayer
    obtain rfl : layer = { id, name, kind := .builtin } := List.mem_singleton.1 hlayer
    exact Or.inl ⟨fun m hm => by contradiction, rfl⟩
  | @sample d id t hd hbuild =>
    intro layer hlayer
    rw [TypeDecl.eq_of_build hbuild] at hlayer ⊢
    obtain rfl := List.mem_singleton.1 hlayer
    exact Or.inr ⟨d, hd, rfl, rfl, rfl⟩
  | @hosted d id base t hd hbase hbuild ih =>
    intro layer hlayer
    rw [TypeDecl.chain_of_build hbuild, List.mem_cons] at hlayer
    rcases hlayer with rfl | hlayer
    · rw [TypeDecl.eq_of_build hbuild]
      exact Or.inl hd
    · cases base with
      | none => contradiction
      | some b =>
        -- The layers of the base stay as they are, and its layout is inherited.
        rcases ih b rfl layer hlayer with hplain | ⟨decl, hdecl, hmethods, hslots, hlayout⟩
        · exact Or.inl hplain
        · refine Or.inr ⟨decl, hdecl, hmethods, hslots, ?_⟩
          have hfields : b.own.layout ≠ [] := by
            rw [hlayout]
            exact layout_ne_nil hdecl
          rw [TypeDecl.layout_of_build hbuild, TypeDecl.layoutOver_of_base hfields]
          exact hlayout

theorem exists_decl_of_findSlot? {α : Type} {pick : Slots → Option α} {slot : α} (h : t.Sampled)
    (hnone : pick {} = none) (hslot : t.findSlot? pick = some slot) :
    ∃ d ∈ Sample.nativeDecls, pick d.slots = some slot ∧ t.own.layout = d.layout := by
  obtain ⟨layer, hlayer, hpick⟩ := List.exists_of_findSome?_eq_some hslot
  rcases h.explains layer hlayer with ⟨-, hslots⟩ | ⟨d, hd, -, hslots, hlayout⟩
  · rw [hslots, hnone] at hpick
    contradiction
  · rw [hslots] at hpick
    exact ⟨d, hd, hpick, hlayout⟩

theorem exists_decl_of_findMethod? {r : MethodRoutine} (h : t.Sampled)
    (hd : t.findMethod? name = some d) (hbody : d.method.body = .native r) :
    ∃ decl ∈ Sample.nativeDecls, d.method ∈ decl.methods ∧ t.own.layout = decl.layout := by
  obtain ⟨layer, hlayer, hdescriptor⟩ := List.exists_of_findSome?_eq_some hd
  obtain ⟨m, hm, rfl⟩ := Option.map_eq_some_iff.1 hdescriptor
  have hmem : m ∈ layer.methods := List.mem_of_find?_eq_some hm
  rcases h.explains layer hlayer with ⟨hhost, -⟩ | ⟨decl, hdecl, hmethods, -, hlayout⟩
  · have hnative : m.isNative = true := by
      unfold Method.isNative
      rw [hbody]
    rw [hhost m hmem] at hnative
    contradiction
  · rw [hmethods] at hmem
    exact ⟨decl, hdecl, hmem, hlayout⟩

end Sampled

end TypeObject

/-! ## The realm of a run -/

namespace Sample

/-- The native method is one of the sample module, and its receiver an instance that has the layout for it
in `w`. -/
def Fits (w : Store) (receiver : Value) (m : Method Code) : Prop :=
  ∃ ref, receiver = .object ref ∧
    ∃ d ∈ nativeDecls, m ∈ d.methods ∧ (w.instanceAt ref).type.own.layout = d.layout

/-- What there is in a run that leads to the store `w`. -/
def realm (w : Store) : Realm where
  type := TypeObject.Sampled
  function f := ∀ spec r, f.body = .native spec r →
    ∃ g ∈ functions, spec = g.2.1 ∧ r = .sample g.2.2
  method receiver d := ∀ r, d.method.body = .native r → Fits w receiver d.method

theorem hereditary_realm (w : Store) : Hereditary (realm w) where
  absent := .builtin 0 ""
  base _ _ h hb := h.base? hb

theorem hasBuiltin_realm (w : Store) : (realm w).HasBuiltin := .builtin

theorem hasSample_realm (w : Store) : (realm w).HasSample where
  builds := by
    have hiterator : counterIteratorDecl.HostOnly := ⟨fun m hm => by contradiction, rfl⟩
    simp only [List.forall_mem_cons]
    refine ⟨fun id t hbuild => .sample (by simp [nativeDecls]) hbuild, fun id t hbuild => ?_,
      fun id t hbuild => .sample (by simp [nativeDecls]) hbuild, fun d hd => by contradiction⟩
    exact .hosted hiterator (fun b hb => by contradiction) hbuild
  functions g hg id := by
    intro spec r heq
    cases heq
    exact ⟨g, hg, rfl, rfl⟩

theorem fits_of_findMethod? {s w : Store} {ref : Ref} {name : String} {d : Descriptor}
    {r : MethodRoutine} (hkeeps : s.KeepsTypes w) (hs : s.Within (realm w))
    (hfound : (s.instanceAt ref).type.findMethod? name = some d)
    (hbody : d.method.body = .native r) : Fits w (.object ref) d.method := by
  obtain ⟨decl, hdecl, hmem, hlayout⟩ :=
    (hs.instances ref).type.exists_decl_of_findMethod? hfound hbody
  refine ⟨ref, rfl, decl, hdecl, hmem, ?_⟩
  cases hi : s.instances.get? ref with
  | none =>
    -- Where there is no instance, there are no methods.
    rw [Store.instanceAt, hi] at hfound
    contradiction
  | some i =>
    rw [Store.instanceAt, hi] at hlayout
    rw [hkeeps.type_eq hi]
    exact hlayout

theorem binds_realm {s w : Store} (hkeeps : s.KeepsTypes w) (hs : s.Within (realm w)) :
    s.Binds (realm w) := by
  intro ref name d hattribute r hbody
  exact fits_of_findMethod? hkeeps hs (Instance.findMethod?_of_attribute? hattribute) hbody

end Sample

/-! ## Runs -/

def ExportDecl.isFunction : ExportDecl → Bool
  | function .. => true
  | type _ | int .. | object _ => false

/-- The operation brings no native code along, and takes methods and members from instances only. -/
def Op.isHostOnly : Op Code → Bool
  | .object (.bind _) | .object (.memberGet _) | .object (.memberSet _)
  | .object (.memberDelete _) => false
  | .declare d => decide d.HostOnly
  | .session (.makeModule _ _ exported) => exported.all fun x => !x.isFunction
  | _ => true

theorem Op.allowed_of_isHostOnly {op : Op Code} (h : op.isHostOnly = true) (w : Store)
    (s : Session) (operands : List Value) : op.Allowed (Sample.realm w) s operands := by
  cases op with
  | object op =>
    show op.Allowed (Sample.realm w) operands
    unfold ObjectOp.Allowed
    split
    · -- `bind` is not an operation of a host.
      contradiction
    · exact trivial
  | draw op => exact trivial
  | declare d => exact fun base t hbase hbuild => .hosted (of_decide_eq_true h) hbase hbuild
  | closure name body => exact fun id spec r heq => by contradiction
  | session op =>
    cases op with
    | loadSample => exact Sample.hasSample_realm w
    -- The module may export no native function.
    | makeModule =>
      intro name spec r hmem
      have hfunction := List.all_eq_true.1 h _ hmem
      contradiction
    | getVariable | setVariable | dropVariable | moduleAttr | moduleGet | moduleInfo =>
      exact trivial

namespace Config

/-- What native code of the sample module relies on: all that the run holds is of its `realm`, now and in
every later store, no type has been released, and counters find the type of their iterators. -/
structure InSample (c : Config) : Prop where
  within : ∀ w, c.session.host.store.KeepsTypes w → c.Within (Sample.realm w)
  released_eq : c.session.host.store.released = []
  lingering_eq : c.session.lingering = []
  registered : ∃ t, c.session.host.runtime.registry.named? Sample.counterIteratorName = some t

def operation? (c : Config) : Option (Op Code) :=
  match c.control, c.stack with
  | .eval (.apply op []), _ => some op
  | .give _, .operand op _ [] :: _ => some op
  | .eval (.repeat 0 _), _ | .give _, .repetition 0 _ _ :: _ => some (.object .list)
  | _, _ => none

theorem Performs.operation?_eq {c : Config} {op : Op Code} {operands : List Value}
    {rest : List Frame} (h : c.Performs op operands rest) : c.operation? = some op := by
  unfold operation?
  cases h with
  | bare hcontrol => rw [hcontrol]
  | operands hcontrol hstack => rw [hcontrol, hstack]
  | noValues hcontrol =>
    rw [hcontrol]
    rfl
  | values hcontrol hstack =>
    rw [hcontrol, hstack]
    rfl

/-- The configurations that a session with the sample module comes to by operations that are `isHostOnly`.
-/
inductive SampleRun : Config → Prop
  | start (setup : Setup) (e : Expr) : setup.sample = true →
    SampleRun { control := .eval e, session := .ofSetup setup }
  | step {c : Config} : SampleRun c → (∀ op ∈ c.operation?, op.isHostOnly = true) → SampleRun c.step
  | next {c : Config} (e : Expr) : SampleRun c → c.SettledOn [] →
    SampleRun { control := .eval e, session := c.session }

variable {c : Config}

theorem InSample.step (h : c.InSample) (hhost : ∀ op ∈ c.operation?, op.isHostOnly = true) :
    c.step.InSample := by
  have hready := ready_eq h.lingering_eq
  have hgrows := c.growsTo_step h.lingering_eq
  refine ⟨fun w hkeeps => ?_, ?_, ?_, ?_⟩
  · -- A store that comes later than the step also comes later than what was before it.
    have hbefore := hgrows.host.store.types.trans hkeeps
    have hwithin := h.within w hbefore
    refine hwithin.step (Sample.hereditary_realm w) ?_ ?_
    · rw [hready]
      exact Sample.binds_realm hbefore hwithin.session.host.store
    · rw [hready]
      intro op operands rest hperforms
      exact Op.allowed_of_isHostOnly (hhost op hperforms.operation?_eq) w _ _
  · rw [hgrows.host.store.released_eq]
    exact h.released_eq
  · rw [hgrows.lingering_eq]
    exact h.lingering_eq
  · exact Registry.exists_named?_of_suffix hgrows.host.registry h.registered

theorem SampleRun.inSample (h : c.SampleRun) : c.InSample := by
  induction h with
  | start setup e hsample =>
    have hequip : Session.ofSetup setup = (Session.start setup.options).loadSample.2 :=
      if_pos hsample
    have hgrows := (Session.start setup.options).growsTo_loadSample
    rw [hequip]
    refine ⟨fun w _ => ?_, hgrows.host.store.released_eq, hgrows.lingering_eq,
      Sample.registered_loadSample _⟩
    have hstart := Session.within_start (Sample.hereditary_realm w)
      ((Sample.hasBuiltin_realm w).typeObject 0) setup.options
    exact within_begin (hstart.loadSample (Sample.hasSample_realm w)).2 e
  | step _ hhost ih => exact ih.step hhost
  | next e _ _ ih =>
    exact ⟨fun w hkeeps => within_begin (ih.within w hkeeps).session e, ih.released_eq,
      ih.lingering_eq, ih.registered⟩

end Config

end ObjectProtocol
