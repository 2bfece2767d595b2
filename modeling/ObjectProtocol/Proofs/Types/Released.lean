import ObjectProtocol.Proofs.Effect
import ObjectProtocol.Proofs.Growth.Runs
import ObjectProtocol.Proofs.Types.Releasing

/-!
# Released types

Objects outlive their types.  An instance whose type has been released is orphaned, and stays so in
whatever comes later: no step and no restart takes a type off the list of released ones, or gives an
instance another type.  Every operation that is applied to an orphaned instance asks for the type before
it does anything else, so all it does is raise.
-/

namespace ObjectProtocol

/-- What `Store.live` raises once the type is released. -/
def TypeObject.gone (t : TypeObject) : Exception :=
  ⟨.systemError, "type '" ++ t.name ++ "' was released"⟩

/-! ## Orphaned instances -/

namespace Store

/-- There is an instance of type `t` at `ref`, and `t` has been released. -/
structure Orphaned (s : Store) (ref : Ref) (t : TypeObject) : Prop where
  ofType : ∃ i, s.instances.get? ref = some i ∧ i.type = t
  released : t.id ∈ s.released

variable {s s' : Store} {ref : Ref} {t : TypeObject}

theorem Orphaned.mono (h : s.Orphaned ref t) (htypes : s.KeepsTypes s')
    (hreleased : s.released ⊆ s'.released) : s'.Orphaned ref t := by
  obtain ⟨i, hi, rfl⟩ := h.ofType
  exact ⟨htypes ref i hi, hreleased h.released⟩

theorem Orphaned.type_eq (h : s.Orphaned ref t) : (s.instanceAt ref).type = t := by
  obtain ⟨i, hi, rfl⟩ := h.ofType
  rw [instanceAt_eq hi]

theorem live_of_mem (h : t.id ∈ s.released) : s.live t = .error t.gone := if_pos h

theorem Orphaned.live (h : s.Orphaned ref t) : s.live (s.instanceAt ref).type = .error t.gone := by
  rw [h.type_eq]
  exact live_of_mem h.released

theorem Orphaned.not_isCallable (h : s.Orphaned ref t) : s.isCallable (.object ref) = false := by
  unfold isCallable
  dsimp only
  rw [h.live]

theorem Orphaned.typeName_eq (h : s.Orphaned ref t) : s.typeName (.object ref) = t.name := by
  show (s.instanceAt ref).type.name = t.name
  rw [h.type_eq]

end Store

/-- The operation is applied to the instance and is about what the instance is or can do. -/
inductive ObjectOp.Addresses (ref : Ref) : ObjectOp → List Value → Prop
  | getAttr (name : String) : Addresses ref (.getAttr name) [.object ref]
  | setAttr (name : String) (v : Value) : Addresses ref (.setAttr name) [.object ref, v]
  | delAttr (name : String) : Addresses ref (.delAttr name) [.object ref]
  | callMethod (name : String) (args : List Value) :
    Addresses ref (.callMethod name) (.object ref :: args)
  | len : Addresses ref .len [.object ref]
  | contains (item : Value) : Addresses ref .contains [.object ref, item]
  | iter : Addresses ref .iter [.object ref]
  | next : Addresses ref .next [.object ref]
  | nextOrRaise : Addresses ref .nextOrRaise [.object ref]
  | collect : Addresses ref .collect [.object ref]
  | typeOf : Addresses ref .typeOf [.object ref]
  | isInstance (t : TypeObject) : Addresses ref .isInstance [.object ref, .type t]

namespace Store.Orphaned

variable {s : Store} {ref : Ref} {t : TypeObject}

theorem getAttr (h : s.Orphaned ref t) (name : String) :
    s.getAttr (.object ref) name = .error t.gone := by
  unfold Store.getAttr
  dsimp only
  rw [h.live]

theorem setAttr (h : s.Orphaned ref t) (name : String) (v : Value) :
    s.setAttr (.object ref) name v = .error t.gone := by
  unfold Store.setAttr
  dsimp only
  rw [h.live]

theorem delAttr (h : s.Orphaned ref t) (name : String) :
    s.delAttr (.object ref) name = .error t.gone := by
  unfold Store.delAttr
  dsimp only
  rw [h.live]

theorem measure (h : s.Orphaned ref t) : s.measure (.object ref) = .error t.gone := by
  unfold Store.measure
  dsimp only
  rw [h.live]

theorem contains (h : s.Orphaned ref t) (item : Value) :
    s.contains (.object ref) item = .error t.gone := by
  unfold Store.contains
  rw [containsWithin.eq_def]
  dsimp only
  rw [h.live]

theorem iter (h : s.Orphaned ref t) (rt : Runtime) : s.iter rt (.object ref) = .error t.gone := by
  unfold Store.iter
  rw [iterWithin.eq_def]
  dsimp only
  rw [h.live]

theorem next (h : s.Orphaned ref t) : s.next (.object ref) = .error t.gone := by
  unfold Store.next
  dsimp only
  rw [h.live]

theorem collect (h : s.Orphaned ref t) (rt : Runtime) :
    s.collect rt (.object ref) = (.error t.gone, s) := by
  unfold Store.collect
  rw [h.iter]

theorem typeOf (h : s.Orphaned ref t) (rt : Runtime) :
    rt.typeOf s (.object ref) = .error t.gone := h.live

/-- Every operation that `Addresses` the instance raises `t.gone`, and changes nothing. -/
theorem run_eq (h : s.Orphaned ref t) {op : ObjectOp} {operands : List Value}
    (hop : op.Addresses ref operands) (rt : Runtime) : op.run operands rt s = (.raise t.gone, s) := by
  -- Every operation asks for the live type of the instance before anything else.
  cases hop with
  | getAttr name =>
    show Request.ofMaking (s.getAttr (.object ref) name) s = _
    rw [h.getAttr]
    rfl
  | setAttr name v =>
    show Request.ofChange (s.setAttr (.object ref) name v) s = _
    rw [h.setAttr]
    rfl
  | delAttr name =>
    show Request.ofChange (s.delAttr (.object ref) name) s = _
    rw [h.delAttr]
    rfl
  | callMethod name args =>
    unfold ObjectOp.run
    dsimp only
    rw [h.getAttr]
  | len =>
    unfold ObjectOp.run
    dsimp only
    rw [h.measure]
  | contains item =>
    show Request.ofResult ((s.contains (.object ref) item).map .bool) s = _
    rw [h.contains]
    rfl
  | iter =>
    show Request.ofMaking (s.iter rt (.object ref)) s = _
    rw [h.iter]
    rfl
  | next | nextOrRaise =>
    unfold ObjectOp.run
    dsimp only
    rw [h.next]
  | collect =>
    unfold ObjectOp.run
    dsimp only
    rw [h.collect]
  | typeOf =>
    show Request.ofResult ((rt.typeOf s (.object ref)).map .type) s = _
    rw [h.typeOf]
    rfl
  | isInstance u =>
    show Request.ofResult (((rt.typeOf s (.object ref)).map (·.isSubtype u)).map .bool) s = _
    rw [h.typeOf]
    rfl

end Store.Orphaned

/-! ## What stays released -/

namespace Session

theorem released_subset_sweep (s : Session) (others : Unit → List Value) :
    s.host.store.released ⊆ (s.sweep others).host.store.released := by
  obtain ⟨gone, lingering, heq⟩ := s.exists_sweep_eq others
  rw [heq]
  exact List.subset_append_right gone _

theorem released_subset_restart (s : Session) (setup : Setup) :
    s.host.store.released ⊆ ((s.restart setup.options).equip setup).host.store.released := by
  have hrestart : s.host.store.released ⊆ (s.restart setup.options).host.store.released := by
    intro id hid
    unfold restart
    exact released_subset_sweep _ _ hid
  rw [((s.restart setup.options).growsTo_equip setup).host.store.released_eq]
  exact hrestart

end Session

namespace Config

variable {c c' : Config} {ref : Ref} {t : TypeObject}

/-- Whoever asks for the type in the next step finds the instance `Orphaned`. -/
def Orphaned (c : Config) (ref : Ref) (t : TypeObject) : Prop :=
  c.ready.session.host.store.Orphaned ref t

theorem orphaned_of_session (h : c.session.host.store.Orphaned ref t) : c.Orphaned ref t := by
  refine h.mono (.of_instances_eq c.instances_ready) ?_
  rcases c.ready_cases with hready | hready
  · rw [hready]
    exact List.Subset.refl _
  · rw [hready]
    exact c.session.released_subset_sweep fun () => c.roots

theorem Orphaned.step (h : c.Orphaned ref t) : c.step.Orphaned ref t := by
  have hgrows := c.ready.growsTo_advance
  rw [step_eq_advance]
  refine orphaned_of_session (h.mono hgrows.host.store.types ?_)
  rw [hgrows.host.store.released_eq]
  exact List.Subset.refl _

theorem LeadsTo.orphaned (h : c.Orphaned ref t) (hc : c.LeadsTo c') : c'.Orphaned ref t := by
  induction hc with
  | refl => exact h
  | step _ ih => exact ih.step
  | next e _ hend ih =>
    unfold Orphaned at ih
    rw [ready_of_asksForType hend.asksForType_eq] at ih
    exact orphaned_of_session ih
  | restart setup e _ hend ih =>
    unfold Orphaned at ih
    rw [ready_of_asksForType hend.asksForType_eq] at ih
    exact orphaned_of_session
      (ih.mono (Session.keepsShapes_restart _ setup).types (Session.released_subset_restart _ setup))

/-! ## Steps that ask -/

theorem Orphaned.step_of_addresses (h : c.Orphaned ref t) {op : ObjectOp} {operands : List Value}
    {rest : List Frame} (hperforms : c.Performs (.object op) operands rest)
    (hop : op.Addresses ref operands) :
    c.step = { c.ready with control := .raise t.gone, stack := rest } := by
  exact hperforms.step_of_raise (Op.run_object_of_eq (h.run_eq hop c.ready.session.host.runtime))

theorem dispatch_of_orphaned (h : c.session.host.store.Orphaned ref t) (args : List Value) :
    c.dispatch (.object ref) args = { c with control := .raise t.gone } := by
  unfold dispatch
  dsimp only
  rw [h.live]

theorem call_of_orphaned (h : c.session.host.store.Orphaned ref t) (args : List Value)
    (hdepth : ¬ c.session.host.runtime.options.maxCallDepth ≤ c.depth) :
    c.call (.object ref) args =
      { (c.setDepth (c.depth + 1)).push (.activation (c.keptBy (.object ref) args)) with
        control := .raise t.gone } := by
  unfold call
  rw [if_neg hdepth]
  exact dispatch_of_orphaned
    (c := (c.setDepth (c.depth + 1)).push (.activation (c.keptBy (.object ref) args))) h args

theorem Orphaned.step_step_of_call (h : c.Orphaned ref t) {args : List Value}
    (hcontrol : c.control = .call (.object ref) args)
    (hdepth : c.depth < c.session.host.runtime.options.maxCallDepth) :
    c.step.step = { c.ready with control := .raise t.gone } := by
  have hready := c.control_ready.trans hcontrol
  have hruntime : c.ready.session.host.runtime = c.session.host.runtime := by
    rcases c.ready_cases with heq | heq
    · rw [heq]
    · rw [heq, c.runtime_sweep]
  -- The sweep leaves the limit and the depth alone.
  have hbelow : ¬ c.ready.session.host.runtime.options.maxCallDepth ≤ c.ready.depth := by
    unfold Config.depth at hdepth ⊢
    rw [hruntime]
    exact Nat.not_le_of_lt hdepth
  have hfirst :=
    (step_eq_advance c).trans ((advance_of_call hready).trans (call_of_orphaned h args hbelow))
  have hraise : c.step.control = .raise t.gone := by rw [hfirst]
  rw [step_of_asksForType (asksForType_of_raise hraise), hfirst]
  rfl

theorem performs_after_two {op : ObjectOp} {name : String} {v : Value}
    (hcontrol : c.control = .eval (.apply (.object op) [.apply (.session (.getVariable name)) []]))
    (hv : c.session.globals.get? name = some v) :
    (c.after 2).Performs (.object op) [v] c.stack := by
  obtain ⟨control, stack, args, session⟩ := c
  dsimp only at hcontrol hv
  subst hcontrol
  have hrun : (Op.session (.getVariable name)).run [] session = (.value v, session) := by
    unfold Op.run SessionOp.run
    dsimp only
    rw [hv]
  -- One step reaches the operand, and one more gets the variable.
  have hfirst : step ⟨.eval (.apply (.object op) [.apply (.session (.getVariable name)) []]), stack,
      args, session⟩ = ⟨.eval (.apply (.session (.getVariable name)) []),
        .operand (.object op) [] [] :: stack, args, session⟩ := by
    unfold step asksForType
    rw [Bool.and_false]
    rfl
  have hsecond : step ⟨.eval (.apply (.session (.getVariable name)) []),
      .operand (.object op) [] [] :: stack, args, session⟩ =
        ⟨.give v, .operand (.object op) [] [] :: stack, args, session⟩ := by
    unfold step asksForType
    rw [Bool.and_false, if_neg Bool.false_ne_true, Performs.advance_of_value (.bare rfl) hrun]
  rw [after_succ, after_succ, after_zero, hfirst, hsecond]
  show Performs _ _ [v].reverse stack
  exact .operands rfl rfl

/-! ## Main result -/

/-- Once the next step of `c` finds the type of an instance released, every later configuration does,
restarts included: each operation that `Addresses` the instance raises `t.gone`, as does a call of it
below the limit, and changes nothing; it is not callable, and `typeName` is still that of `t`. -/
theorem released_for_good (h : c.Orphaned ref t) (hc : c.LeadsTo c') :
    (∀ op operands rest, c'.Performs (.object op) operands rest → op.Addresses ref operands →
      c'.step = { c'.ready with control := .raise t.gone, stack := rest }) ∧
    (∀ args, c'.control = .call (.object ref) args →
      c'.depth < c'.session.host.runtime.options.maxCallDepth →
      c'.step.step = { c'.ready with control := .raise t.gone }) ∧
    c'.ready.session.host.store.isCallable (.object ref) = false ∧
    c'.ready.session.host.store.typeName (.object ref) = t.name := by
  have hlater := hc.orphaned h
  exact ⟨fun op operands rest hperforms hop => hlater.step_of_addresses hperforms hop,
    fun args hcontrol hdepth => hlater.step_step_of_call hcontrol hdepth,
    hlater.not_isCallable, hlater.typeName_eq⟩

def passingDecl : TypeDecl Code := { name := "A", kind := .host }

/-- Makes an instance of a class and forgets the class. -/
def keepOne : Config :=
  { control := .eval (.apply (.session (.setVariable "o"))
      [.apply (.object .call) [.apply (.declare passingDecl) []]])
    session := .ofSetup { sample := false } }

def oneKept : Config := keepOne.after 9

/-- Asks for the length of the instance after a restart. -/
def lengthAfterRestart : Config :=
  { control := .eval (.apply (.object .len) [.apply (.session (.getVariable "o")) []])
    session := (oneKept.session.restart {}).equip { sample := false } }

theorem orphaned_lengthAfterRestart :
    lengthAfterRestart.Orphaned 0 (oneKept.session.host.store.instanceAt 0).type := by
  apply orphaned_of_session
  have hkeeps := (Session.keepsShapes_restart oneKept.session { sample := false }).types
  refine ⟨hkeeps 0 _ rfl, ?_⟩
  -- Of what was there before, the restart leaves nothing but the instance.
  let Q (v : Value) : Prop := v = .object 0 ∨ ∃ b : Builtin, v = .type (b.typeObject 13)
  refine Session.mem_released_restart (Q := Q) ⟨?_, ?_, ?_⟩ ?_ (fun b => Or.inr ⟨b, rfl⟩)
    List.mem_cons_self
  · rintro v (rfl | ⟨b, rfl⟩) howner
    · cases howner
    · cases b <;> cases howner
  · rintro v (rfl | ⟨b, rfl⟩) w hw
    · cases hw
    · cases hw
  · intro v hv
    exact Or.inl (List.mem_singleton.1 hv)
  · intro v hv
    exact Or.inl (List.mem_singleton.1 hv)

theorem released_for_good_lengthAfterRestart :
    lengthAfterRestart.Reachable ∧
      lengthAfterRestart.Orphaned 0 (oneKept.session.host.store.instanceAt 0).type ∧
      (lengthAfterRestart.after 3).control = .raise ⟨.systemError, "type 'A' was released"⟩ := by
  have hkept : oneKept.Reachable := (Reachable.start { sample := false } _).after 9
  have hvariable : lengthAfterRestart.session.globals = oneKept.session.globals :=
    oneKept.session.globals_restart {}
  have hperforms : (lengthAfterRestart.after 2).Performs (.object .len) [.object 0] [] :=
    performs_after_two rfl (hvariable ▸ rfl)
  have hlater := released_for_good orphaned_lengthAfterRestart (LeadsTo.refl.after 2)
  refine ⟨hkept.restart { sample := false } _ ⟨rfl, rfl⟩, orphaned_lengthAfterRestart, ?_⟩
  rw [after_succ, hlater.1 .len _ _ hperforms .len]
  rfl

end Config

end ObjectProtocol
