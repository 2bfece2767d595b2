import ObjectProtocol.Proofs.BuiltTypes
import ObjectProtocol.Proofs.Provenance.Sessions

/-!
# What registrations do to a host

Types are registered by declarations and by the sample module, which declares three of them.  A
declaration at fault is passed over; what an accepted one does besides adding its type to the registry is
to hand out an identity.  `Host.tryAll` takes declarations one after the other, and every operation comes
down to it: those that declare nothing leave the registry alone.
-/

namespace ObjectProtocol

theorem Builtin.mem_all (b : Builtin) : b ∈ all := by
  cases b <;> decide

theorem Runtime.mem_log_start (options : Options) (first : Identity) (b : Builtin) :
    b.typeObject first ∈ (start options first).registry.log := by
  rw [log_start]
  exact List.mem_map_of_mem (List.mem_reverse.2 b.mem_all)

abbrev Attempt := TypeDecl Code × Option TypeObject

namespace Host

/-- `Host.register` for one declaration after the other: the types that were accepted, in order, and the
host afterwards. -/
def tryAll (h : Host) : List Attempt → List TypeObject × Host
  | [] => ([], h)
  | (d, base) :: rest =>
    match h.register d base with
    | .ok (t, h) =>
      let (ts, h) := tryAll h rest
      (t :: ts, h)
    | .error _ => tryAll h rest

end Host

def TypeDecl.attempts (d : TypeDecl Code) : List Value → List Attempt
  | [] => [(d, none)]
  | [.type base] => [(d, some base)]
  | _ => []

namespace Host

/-- `registry.log` has got the types on top of those that it had, and identities have been handed out,
those of the types among them; nothing else has changed. -/
structure Registers (h : Host) (ts : List TypeObject) (h' : Host) : Prop where
  runtime_eq : h'.runtime = { h.runtime with registry := ⟨ts.reverse ++ h.runtime.registry.log⟩ }
  store_eq : ∃ id, h'.store = { h.store with nextId := id }
  nextId_le : h.store.nextId ≤ h'.store.nextId
  fresh : ∀ t ∈ ts, h.store.nextId ≤ t.id ∧ t.id < h'.store.nextId

variable {h h' h'' : Host} {ts us : List TypeObject} {t : TypeObject} {d : TypeDecl Code}
  {base : Option TypeObject}

theorem Registers.none (h : Host) {id : Identity} (hid : h.store.nextId ≤ id) :
    h.Registers [] { h with store := { h.store with nextId := id } } :=
  ⟨rfl, ⟨id, rfl⟩, hid, fun t ht => by contradiction⟩

theorem Registers.refl (h : Host) : h.Registers [] h := .none h (Nat.le_refl _)

theorem Registers.trans (hh : h.Registers ts h') (hh' : h'.Registers us h'') :
    h.Registers (ts ++ us) h'' := by
  obtain ⟨id, hid⟩ := hh.store_eq
  obtain ⟨id', hid'⟩ := hh'.store_eq
  refine ⟨?_, ⟨id', ?_⟩, Nat.le_trans hh.nextId_le hh'.nextId_le, fun t ht => ?_⟩
  · rw [hh'.runtime_eq, hh.runtime_eq, List.reverse_append, List.append_assoc]
  · rw [hid', hid]
  · rcases List.mem_append.1 ht with ht | ht
    · exact ⟨(hh.fresh t ht).1, Nat.lt_of_lt_of_le (hh.fresh t ht).2 hh'.nextId_le⟩
    · exact ⟨Nat.le_trans hh.nextId_le (hh'.fresh t ht).1, (hh'.fresh t ht).2⟩

theorem Registers.log_eq (hh : h.Registers ts h') :
    h'.runtime.registry.log = ts.reverse ++ h.runtime.registry.log := by
  rw [hh.runtime_eq]

theorem registers_register (heq : h.register d base = .ok (t, h')) : h.Registers [t] h' := by
  obtain ⟨hbuild, rfl⟩ := register_eq_ok_iff.1 heq
  refine ⟨rfl, ⟨_, rfl⟩, Nat.le_succ _, fun u hu => ?_⟩
  obtain rfl := List.mem_singleton.1 hu
  rw [TypeDecl.id_of_build hbuild]
  exact ⟨Nat.le_refl _, Nat.lt_succ_self _⟩

theorem tryAll_of_ok (heq : h.register d base = .ok (t, h')) (rest : List Attempt) :
    h.tryAll ((d, base) :: rest) = (t :: (h'.tryAll rest).1, (h'.tryAll rest).2) := by
  rw [tryAll, heq]

theorem tryAll_of_error {f : Failure} (heq : h.register d base = .error f) (rest : List Attempt) :
    h.tryAll ((d, base) :: rest) = h.tryAll rest := by
  rw [tryAll, heq]

theorem registers_tryAll (h : Host) (attempts : List Attempt) :
    h.Registers (h.tryAll attempts).1 (h.tryAll attempts).2 := by
  induction attempts generalizing h with
  | nil => exact .refl h
  | cons attempt rest ih =>
    obtain ⟨d, base⟩ := attempt
    cases heq : h.register d base with
    | ok r =>
      rw [tryAll_of_ok heq]
      exact (registers_register heq).trans (ih r.2)
    | error f =>
      rw [tryAll_of_error heq]
      exact ih h

theorem declare_eq (h : Host) (d : TypeDecl Code) (base : Option TypeObject) :
    h.declare d (base.map Value.type).toList =
      match h.register d base with
      | .ok (t, h') => (.value (.type t), h')
      | .error f => (.raise f.toException, h) := by
  cases base <;> rfl

/-- `Op.declare` is answered by its type if the declaration is accepted, and leaves everything as it is if
not. Other operands than a base are `malformed`. -/
theorem declare_cases (h : Host) (d : TypeDecl Code) (operands : List Value) :
    (∃ base, operands = (base.map Value.type).toList ∧ d.attempts operands = [(d, base)] ∧
      ((∃ t h', h.register d base = .ok (t, h') ∧ h.declare d operands = (.value (.type t), h')) ∨
        ∃ f, h.register d base = .error f ∧ h.declare d operands = (.raise f.toException, h))) ∨
    (d.attempts operands = [] ∧ h.declare d operands = (.malformed, h)) := by
  have honto (base : Option TypeObject) :
      (∃ t h', h.register d base = .ok (t, h') ∧
        h.declare d (base.map Value.type).toList = (.value (.type t), h')) ∨
      ∃ f, h.register d base = .error f ∧
        h.declare d (base.map Value.type).toList = (.raise f.toException, h) := by
    rw [declare_eq]
    cases h.register d base with
    | ok r => exact Or.inl ⟨_, _, rfl, rfl⟩
    | error f => exact Or.inr ⟨f, rfl, rfl⟩
  rcases operands with _ | ⟨v, _ | ⟨w, rest⟩⟩
  · exact Or.inl ⟨none, rfl, rfl, honto none⟩
  · by_cases hv : ∃ t, v = .type t
    · obtain ⟨t, rfl⟩ := hv
      exact Or.inl ⟨some t, rfl, rfl, honto (some t)⟩
    · refine Or.inr ⟨?_, ?_⟩
      · cases v <;> first | rfl | exact absurd ⟨_, rfl⟩ hv
      · -- A declaration over one value that is no type is malformed, and neither tries nor changes
        -- anything.
        cases v <;> first | rfl | exact absurd ⟨_, rfl⟩ hv
  · exact Or.inr ⟨by simp [TypeDecl.attempts], by simp [declare]⟩

theorem registers_declare (h : Host) (d : TypeDecl Code) (operands : List Value) :
    h.Registers (h.tryAll (d.attempts operands)).1 (h.declare d operands).2 := by
  rcases h.declare_cases d operands with ⟨base, -, hattempts, hcases⟩ | ⟨hattempts, hdeclare⟩
  · rw [hattempts]
    rcases hcases with ⟨t, h', hregister, hdeclare⟩ | ⟨f, hregister, hdeclare⟩
    · rw [tryAll_of_ok hregister, hdeclare]
      exact registers_register hregister
    · rw [tryAll_of_error hregister, hdeclare]
      exact .refl h
  · rw [hattempts, hdeclare]
    exact .refl h

end Host

namespace Registry

variable {r r' : Registry} {name : String}

theorem exists_named?_of_mem {t : TypeObject} (h : t ∈ r.log) (hname : t.name = name) :
    ∃ u, r.named? name = some u := by
  have hfound : (r.log.find? (·.name = name)).isSome = true :=
    List.find?_isSome.2 ⟨t, h, decide_eq_true hname⟩
  exact Option.isSome_iff_exists.1 hfound

theorem mem_of_named? {t : TypeObject} (h : r.named? name = some t) : t ∈ r.log ∧ t.name = name :=
  ⟨List.mem_of_find?_eq_some h, by simpa using List.find?_some h⟩

theorem exists_named?_of_suffix (h : r.log <:+ r'.log) (hnamed : ∃ t, r.named? name = some t) :
    ∃ t, r'.named? name = some t := by
  obtain ⟨t, ht⟩ := hnamed
  obtain ⟨hmem, hname⟩ := mem_of_named? ht
  exact exists_named?_of_mem (h.subset hmem) hname

end Registry

/-! ## The sample module -/

namespace Sample

def attempts : List Attempt := [(boxDecl, none), (counterIteratorDecl, none), (counterDecl, none)]

variable {h h' : Host} {m : Module} {d : TypeDecl Code}

theorem registers_addFunctions (m : Module) (h : Host)
    (fs : List (String × ArgSpec × SampleFunction)) : h.Registers [] (addFunctions m h fs).2 := by
  induction fs generalizing m h with
  | nil => exact .refl h
  | cons f fs ih => exact (Host.Registers.none h (Nat.le_succ _)).trans (ih _ _)

theorem registers_load (heq : load h = .ok (m, h')) : h.Registers (h.tryAll attempts).1 h' := by
  unfold load at heq
  split at heq
  · contradiction
  rename_i box h₁ hbox
  split at heq
  · contradiction
  rename_i iterator h₂ hiterator
  split at heq
  · contradiction
  rename_i counter h₃ hcounter
  -- Loading tries the three declarations in order, and all of them have succeeded.
  have hall : h.tryAll attempts = ([box, iterator, counter], h₃) := by
    rw [attempts, Host.tryAll_of_ok hbox, Host.tryAll_of_ok hiterator, Host.tryAll_of_ok hcounter]
    rfl
  have hregisters := h.registers_tryAll attempts
  rw [hall] at hregisters ⊢
  have hlast := congrArg Prod.snd (Except.ok.inj heq)
  dsimp only at hlast
  rw [← hlast]
  exact hregisters.trans (registers_addFunctions _ h₃ functions)

theorem exists_register (hd : d ∈ [boxDecl, counterIteratorDecl, counterDecl]) (h : Host) :
    ∃ t h', h.register d none = .ok (t, h') ∧ t.name = d.name := by
  have hfault : d.fault? none = none := by
    simp only [List.mem_cons, List.not_mem_nil, or_false] at hd
    rcases hd with rfl | rfl | rfl <;> decide
  unfold Host.register Registry.register TypeDecl.build
  rw [hfault]
  exact ⟨_, _, rfl, rfl⟩

theorem exists_load (h : Host) : ∃ m h', load h = .ok (m, h') ∧
    ∃ t, h'.runtime.registry.named? counterIteratorName = some t := by
  obtain ⟨box, h₁, hbox, -⟩ := exists_register (d := boxDecl) (by simp) h
  obtain ⟨iterator, h₂, hiterator, hname⟩ :=
    exists_register (d := counterIteratorDecl) (by simp) h₁
  obtain ⟨counter, h₃, hcounter, -⟩ := exists_register (d := counterDecl) (by simp) h₂
  have hload : ∃ m, load h = .ok (addFunctions m h₃ functions) := by
    unfold load
    rw [hbox]
    dsimp only
    rw [hiterator]
    dsimp only
    rw [hcounter]
    exact ⟨_, rfl⟩
  obtain ⟨m, hload⟩ := hload
  refine ⟨_, _, hload, ?_⟩
  -- The declaration after it may shadow the name for another type, but does not forget this one.
  have hregistered : iterator ∈ h₂.runtime.registry.log := by
    rw [Host.log_of_register hiterator]
    exact List.mem_cons_self
  have hregisters :=
    (Host.registers_register hcounter).trans (registers_addFunctions m h₃ functions)
  have hstill : iterator ∈ (addFunctions m h₃ functions).2.runtime.registry.log := by
    rw [hregisters.log_eq]
    exact List.mem_append_right _ hregistered
  exact Registry.exists_named?_of_mem hstill hname

/-- After `loadSample` there is a type under `counterIteratorName`, whatever there was before. -/
theorem registered_loadSample (s : Session) : ∃ t,
    s.loadSample.2.host.runtime.registry.named? counterIteratorName = some t := by
  obtain ⟨m, h', hload, hregistered⟩ := exists_load s.host
  unfold Session.loadSample
  rw [hload]
  exact hregistered

end Sample

namespace Session

theorem registers_addExports {m m' : Module} {h h' : Host} {decls : List ExportDecl}
    {operands : List Value} (heq : addExports m h decls operands = some (m', h')) :
    h.Registers [] h' := by
  fun_induction addExports m h decls operands with
  | case1 => cases heq; exact .refl _
  | case2 m h name spec r rest operands v h₁ hnew ih =>
    cases hnew
    exact (Host.Registers.none h (Nat.le_succ _)).trans (ih heq)
  | case3 _ _ _ _ _ _ ih => exact ih heq
  | case4 _ _ _ _ _ _ ih => exact ih heq
  | case5 _ _ _ _ _ _ ih => exact ih heq
  | case6 => contradiction

theorem registers_loadSample (s : Session) : ∃ ts, s.host.Registers ts s.loadSample.2.host := by
  unfold loadSample
  split
  · exact ⟨_, Sample.registers_load ‹_›⟩
  · exact ⟨_, .refl _⟩

end Session

end ObjectProtocol
