import ObjectProtocol.Proofs.Provenance.Registered
import ObjectProtocol.Proofs.Types.Ancestry
import ObjectProtocol.Proofs.Types.Current

/-!
# Subtyping

Whatever types there are in a state have been registered, by the present runtime or by an earlier one,
and a registration takes the next identity of the store, which no runtime gives twice.  So the types of a
state are part of a lineage, in which an identity stands for one type, and on it the test for subtypes,
which compares identities along a chain, is a partial order: a type derives from its ancestors and from
nothing else.  The type that is read where there is no object is no type of any state.
-/

namespace ObjectProtocol

/-! ## Realms of known types -/

/-- The types of the list, and the `default` one, which is read where there is no object. -/
def Realm.known (types : List TypeObject) : Realm where
  type t := t ∈ types ∨ t = default

namespace Realm

variable {types : List TypeObject}

theorem hereditary_known (h : Lineage types) : Hereditary (known types) where
  absent := .inr rfl
  base t b ht hb := by
    rcases ht with ht | rfl
    · exact .inl (h.base t ht b hb)
    · contradiction

theorem admits_known (types : List TypeObject) : (known types).Admits types where
  builds _ _ _ _ _ _ ht := .inl ht
  function _ := trivial
  method _ _ := trivial

end Realm

/-! ## Sessions -/

namespace Session

/-- A `Lineage` that has all registered and `lingering` types in it, and the first type of all. -/
structure Knows (s : Session) (types : List TypeObject) : Prop where
  lineage : Lineage types
  registered : s.host.runtime.registry.log ⊆ types
  lingering : s.lingering ⊆ types
  first : Builtin.null.typeObject 0 ∈ types
  id_lt : ∀ t ∈ types, t.id < s.host.store.nextId

variable {s s' : Session} {types ts : List TypeObject}

theorem Knows.ne_default (h : s.Knows types) {t : TypeObject} (ht : t ∈ types) : t ≠ default := by
  rintro rfl
  have heq := h.lineage.eq_of_id _ ht _ h.first rfl
  have hname : ("" : String) = "NoneType" := congrArg TypeObject.name heq
  exact absurd hname (by decide)

theorem Knows.growsTo (h : s.Knows types) (hgrows : s.GrowsTo s')
    (hlogs : s.host.runtime.Logs ts s'.host.runtime) (hlineage : Lineage (ts.reverse ++ types)) :
    s'.Knows (ts.reverse ++ types) where
  lineage := hlineage
  registered := by
    rw [hlogs.log_eq]
    exact List.append_subset.2 ⟨List.subset_append_left _ _,
      List.subset_append_of_subset_right _ h.registered⟩
  lingering := by
    rw [hgrows.lingering_eq]
    exact List.subset_append_of_subset_right _ h.lingering
  first := List.mem_append_right _ h.first
  id_lt t ht := by
    have hbefore {t : TypeObject} (ht : t ∈ types) : t.id < s'.host.store.nextId :=
      Nat.lt_of_lt_of_le (h.id_lt t ht) hgrows.host.store.nextId_le
    rcases List.mem_append.1 ht with ht | ht
    · have hlog : t ∈ s'.host.runtime.registry.log := by
        rw [hlogs.log_eq]
        exact List.mem_append_left _ ht
      -- A registered type was there before, or has an identity made since.
      rcases hgrows.host.fresh t hlog with hold | ⟨-, hlt⟩
      · exact hbefore (h.registered hold)
      · exact hlt
    · exact hbefore ht

theorem Knows.sweep (h : s.Knows types) (others : Unit → List Value) : (s.sweep others).Knows types := by
  obtain ⟨gone, lingering, -, hlingering, heq⟩ := s.exists_sweep_of_lingering others
  rw [heq]
  exact ⟨h.lineage, h.registered, List.Subset.trans hlingering h.lingering, h.first, h.id_lt⟩

theorem knows_start (options : Options) :
    (start options).Knows (Runtime.start options 0).registry.log where
  lineage := by
    have hlt : ∀ t ∈ ([] : List TypeObject), t.id < 0 := fun t ht => by contradiction
    have hbuiltins := Lineage.nil.builtins hlt options
    rwa [List.append_nil] at hbuiltins
  registered := List.Subset.refl _
  lingering := List.nil_subset _
  first := Runtime.mem_log_start options 0 .null
  id_lt := (current_start options).registered_lt

theorem Knows.restart (h : s.Knows types) (options : Options) :
    (s.restart options).Knows
      ((Runtime.start options s.host.store.nextId).registry.log ++ types) := by
  unfold Session.restart
  refine Knows.sweep ?_ _
  refine ⟨h.lineage.builtins h.id_lt options, List.subset_append_left _ _, ?_,
    List.mem_append_right _ h.first, fun t ht => ?_⟩
  · exact List.subset_append_of_subset_right _ (List.append_subset.2 ⟨h.registered, h.lingering⟩)
  · rcases List.mem_append.1 ht with ht | ht
    · exact (mem_log_start ht).2
    · exact Nat.lt_of_lt_of_le (h.id_lt t ht) (Nat.le_add_right _ _)

theorem Knows.equip (h : s.Knows types) (setup : Setup) :
    (s.equip setup).Knows ((s.preloaded setup).reverse ++ types) := by
  refine h.growsTo (s.growsTo_equip setup) (s.logs_equip setup) ?_
  unfold preloaded
  split
  · refine h.lineage.tryAll h.id_lt fun d base hattempt => ?_
    simp [Sample.attempts] at hattempt
  · exact h.lineage

end Session

/-! ## Runs -/

namespace Config

structure Knows (c : Config) (types : List TypeObject) : Prop where
  session : c.session.Knows types
  within : ∀ more, types ⊆ more → Lineage more → c.Within (.known more)

variable {c : Config} {types : List TypeObject}

theorem knows_ready (h : c.session.Knows types) : c.ready.session.Knows types := by
  rcases c.ready_cases with heq | heq
  · rw [heq]
    exact h
  · rw [heq]
    exact h.sweep fun () => c.roots

theorem Knows.lineage_event (h : c.Knows types) :
    Lineage ((c.event?.toList.flatMap Event.accepted).reverse ++ types) := by
  have hready := knows_ready h.session
  rcases c.event?_cases with ⟨op, operands, rest, hperforms, hevent⟩ | ⟨-, hevent⟩
  · rw [hevent]
    show Lineage ((Event.accepted (.operation op operands c.ready.session) ++ []).reverse ++ types)
    rw [List.append_nil]
    refine hready.lineage.tryAll hready.id_lt fun d base hattempt hbasetype => ?_
    have hwithin := (h.within types (List.Subset.refl _) hready.lineage).ready.of_performs hperforms
    -- The base is an operand, and every operand is known.
    have hbase : (Realm.known types).type base := by
      unfold Op.attempts at hattempt
      split at hattempt
      · unfold TypeDecl.attempts at hattempt
        split at hattempt
        · simp at hattempt
        · obtain ⟨-, rfl⟩ : d = _ ∧ base = _ := by simpa using hattempt
          exact (hwithin _ List.mem_cons_self).of_type
        · contradiction
      · simp [Sample.attempts] at hattempt
      · contradiction
    rcases hbase with hbase | rfl
    · exact hbase
    · contradiction
  · rw [hevent]
    exact hready.lineage

theorem Knows.step (h : c.Knows types) :
    c.step.Knows ((c.event?.toList.flatMap Event.accepted).reverse ++ types) := by
  have hlogs := c.logs_step
  have hsession : c.step.session.Knows ((c.event?.toList.flatMap Event.accepted).reverse ++ types) := by
    rw [step_eq_advance]
    rw [step_eq_advance, ← c.runtime_ready] at hlogs
    exact (knows_ready h.session).growsTo c.ready.growsTo_advance hlogs h.lineage_event
  refine ⟨hsession, fun more hmore hlineage => ?_⟩
  have hbefore := h.within more (List.append_subset.1 hmore).2 hlineage
  exact hbefore.step_of_admits (Realm.hereditary_known hlineage)
    ((Realm.admits_known more).mono (List.Subset.trans hsession.registered hmore))

theorem Reachable.exists_knows (h : c.Reachable) : ∃ types, c.Knows types := by
  induction h with
  | start setup e =>
    have hsession := (Session.knows_start setup.options).equip setup
    refine ⟨_, hsession, fun more hmore hlineage => within_begin ?_ e⟩
    refine Session.Within.equip_of_admits ?_
      ((Realm.admits_known more).mono (List.Subset.trans hsession.registered hmore))
    have hP := Realm.hereditary_known hlineage
    refine Session.within_start hP (fun b => .inl (hmore ?_)) setup.options
    exact List.mem_append_right _ (Runtime.mem_log_start setup.options 0 b)
  | step _ ih =>
    obtain ⟨types, h⟩ := ih
    exact ⟨_, h.step⟩
  | next e _ _ ih =>
    obtain ⟨types, h⟩ := ih
    exact ⟨types, h.session, fun more hmore hlineage =>
      within_begin (h.within more hmore hlineage).session e⟩
  -- The types of before the restart stay known: values may still hold them.
  | @restart c setup e _ _ ih =>
    obtain ⟨types, h⟩ := ih
    have hsession := (h.session.restart setup.options).equip setup
    refine ⟨_, hsession, fun more hmore hlineage => within_begin ?_ e⟩
    have hrest := (List.append_subset.1 hmore).2
    have hbefore := (h.within more (List.append_subset.1 hrest).2 hlineage).session
    refine Session.Within.equip_of_admits ?_
      ((Realm.admits_known more).mono (List.Subset.trans hsession.registered hmore))
    refine hbefore.restart (fun b => .inl (hrest ?_)) setup.options
    exact List.mem_append_left _ (Runtime.mem_log_start setup.options _ b)

/-! ## Main result -/

/-- The type exists: it lingers, or the machine and its session hold something that is made of it. The
`default` type, which is read where there is no object, is not a type that exists. -/
structure Has (c : Config) (t : TypeObject) : Prop where
  found : ∀ P : Realm, Hereditary P → (∀ u ∈ c.session.lingering, P.type u) → c.Within P → P.type t
  ne_default : t ≠ default

theorem Knows.mem_of_has (h : c.Knows types) {t : TypeObject} (ht : c.Has t) : t ∈ types := by
  have hlineage := h.session.lineage
  have hfound := ht.found (.known types) (Realm.hereditary_known hlineage)
    (fun u hu => .inl (h.session.lingering hu)) (h.within types (List.Subset.refl _) hlineage)
  exact hfound.resolve_right ht.ne_default

theorem has_of_typeOf {v : Value} {t : TypeObject} (hne : t ≠ default)
    (ht : c.session.host.runtime.typeOf c.session.host.store v = .ok t) : c.Has t where
  found _ _ _ hwithin := hwithin.session.host.runtime.typeOf hwithin.session.host.store v t ht
  ne_default := hne

theorem Reachable.has_ancestor (h : c.Reachable) {t a : TypeObject} (ht : c.Has t) {n : Nat}
    (ha : t.ancestor? n = some a) : c.Has a := by
  obtain ⟨types, hknows⟩ := h.exists_knows
  refine ⟨fun P hP hlingering hwithin => ?_,
    hknows.session.ne_default (hknows.session.lineage.ancestor (hknows.mem_of_has ht) ha)⟩
  induction n generalizing a with
  | zero =>
    cases ha
    exact ht.found P hP hlingering hwithin
  | succ n ih =>
    obtain ⟨b, hb, hbase⟩ := Option.bind_eq_some_iff.1 ha
    exact hP.base b a (ih hb) hbase

/-- In every `Reachable` configuration, `isSubtype` is a partial order of the types that it `Has`, the
chain of bases ends and never meets an identity twice, and `isInstance` of a value whose type is `live`
holds exactly of the ancestors of that type. -/
theorem subtypes_ordered (h : c.Reachable) :
    (∀ t, c.Has t → t.isSubtype t = true) ∧
    (∀ t u w, c.Has t → c.Has u → c.Has w →
      t.isSubtype u = true → u.isSubtype w = true → t.isSubtype w = true) ∧
    (∀ t u, c.Has t → c.Has u → t.isSubtype u = true → u.isSubtype t = true → t = u) ∧
    (∀ t, c.Has t → (∃ n, t.ancestor? n = none) ∧ (∀ n a, t.ancestor? n = some a → c.Has a) ∧
      ∀ i j a b, t.ancestor? i = some a → t.ancestor? j = some b → a.id = b.id → i = j) ∧
    ∀ v t, c.session.host.runtime.typeOf c.session.host.store v = .ok t → t ≠ default → c.Has t ∧
      let isInstance := c.session.host.runtime.isInstance c.session.host.store v
      ∀ u, c.Has u →
        (∃ found, isInstance u = .ok found) ∧
        (isInstance u = .ok true ↔ ∃ n, t.ancestor? n = some u) ∧
        ∀ w, c.Has w → isInstance u = .ok true → u.isSubtype w = true → isInstance w = .ok true := by
  obtain ⟨types, hknows⟩ := h.exists_knows
  have hmem {t : TypeObject} (ht : c.Has t) : t ∈ types := hknows.mem_of_has ht
  have hlineage := hknows.session.lineage
  refine ⟨fun t _ => t.isSubtype_refl, fun t u w ht hu hw => ?_, fun t u ht hu => ?_, fun t ht => ?_, ?_⟩
  · exact hlineage.isSubtype_trans (hmem ht) (hmem hu) (hmem hw)
  · exact hlineage.isSubtype_antisymm (hmem ht) (hmem hu)
  · exact ⟨⟨_, t.ancestor?_length⟩, fun n a => h.has_ancestor ht,
      fun i j a b => hlineage.ancestor?_inj (hmem ht)⟩
  · intro v t htype hne
    have ht : c.Has t := has_of_typeOf hne htype
    refine ⟨ht, ?_⟩
    intro isInstance u hu
    -- Being an instance is being a subtype, once the type of the value is known.
    have heq (u : TypeObject) : isInstance u = .ok (t.isSubtype u) := congrArg (Except.map _) htype
    have hiff (u : TypeObject) : isInstance u = .ok true ↔ t.isSubtype u = true := by
      rw [heq, Except.ok.injEq]
    refine ⟨⟨_, heq u⟩, ?_, fun w hw htu huw => ?_⟩
    · rw [hiff]
      exact hlineage.isSubtype_iff (hmem ht) (hmem hu)
    · rw [hiff] at htu ⊢
      exact hlineage.isSubtype_trans (hmem ht) (hmem hu) (hmem hw) htu huw

def makeDerived : Config :=
  let base : Expr := .apply (.declare { name := "A", kind := .host }) []
  { control := .eval (.apply (.object .call) [.apply (.declare { name := "B", kind := .host }) [base]])
    session := .ofSetup { sample := false } }

def derivedMade : Config := makeDerived.after 9

/-- The instance of `derivedMade` is one of the base of its class, and the base does not derive from the
class. -/
theorem subtypes_ordered_derivedMade :
    let rt := derivedMade.session.host.runtime
    let s := derivedMade.session.host.store
    derivedMade.Reachable ∧ ∃ t a, rt.typeOf s (.object 0) = .ok t ∧ t ≠ default ∧ t.base? = some a ∧
      rt.isInstance s (.object 0) a = .ok true ∧ a.isSubtype t = false := by
  intro rt s
  have hreachable : derivedMade.Reachable := (Reachable.start _ _).after 9
  obtain ⟨-, -, hantisymm, hchains, hinstances⟩ := subtypes_ordered hreachable
  obtain ⟨t, a, htype, hbase, hid, hida⟩ :
      ∃ t a, rt.typeOf s (.object 0) = .ok t ∧ t.base? = some a ∧ t.id = 13 ∧ a.id = 12 :=
    ⟨_, _, rfl, rfl, rfl, rfl⟩
  have hne : t ≠ default := by
    rintro rfl
    contradiction
  obtain ⟨ht, hinstance⟩ := hinstances (.object 0) t htype hne
  obtain ⟨-, hancestors, -⟩ := hchains t ht
  have ha : derivedMade.Has a := hancestors 1 a hbase
  refine ⟨hreachable, t, a, htype, hne, hbase, (hinstance a ha).2.1.2 ⟨1, hbase⟩, ?_⟩
  -- Otherwise both would be the same.
  rw [Bool.eq_false_iff]
  intro hat
  have hta : t.isSubtype a = true := TypeObject.isSubtype_iff.2 ⟨1, a, hbase, rfl⟩
  rw [hantisymm t a ht ha hta hat, hida] at hid
  contradiction

end Config

end ObjectProtocol
