import ObjectProtocol.Proofs.Provenance.Registered

/-!
# Who owns the types

Instances and iterators refer to their types without keeping them; what keeps a type is the registry,
which owns whatever has been registered.  A type comes about by a registration only, so until there is a
restart all that a run holds refers to types that the registry owns, together with all that these derive
from.  An operation that registers types stays within what the log owns afterwards, and every other one
within what it owned before.
-/

namespace ObjectProtocol

/-- The types that the log owns, with all that they derive from. -/
def Realm.owned (log : List TypeObject) : Realm where
  type t := ∀ layer ∈ t.chain, ∃ u ∈ log, u.id = layer.id

namespace Realm

variable {log : List TypeObject}

theorem owned_builtin {id : Identity} (h : ∃ u ∈ log, u.id = id) (name : String) :
    (owned log).type (.builtin id name) := by
  intro layer hlayer
  obtain rfl : layer = { id, name, kind := .builtin } := List.mem_singleton.1 hlayer
  exact h

theorem hereditary_owned (h : ∃ u ∈ log, u.id = 0) : Hereditary (owned log) where
  absent := owned_builtin h ""
  base t b ht hb := by
    obtain ⟨own, bases⟩ := t
    cases bases with
    | nil => contradiction
    | cons first rest =>
      cases hb
      exact fun layer hlayer => ht layer (List.mem_cons_of_mem _ hlayer)

theorem admits_owned (log : List TypeObject) : (owned log).Admits log where
  builds d id base t hbuild hbase ht := by
    intro layer hlayer
    rw [TypeDecl.chain_of_build hbuild, List.mem_cons] at hlayer
    rcases hlayer with rfl | hlayer
    · exact ⟨t, ht, rfl⟩
    · cases base with
      | none => contradiction
      | some b => exact hbase b rfl layer hlayer
  function _ := trivial
  method _ _ := trivial

end Realm

/-! ## Runs -/

namespace Config

variable {c c' : Config} {events : List Event}

theorem History.growsTo (h : c.History events c') (hlingering : c.session.lingering = [])
    (hevents : ∀ event ∈ events, event.isRestart = false) : c.session.GrowsTo c'.session := by
  induction h with
  | refl => exact .refl _
  | step _ ih =>
    have hbefore := ih (List.forall_mem_append.1 hevents).1
    exact hbefore.trans (growsTo_step _ (hbefore.lingering_eq.trans hlingering))
  | next e _ _ ih => exact ih hevents
  | restart setup e _ _ _ =>
    have hrestart := hevents (.restart setup) (List.mem_append_right _ List.mem_cons_self)
    contradiction

/-- Whatever the configuration holds is `Within` what the registry owns, and will be when the registry has
grown. -/
def Owned (c : Config) : Prop :=
  ∀ log, c.session.host.runtime.registry.log ⊆ log → c.Within (.owned log)

theorem Owned.step (h : c.Owned) (hlingering : c.session.lingering = [])
    (hfirst : ∃ u ∈ c.session.host.runtime.registry.log, u.id = 0) : c.step.Owned := by
  intro log hlog
  have hbefore := List.Subset.trans (c.growsTo_step hlingering).host.registry.subset hlog
  obtain ⟨u, hu, hid⟩ := hfirst
  exact (h log hbefore).step_of_admits (Realm.hereditary_owned ⟨u, hbefore hu, hid⟩)
    ((Realm.admits_owned log).mono hlog)

theorem owned_start (setup : Setup) (e : Expr) :
    Owned { control := .eval e, session := .ofSetup setup } := by
  intro log hlog
  have hgrows := (Session.start setup.options).growsTo_equip setup
  have hstart := List.Subset.trans hgrows.host.registry.subset hlog
  have hbuiltin (b : Builtin) : (Realm.owned log).type (b.typeObject 0) :=
    Realm.owned_builtin ⟨_, hstart (Runtime.mem_log_start setup.options 0 b), rfl⟩ b.name
  have hfirst : ∃ u ∈ log, u.id = 0 := ⟨_, hstart (Runtime.mem_log_start setup.options 0 .null), rfl⟩
  have hbefore := Session.within_start (Realm.hereditary_owned hfirst) hbuiltin setup.options
  exact within_begin (hbefore.equip_of_admits ((Realm.admits_owned log).mono hlog)) e

theorem History.owned (h : c.History events c') (hlingering : c.session.lingering = [])
    (hevents : ∀ event ∈ events, event.isRestart = false)
    (hfirst : ∃ u ∈ c.session.host.runtime.registry.log, u.id = 0) (hc : c.Owned) : c'.Owned := by
  induction h with
  | refl => exact hc
  | step h ih =>
    have hearlier := (List.forall_mem_append.1 hevents).1
    have hgrows := h.growsTo hlingering hearlier
    obtain ⟨u, hu, hid⟩ := hfirst
    exact (ih hearlier).step (hgrows.lingering_eq.trans hlingering)
      ⟨u, hgrows.host.registry.subset hu, hid⟩
  | next e _ _ ih => exact fun log hlog => within_begin (ih hevents log hlog).session e
  | restart setup e _ _ _ =>
    have hrestart := hevents (.restart setup) (List.mem_append_right _ List.mem_cons_self)
    contradiction

end Config

end ObjectProtocol
