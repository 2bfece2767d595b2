import ObjectProtocol.Proofs.Failing.Operations
import ObjectProtocol.Proofs.Sample.Runs

/-!
# Operations in runs of the sample module

In the store of a run, an instance whose type has a slot has the fields for it.  So slots and members
fail in ordinary ways, and of all operations a single one may raise a `SystemError`: a declaration that is
not consistent.
-/

namespace ObjectProtocol

namespace Store

/-- The store is one of a run that leads to the store `w`. -/
structure InSample (s w : Store) : Prop where
  within : s.Within (Sample.realm w)
  released_eq : s.released = []

variable {s w : Store} {rt : Runtime} {Q : Exception → Prop}

theorem InSample.live (h : s.InSample w) (t : TypeObject) : s.live t = .ok t :=
  live_of_released h.released_eq t

theorem InSample.kinds_eq (h : s.InSample w) (ref : Ref) :
    (s.instanceAt ref).kinds = (s.instanceAt ref).type.own.layout :=
  (h.within.instances ref).sound.kinds_eq

theorem InSample.ready (h : s.InSample w) (target : Value) : s.Ready target where
  live ref _ := ⟨_, h.live _⟩
  fitted ref _ := by
    intro name m hm
    rw [h.kinds_eq ref]
    exact (h.within.instances ref).type.built.fits.of_findMember? hm

theorem InSample.exists_decl {α : Type} {pick : Slots → Option α} {slot : α} {ref : Ref}
    (h : s.InSample w) (hnone : pick {} = none)
    (hslot : (s.instanceAt ref).type.findSlot? pick = some slot) :
    ∃ d ∈ Sample.nativeDecls, pick d.slots = some slot ∧ (s.instanceAt ref).kinds = d.layout := by
  obtain ⟨d, hd, hpick, hlayout⟩ :=
    (h.within.instances ref).type.exists_decl_of_findSlot? hnone hslot
  exact ⟨d, hd, hpick, (h.kinds_eq ref).trans hlayout⟩

/-- Slots and members fail in `Ordinary` ways; no instance is an iterator. -/
theorem InSample.failing (h : s.InSample w) (hQ : ∀ e, e.Ordinary → Q e)
    (hregistered : ∃ t, rt.registry.named? Sample.counterIteratorName = some t) :
    s.Failing Q rt where
  live := h.live
  length ref slot hslot := by
    obtain ⟨d, hd, hpick, hkinds⟩ := h.exists_decl rfl hslot
    exact (Sample.ordinary_lengthSlot hd hpick hkinds).mono fun f => hQ f.toException
  contains ref slot hslot item inside _ := by
    obtain ⟨d, hd, hpick, hkinds⟩ := h.exists_decl rfl hslot
    have hrun := Sample.ordinary_containsSlot hd hpick hkinds s item inside
    exact hrun.mono fun x => hQ x.toException
  iter ref slot hslot inside _ := by
    obtain ⟨d, hd, hpick, hkinds⟩ := h.exists_decl rfl hslot
    have hrun := Sample.ordinary_iterSlot hd hpick hkinds hregistered inside
    exact hrun.mono fun x => hQ x.toException
  -- No sample type has a next slot.
  next ref slot hslot := by
    obtain ⟨d, hd, hpick, -⟩ := h.exists_decl rfl hslot
    rw [Sample.next_eq_none hd] at hpick
    contradiction
  getAttr v name := FailsOnly.mono (noSystemError_getAttr (h.ready v) name) hQ
  setAttr v name w := FailsOnly.mono (noSystemError_setAttr (h.ready v) name w) hQ
  delAttr v name := FailsOnly.mono (noSystemError_delAttr (h.ready v) name) hQ

theorem InSample.apply (h : s.InSample w) {change : Change}
    (hchange : change.Within (Sample.realm w)) : (s.apply change).InSample w :=
  ⟨h.within.apply hchange, (s.released_apply change).trans h.released_eq⟩

theorem InSample.collect (h : s.InSample w) (hQ : ∀ e, e.Ordinary → Q e)
    (hrt : rt.Within (Sample.realm w))
    (hregistered : ∃ t, rt.registry.named? Sample.counterIteratorName = some t) {v : Value}
    (hv : v.Within (Sample.realm w)) : FailsOnly Q (s.collect rt v).1 := by
  unfold Store.collect
  split
  · rename_i e he
    exact .error ((h.failing hQ hregistered).iter_eq hQ v e he)
  · rename_i sketch hsketch
    -- The iterator is made first, into a store that is no less one of the run.
    have hmade := (h.within.iter hrt hv sketch hsketch).build h.within
    have hbuilt : s.EditedBy (fun _ _ => False) (sketch.build s).2 :=
      (s.fresh_iterWithin rt _ v sketch hsketch).editedBy s
    have hreleased := hbuilt.released_eq.trans h.released_eq
    refine failsOnly_drain (S := fun s => s.InSample w)
      (fun s hs => (hs.failing hQ hregistered).next_eq hQ _) ?_ ⟨hmade.store, hreleased⟩ _ _
    intro s r hs hnext
    obtain ⟨-, hchange⟩ := hs.within.next _ r hnext
    exact hs.apply hchange

end Store

end ObjectProtocol
