import ObjectProtocol.Proofs.Failing.Calls
import ObjectProtocol.Proofs.Sample.Operations

/-!
# Calls in runs of the sample module

A call runs native code on an instance whose type has it, so the code finds the layout it was declared
with, in a method that is bound, in an initializer that runs on a fresh instance, and in `__call__`
alike.  Three calls may fail without a reason, which makes a `SystemError`: the construction of a box
with the counter it reports, a `maybe_incr` that fails, and `forget_raise`.
-/

namespace ObjectProtocol

/-- `Failure.toException` of a failure without a reason. -/
def unexplained : Exception := ⟨.systemError, "error return without exception set"⟩

/-- The method is `maybe_incr` or `maybe_incr2`. -/
def Method.MaybeIncr (m : Method Code) : Prop :=
  m.body = .native (.box .maybeIncr) ∧ (m.name = "maybe_incr" ∨ m.name = "maybe_incr2")

namespace Host

variable {h : Host} {d : Descriptor} {receiver : Value} {args : List Value} {t : TypeObject}

/-- A native method finds the layout of its declaration. -/
def Provides (h : Host) (receiver : Value) (m : Method Code) : Prop :=
  ∀ r ref, m.body = .native r → receiver = .object ref →
    ∃ decl ∈ Sample.nativeDecls, m ∈ decl.methods ∧ (h.store.instanceAt ref).kinds = decl.layout

theorem raisesOnly_sampleMethod (hprovides : h.Provides receiver d.method) (args : List Value) :
    (h.runMethod d receiver args).1.RaisesOnly fun e =>
      e.Ordinary ∨ d.method.MaybeIncr ∧ (∃ ref, receiver = .object ref) ∧ e = unexplained := by
  refine raisesOnly_runMethod (fun e => Or.inl) fun routine ref a hbody href ha => ?_
  obtain ⟨decl, hdecl, hmem, hkinds⟩ := hprovides routine ref hbody href
  refine (Sample.failsOnly_method hdecl hmem hbody hkinds ha).mono fun x hx => ?_
  rcases hx with hordinary | ⟨rfl, rfl⟩
  · exact Or.inl hordinary
  · exact Or.inr ⟨⟨hbody, Sample.name_of_maybeIncr hdecl hmem hbody⟩, ⟨ref, href⟩, rfl⟩

theorem ordinary_runMethod (hprovides : h.Provides receiver d.method)
    (hname : d.method.name ≠ "maybe_incr" ∧ d.method.name ≠ "maybe_incr2") (args : List Value) :
    (h.runMethod d receiver args).1.RaisesOnly Exception.Ordinary := by
  refine (raisesOnly_sampleMethod hprovides args).mono fun e he => ?_
  rcases he with hordinary | ⟨⟨-, hmaybe⟩, -⟩
  · exact hordinary
  · exact absurd hmaybe (not_or.2 hname)

theorem raisesOnly_sampleFunction {f : Function}
    (hf : ∀ spec r, f.body = .native spec r →
      ∃ g ∈ Sample.functions, spec = g.2.1 ∧ r = .sample g.2.2)
    (hreleased : h.store.released = []) (args : List Value) :
    (h.runFunction f args).1.RaisesOnly fun e =>
      e.Ordinary ∨ (∃ spec, f.body = .native spec (.sample .forgetRaise)) ∧ e = unexplained := by
  have hfirst : ∀ g ∈ Sample.functions, g.2.2 = .typ → 0 < g.2.1.min := by decide
  refine raisesOnly_runFunction (fun e => Or.inl) fun spec routine a hbody ha => ?_
  obtain ⟨g, hg, rfl, rfl⟩ := hf spec routine hbody
  by_cases hforget : g.2.2 = .forgetRaise
  · rw [hforget] at hbody ⊢
    exact .error (Or.inr ⟨⟨_, hbody⟩, rfl⟩)
  · have hrun : FailsOnly NativeError.Ordinary (g.2.2.run h a).1 :=
      SampleFunction.ordinary_run hforget hreleased fun htyp =>
        ArgSpec.exists_get_of_parse ha (hfirst g hg htyp)
    exact hrun.mono fun x hx => Or.inl hx

theorem raisesOnly_refusal? (ht : t.Sampled) {e : Exception} (h : h.refusal? t args = some e) :
    e.Ordinary ∨ t.findSlot? (·.new) = some .box ∧ Sample.Box.Reported args ∧ e = unexplained := by
  refine of_refusal? (Q := fun e => e.Ordinary ∨ t.findSlot? (·.new) = some .box ∧
    Sample.Box.Reported args ∧ e = unexplained) (fun e => Or.inl) (fun slot hslot => ?_) h
  obtain ⟨d, hd, hpick, -⟩ := ht.exists_decl_of_findSlot? rfl hslot
  refine (Sample.failsOnly_newSlot hd hpick _ args).mono fun f hf => ?_
  rcases hf with hordinary | ⟨rfl, rfl, hreported⟩
  · exact Or.inl hordinary
  · exact Or.inr ⟨hslot, hreported, rfl⟩

theorem ordinary_setUp (ht : t.Sampled) {ref : Ref}
    (hkinds : (h.store.instanceAt ref).kinds = t.own.layout) (args : List Value) :
    (h.setUp t ref args).1.RaisesOnly Exception.Ordinary := by
  refine raisesOnly_setUp (fun e he => he) (fun d hfound => ?_) fun slot hslot => ?_
  · have hprovides : h.Provides (.object ref) d.method := by
      intro r ref' hbody heq
      cases heq
      obtain ⟨decl, hdecl, hmem, hlayout⟩ := ht.exists_decl_of_findMethod? hfound hbody
      exact ⟨decl, hdecl, hmem, hkinds.trans hlayout⟩
    have hname := TypeObject.name_of_findMethod? hfound
    refine ordinary_runMethod hprovides ?_ args
    rw [hname]
    decide
  · obtain ⟨d, hd, hpick, hlayout⟩ := ht.exists_decl_of_findSlot? rfl hslot
    exact Sample.ordinary_initSlot hd hpick (hkinds.trans hlayout) h.store args

end Host

theorem Store.instanceAt_newInstance (s : Store) (i : Instance) :
    (s.newInstance i).2.instanceAt (s.newInstance i).1 = i := by
  unfold instanceAt
  show ((s.instances.push i).get? s.instances.size).getD default = i
  rw [Heap.get?_push, if_pos rfl]
  rfl

/-- The calls that may raise `unexplained`. -/
inductive Sample.Silent : Value → List Value → Prop
  /-- The construction of a box, or of what derives from one and so has its allocation slot. -/
  | construct {t : TypeObject} {args : List Value} : t.findSlot? (·.new) = some .box →
    Box.Reported args → Silent (.type t) args
  | maybeIncr {id : Identity} {ref : Ref} {d : Descriptor} {args : List Value} :
    d.method.MaybeIncr → Silent (.method id (.object ref) d) args
  | forgetRaise {f : Function} {spec : ArgSpec} {args : List Value} :
    f.body = .native spec (.sample .forgetRaise) → Silent (.function f) args

namespace Host

variable {h : Host} {receiver target : Value}

theorem provides_of_fits {w : Store} (hstore : h.store.InSample w) {m : Method Code} (hfits : ∀ r, m.body = .native r → Sample.Fits h.store receiver m) :
    h.Provides receiver m := by
  intro r ref hbody heq
  obtain ⟨ref', heq', decl, hdecl, hmem, hlayout⟩ := hfits r hbody
  rw [heq] at heq'
  cases heq'
  exact ⟨decl, hdecl, hmem, (hstore.kinds_eq ref).trans hlayout⟩

theorem callRaisesOnly_sample (hstore : h.store.InSample h.store)
    (ht : target.Within (Sample.realm h.store)) (args : List Value) :
    h.CallRaisesOnly (fun e => e.Ordinary ∨ Sample.Silent target args ∧ e = unexplained) target
      args := by
  cases target with
  | function f =>
    refine (raisesOnly_sampleFunction ht.of_function hstore.released_eq args).mono fun e he => ?_
    rcases he with hordinary | ⟨⟨spec, hbody⟩, rfl⟩
    · exact Or.inl hordinary
    · exact Or.inr ⟨.forgetRaise hbody, rfl⟩
  | method id receiver d =>
    have hprovides := provides_of_fits hstore ht.of_method.2
    refine (raisesOnly_sampleMethod hprovides args).mono fun e he => ?_
    rcases he with hordinary | ⟨hmaybe, ⟨ref, rfl⟩, rfl⟩
    · exact Or.inl hordinary
    · exact Or.inr ⟨.maybeIncr hmaybe, rfl⟩
  | type t =>
    have hsampled : t.Sampled := ht.of_type
    refine ⟨fun e he => ?_, ?_⟩
    · rcases raisesOnly_refusal? hsampled he with hordinary | ⟨hslot, hreported, rfl⟩
      · exact Or.inl hordinary
      · exact Or.inr ⟨.construct hslot hreported, rfl⟩
    · -- The initializer runs on an instance that has just been made.
      have hkinds : ((h.newInstance t).2.store.instanceAt (h.newInstance t).1).kinds =
          t.own.layout := by
        have hmade := h.store.instanceAt_newInstance (.alloc t)
        unfold Host.newInstance
        dsimp only
        rw [hmade]
        exact Instance.kinds_alloc t
      exact (ordinary_setUp hsampled hkinds args).mono fun e he => Or.inl he
  | object ref =>
    intro d hfound
    have hfits : ∀ r, d.method.body = .native r → Sample.Fits h.store (.object ref) d.method :=
      fun r hbody => Sample.fits_of_findMethod? (.of_instances_eq rfl) hstore.within hfound hbody
    have hname := TypeObject.name_of_findMethod? hfound
    have hrun := ordinary_runMethod (provides_of_fits hstore hfits) (by rw [hname]; decide) args
    exact hrun.mono fun e he => Or.inl he
  | null | bool | int | float | str | tuple | list | dict | iterator => exact trivial

end Host

end ObjectProtocol
