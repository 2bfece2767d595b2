import ObjectProtocol.Proofs.Exceptions.Translation
import ObjectProtocol.Proofs.Sample.Constructors

/-!
# What the constructors are given stays

In a run without other native code, the first field of a box or of a counter stays as the constructor left
it.  Classes that derive from these types may open the field; what is said here is about instances of the
types themselves.
-/

namespace ObjectProtocol

namespace Config

variable {c : Config} {ref : Ref} {i : Instance}

/-! ## Construction -/

variable {t : TypeObject} {args : List Value}

theorem get?_setInstance_newInstance (s : Store) (i j : Instance) :
    ((s.newInstance i).2.setInstance s.instances.size j).instances.get? s.instances.size =
      some j := by
  show ((s.instances.push i).set s.instances.size j).get? s.instances.size = some j
  rw [Heap.get?_set, if_pos rfl, if_pos (by rw [Heap.size_push]; exact Nat.lt_succ_self _)]

theorem setUp_of_slot_ok {h : Host} {slot : InitSlot} {j : Instance}
    (hmethod : t.findMethod? "__init__" = none) (hslot : t.findSlot? (·.init) = some slot)
    (hrun : slot.run h.store (h.store.instanceAt ref) args = (.ok (), j)) :
    h.setUp t ref args = (.give .null, h.apply (.object ref j)) := by
  unfold Host.setUp
  rw [hmethod, hslot]
  dsimp only
  rw [hrun]

theorem dispatch_of_setUp {f : Host → Host} {v : Value}
    (hrefusal : c.session.host.refusal? t args = none)
    (hsetUp : (c.session.host.newInstance t).2.setUp t (c.session.host.newInstance t).1 args =
      (.give v, f (c.session.host.newInstance t).2)) :
    c.dispatch (.type t) args =
      { c with
        control := .give v
        stack := .initializer (.object c.session.host.store.instances.size) :: c.stack
        session := c.session.withHost (f (c.session.host.newInstance t).2) } := by
  obtain ⟨control, stack, args', session⟩ := c
  dsimp only at hrefusal hsetUp
  unfold dispatch
  dsimp only
  -- The two frames of a construction are pushed before the initializer runs.
  rw [hrefusal]
  unfold enter onHost onSession Session.onHost push
  dsimp only
  rw [hsetUp]
  rfl

/-- A call of a type whose instances an `InitSlot` initializes raises, or the slot succeeds on a fresh
instance and the call gives that one. -/
theorem Plain.constructs (h : c.Plain) (hcontrol : c.control = .call (.type t) args)
    {slot : InitSlot} (hmethod : t.findMethod? "__init__" = none)
    (hslot : t.findSlot? (·.init) = some slot) :
    (∃ e, c.step.control = .raise e) ∨
      ∃ s j, slot.run s (.alloc t) args = (.ok (), j) ∧
        c.step.session.host.store.instances.get? c.session.host.store.instances.size = some j ∧
        (c.after 2).control = .give (.object c.session.host.store.instances.size) := by
  have hstep : c.step = c.call (.type t) args := by
    rw [step_eq_advance, ready_eq h.lingering_eq, advance_of_call hcontrol]
  have hnext : c.step.step = c.step.advance := by
    have hlingering := (c.growsTo_step h.lingering_eq).lingering_eq
    rw [step_eq_advance, ready_eq (hlingering.trans h.lingering_eq)]
  unfold call at hstep
  split at hstep
  · exact Or.inl ⟨tooDeep, by rw [hstep]⟩
  dsimp only at hstep
  generalize hc' : (c.setDepth (c.depth + 1)).push (.activation (c.keptBy (.type t) args)) = c'
    at hstep
  have hsame : c'.session.host.store = c.session.host.store := by rw [← hc']; rfl
  rw [← hsame]
  cases hrefusal : c'.session.host.refusal? t args with
  | some e =>
    refine Or.inl ⟨e, ?_⟩
    rw [hstep]
    unfold dispatch
    dsimp only
    rw [hrefusal]
  | none =>
    -- The slot works on the instance that has just been made.
    have hfresh : (c'.session.host.newInstance t).2.store.instanceAt
        (c'.session.host.newInstance t).1 = .alloc t :=
      c'.session.host.store.instanceAt_newInstance (.alloc t)
    cases hrun : slot.run (c'.session.host.newInstance t).2.store (.alloc t) args with
    | mk outcome j =>
      rw [← hfresh] at hrun
      cases outcome with
      | error f =>
        have hraises := raisesOn_construct hrefusal
          (setUp_of_slot hmethod hslot (congrArg Prod.fst hrun))
        exact Or.inl ⟨_, hstep ▸ hraises.control⟩
      | ok u =>
        have hdispatch := dispatch_of_setUp (f := fun h => h.apply (.object _ j)) hrefusal
          (setUp_of_slot_ok hmethod hslot hrun)
        rw [hdispatch] at hstep
        rw [hfresh] at hrun
        refine Or.inr ⟨_, j, hrun, ?_, ?_⟩
        · rw [hstep]
          exact get?_setInstance_newInstance c'.session.host.store (.alloc t) j
        · rw [after_succ, after_succ, after_zero, hnext, hstep]
          rfl

theorem PlainRun.plain_step (h : c.PlainRun) {target : Value}
    (hcontrol : c.control = .call target args) : c.step.Plain := by
  refine h.plain.step fun op hop => ?_
  unfold operation? at hop
  rw [hcontrol] at hop
  contradiction

theorem PlainRun.constructs (h : c.PlainRun) (hcontrol : c.control = .call (.type t) args)
    {slot : InitSlot} (hinit : t.findMethod? "__init__" = none ∧ t.findSlot? (·.init) = some slot)
    (hclosed : ¬ t.Opens 0) :
    (∃ e, c.step.control = .raise e) ∨
      ∃ s j, slot.run s (.alloc t) args = (.ok (), j) ∧
        (c.after 2).control = .give (.object c.session.host.store.instances.size) ∧
        ∀ c', c.step.Continues c' → c'.Plain ∧
          ∃ k, c'.session.host.store.instances.get? c.session.host.store.instances.size = some k ∧
            k.type = t ∧ k.fields[0]? = j.fields[0]? := by
  have hplain := h.plain_step hcontrol
  rcases h.plain.constructs hcontrol hinit.1 hinit.2 with hraise | ⟨s, j, hrun, hj, hgive⟩
  · exact Or.inl hraise
  · -- The initializer keeps the type, so the field is still closed.
    have htype := (slot.sameShape_run s (.alloc t) args).type_eq
    rw [hrun] at htype
    refine Or.inr ⟨s, j, hrun, hgive, fun c' hc' => ⟨hc'.plain hplain, ?_⟩⟩
    obtain ⟨k, hk, hjk⟩ := hc'.keeps hplain _ _ hj
    exact ⟨k, hk, hjk.type_eq.trans htype, hjk.field_eq (htype ▸ hclosed)⟩

/-- The next step calls the type with the arguments, which makes the instance at `ref`. -/
structure Makes (b : Config) (t : TypeObject) (args : List Value) (ref : Ref) : Prop where
  control : b.control = .call (.type t) args
  size_eq : b.session.host.store.instances.size = ref
  adds : b.session.host.store.Adds t b.step.session.host.store

/-- Every instance has been made by a call of its type. -/
theorem PlainRun.exists_call (h : c.PlainRun)
    (hi : c.session.host.store.instances.get? ref = some i) :
    ∃ (b : Config) (args : List Value), b.PlainRun ∧ b.Makes i.type args ref ∧
      b.step.Continues c := by
  obtain ⟨setup, e, hrun⟩ := h
  induction hrun generalizing i with
  | refl =>
    have hempty : (Session.ofSetup setup).host.store.instances.size = 0 := by
      unfold Session.ofSetup
      rw [Session.instances_equip]
      rfl
    have hlt := Store.lt_size_of_get? hi
    rw [hempty] at hlt
    contradiction
  | @step c' hrun hop ih =>
    -- An instance that was there before has been made before.
    have hbefore (hlt : ref < c'.session.host.store.instances.size)
        (hkept : c'.session.host.store.Keeps c'.step.session.host.store) :
        ∃ (b : Config) (args : List Value), b.PlainRun ∧ b.Makes i.type args ref ∧
          b.step.Continues c'.step := by
      have hj := Store.get?_instanceAt hlt
      obtain ⟨k, hk, hjk⟩ := hkept ref _ hj
      rw [hi] at hk
      cases hk
      obtain ⟨b, args, hb, hmakes, hcontinues⟩ := ih hj
      rw [← hjk.type_eq] at hmakes
      exact ⟨b, args, hb, hmakes, hcontinues.step hop⟩
    have hlt := Store.lt_size_of_get? hi
    rcases (hrun.plain (plain_start setup e)).keepsFirst_step hop with
      hkeeps | ⟨t, args, hcontrol, hadds⟩
    · rw [hkeeps.size_eq] at hlt
      exact hbefore hlt hkeeps.kept
    · rw [hadds.size_eq] at hlt
      rcases Nat.lt_or_eq_of_le (Nat.le_of_lt_succ hlt) with hlt | rfl
      · exact hbefore hlt hadds.kept
      · obtain ⟨j, hj, rfl⟩ := hadds.added
        rw [hi] at hj
        cases hj
        exact ⟨c', args, ⟨setup, e, hrun⟩, ⟨hcontrol, rfl, hadds⟩, .refl⟩
  | next e h hend ih =>
    obtain ⟨b, args, hb, hmakes, hcontinues⟩ := ih hi
    exact ⟨b, args, hb, hmakes, hcontinues.next e hend⟩

/-! ## Main result -/

/-- In every `PlainRun` every instance was made by a call of its type, and unless the type `Opens` the
first field, that field is the same in everything that the run comes to after the call. If the type
`IsBox`, the call has raised, or it has given the instance, and `ReadsContents` holds everywhere after it
for the first of its two arguments. If the type `IsCounter`, the call has raised, or it has given the
instance, and `ReadsBound` holds everywhere after it for the native integer of its argument. -/
theorem constructor_arguments_stay (h : c.PlainRun)
    (hi : c.session.host.store.instances.get? ref = some i) :
    ∃ (b : Config) (args : List Value),
      b.PlainRun ∧ b.Makes i.type args ref ∧ b.step.Continues c ∧
      (¬ i.type.Opens 0 → ∀ c', b.step.Continues c' →
        c'.session.host.store.fieldAt ref 0 = b.step.session.host.store.fieldAt ref 0) ∧
      (i.type.IsBox → (∃ e, b.step.control = .raise e) ∨
        (b.after 2).control = .give (.object ref) ∧ ∃ contents counter, args = [contents, counter] ∧
          ∀ c', b.step.Continues c' → c'.session.ReadsContents ref contents) ∧
      (i.type.IsCounter → (∃ e, b.step.control = .raise e) ∨
        (b.after 2).control = .give (.object ref) ∧ ∃ v bound, args = [v] ∧ v.native? = some bound ∧
          ∀ c', b.step.Continues c' → c'.session.ReadsBound ref bound) := by
  obtain ⟨b, args, hb, hmakes, hcontinues⟩ := h.exists_call hi
  obtain ⟨hcontrol, rfl, hadds⟩ := hmakes
  refine ⟨b, args, hb, ⟨hcontrol, rfl, hadds⟩, hcontinues, fun hclosed c' hc' => ?_, fun ht => ?_,
    fun ht => ?_⟩
  · -- The instance as the construction adds it, before any initializer.
    obtain ⟨j, hj, htype⟩ := hadds.added
    obtain ⟨k, hk, hjk⟩ := hc'.keeps (hb.plain_step hcontrol) _ _ hj
    unfold Store.fieldAt
    rw [Store.instanceAt_eq hj, Store.instanceAt_eq hk]
    exact hjk.field_eq (htype ▸ hclosed)
  · rcases hb.constructs hcontrol ht.init ht.not_opens with hraise | ⟨s, j, hrun, hgive, hstay⟩
    · exact Or.inl hraise
    · obtain ⟨contents, counter, hargs, hfield⟩ :=
        Sample.Box.stores_init s _ args j (InitSlot.ok_of_atomic hrun)
      refine Or.inr ⟨hgive, contents, counter, hargs, fun c' hc' => ?_⟩
      obtain ⟨hplain, k, hk, htype, hkept⟩ := hstay c' hc'
      exact hplain.readsContents hk (htype ▸ ht) (hkept.trans hfield)
  · rcases hb.constructs hcontrol ht.init ht.not_opens with hraise | ⟨s, j, hrun, hgive, hstay⟩
    · exact Or.inl hraise
    · obtain ⟨v, bound, hargs, hnative, hfield⟩ :=
        Sample.Counter.stores_init s _ args j (InitSlot.ok_of_atomic hrun)
      refine Or.inr ⟨hgive, v, bound, hargs, hnative, fun c' hc' => ?_⟩
      obtain ⟨hplain, k, hk, htype, hkept⟩ := hstay c' hc'
      exact hplain.readsBound hk (htype ▸ ht) (hkept.trans hfield)

def moveBox : Config :=
  { control := .eval
      (.apply (.object (.callMethod "incr"))
        [.apply (.object .call)
          [.apply (.session (.moduleAttr "basic" "Cbox")) [], .bool true,
            .int (NativeInt.toHost 1)]])
    session := .ofSetup {} }

def boxMade : Config := moveBox.after 10

def boxMoved : Config := boxMade.after 3

def movedBox : Instance := boxMoved.session.host.store.instanceAt 0

theorem constructor_arguments_stay_boxMoved :
    boxMoved.PlainRun ∧ boxMoved.session.host.store.instances.get? 0 = some movedBox ∧
      movedBox.type.IsBox ∧
      ∃ (b : Config) (args : List Value),
        b.PlainRun ∧ b.Makes movedBox.type args 0 ∧ b.step.Continues boxMoved ∧
        ((∃ e, b.step.control = .raise e) ∨
          (b.after 2).control = .give (.object 0) ∧ ∃ contents counter, args = [contents, counter] ∧
            ∀ c', b.step.Continues c' → c'.session.ReadsContents 0 contents) := by
  have hmade : boxMade.PlainRun := ⟨{}, _, Continues.refl.after 10 (by decide +kernel)⟩
  have hmoves : boxMade.Continues boxMoved := Continues.refl.after 3 (by decide +kernel)
  have hrun : boxMoved.PlainRun := hmade.continues hmoves
  -- The type is looked up in the box as it was made.
  have hbox : boxMade.session.host.store.instances.get? 0 =
      some (boxMade.session.host.store.instanceAt 0) := rfl
  have htype : (boxMade.session.host.store.instanceAt 0).type.IsBox := ⟨12, rfl⟩
  obtain ⟨i, hi, hkept⟩ := hmoves.keeps hmade.plain _ _ hbox
  rw [← hkept.type_eq] at htype
  rw [movedBox, Store.instanceAt_eq hi]
  obtain ⟨b, args, hb, hmakes, hcontinues, -, hstays, -⟩ := constructor_arguments_stay hrun hi
  exact ⟨hrun, hi, htype, b, args, hb, hmakes, hcontinues, hstays htype⟩

end Config

end ObjectProtocol
