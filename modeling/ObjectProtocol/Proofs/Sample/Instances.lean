import ObjectProtocol.Proofs.Sample.Failures

/-!
# Boxes and counters

Both declarations of the sample module that have native code give it a layout to work on.  On an
instance with that layout the fields it touches are there and of the right kinds, whatever type
derived from the declared one the instance has.  So the methods and slots fail in ordinary ways, but
for `maybeIncr` and for the allocation of a box with the counter that is reported.
-/

namespace ObjectProtocol

theorem Record.ordinary_typedTuple {r : Record} {format : List Param}
    (h : format.length = r.size) (s : Store) :
    FailsOnly Failure.Ordinary (r.typedTuple s format) := by
  unfold typedTuple typedValues
  rw [if_pos h]
  exact .map (ordinary_convertAll s r.fields format)

namespace Sample

variable {i : Instance} {s : Store} {args : List Value} {a : Args}

/-! ## Boxes -/

namespace Box

/-- The arguments for which `Box.init` fails without a reason. -/
def Reported (args : List Value) : Prop := ∃ contents, args = [contents, .ofNative errorCounter]

theorem eq_of_parse (h : constructorSpec.parse s args = .ok a) :
    ∃ contents counter n, args = [contents, counter] ∧ a.int 1 = .ok n ∧
      s.toNative counter = .ok n := by
  obtain ⟨harity, -⟩ := ArgSpec.of_parse h
  have hboth : 2 ≤ args.length ∧ args.length ≤ 2 := by
    simpa [ArgSpec.arityOk, constructorSpec, ArgSpec.empty, ArgSpec.required] using harity
  have hlength : args.length = 2 := Nat.le_antisymm hboth.2 hboth.1
  obtain ⟨contents, counter, rfl⟩ : ∃ v w, args = [v, w] := by
    match args, hlength with
    | [v, w], _ => exact ⟨v, w, rfl⟩
  obtain ⟨v, n, hget, hint, hnative⟩ :=
    ArgSpec.exists_int_of_parse (i := 1) h (by decide) (by decide)
  -- The parsed value is the argument itself.
  have hsecond : a.get? 1 = some counter := by
    rw [Args.get?, ← List.getElem?_map]
    show a.values[1]? = some counter
    rw [ArgSpec.values_of_parse h]
    rfl
  rw [hsecond] at hget
  cases hget
  exact ⟨contents, counter, n, rfl, hint, hnative⟩

theorem failsOnly_checkNew (s : Store) (args : List Value) :
    FailsOnly (fun f => f.Ordinary ∨ f = .silent .invariantBroken ∧ Reported args)
      (checkNew s args) := by
  refine .bind ((constructorSpec.ordinary_parse s args).mono fun f hf => Or.inl hf) fun a ha => ?_
  obtain ⟨contents, counter, n, rfl, hint, hnative⟩ := eq_of_parse ha
  rw [hint]
  show FailsOnly _ (if n = errorCounter then _ else _)
  split
  · rename_i hn
    rw [hn] at hnative
    refine .error (Or.inr ⟨rfl, contents, ?_⟩)
    rw [Store.eq_ofNative_of_toNative hnative (by decide)]
  · exact .ok ()

theorem ordinary_initialCounter {n : NativeInt} (h : a.int 1 = .ok n) (contents : Value) :
    FailsOnly Failure.Ordinary (initialCounter a contents) := by
  -- Which lengths fit does not matter, and comparing one with the bounds is not to be computed.
  obtain ⟨fit, hfit⟩ : ∃ fit, fit = NativeInt.ofInt? := ⟨_, rfl⟩
  unfold initialCounter
  rw [← hfit]
  split
  · split
    · exact .ok _
    · exact .error (Failure.ordinary_because (by decide) _)
  · rw [h]
    exact .ok n

theorem ordinary_init (hi : i.kinds = boxDecl.layout) (s : Store) (args : List Value) :
    FailsOnly Failure.Ordinary (init s i args) := by
  refine .bind (constructorSpec.ordinary_parse s args) fun a ha => ?_
  refine .bind (.of_exists (ArgSpec.exists_get_of_parse ha (by decide))) fun contents _ => ?_
  obtain ⟨-, -, n, -, hint, -⟩ := eq_of_parse ha
  refine .bind (ordinary_initialCounter hint contents) fun counter _ => ?_
  refine .bind (.of_exists (Instance.exists_write ?_)) fun j hj => ?_
  · rw [hi]
    rfl
  · refine .of_exists (Instance.exists_write ?_)
    rw [Instance.kinds_write hj, hi]
    rfl

theorem exists_counter (hi : i.kinds = boxDecl.layout) : ∃ n, counter i = .ok n :=
  Instance.exists_readInt (by rw [hi]; rfl)

theorem exists_contents (hi : i.kinds = boxDecl.layout) : ∃ v, contents i = .ok v := by
  have hfield : i.kinds[contentsField]? = some .object := by
    rw [hi]
    rfl
  obtain ⟨v, hv⟩ := Instance.exists_readObject hfield
  refine ⟨v.getD .null, ?_⟩
  rw [contents, hv]
  rfl

theorem exists_record (hi : i.kinds = boxDecl.layout) : ∃ r, record i = .ok r ∧ r.size = 2 := by
  obtain ⟨v, hv⟩ := exists_contents hi
  obtain ⟨n, hn⟩ := exists_counter hi
  refine ⟨⟨[("contents", v), ("counter", .ofNative n)]⟩, ?_, rfl⟩
  unfold record
  rw [hv, hn]
  rfl

theorem ordinary_incr (hi : i.kinds = boxDecl.layout) : FailsOnly Failure.Ordinary (incr i) := by
  refine .bind (.of_exists (exists_counter hi)) fun n _ => ?_
  split
  · refine .of_exists (Instance.exists_write ?_)
    rw [hi]
    rfl
  · exact .error (Failure.ordinary_because (by decide) _)

theorem failsOnly_settle (hi : i.kinds = boxDecl.layout) (policy : MutationPolicy) (n : NativeInt)
    (faulted : Bool) :
    FailsOnly (· = .silent .invariantBroken) (settle i policy n faulted).1 := by
  -- The counter field exists, so writing it succeeds, whatever the policy.
  have hcommit (m : NativeInt) : ∃ j, i.write counterField (.int m) = .ok j :=
    Instance.exists_write (by rw [hi]; rfl)
  unfold settle
  dsimp only
  split
  · split
    · exact .error rfl
    · rename_i m _ _
      obtain ⟨j, hj⟩ := hcommit m
      rw [hj]
      exact .ok ()
  · exact .error rfl
  · obtain ⟨j, hj⟩ := hcommit (n.wrappingAdd 1)
    rw [hj]
    dsimp only
    split
    · exact .error rfl
    · exact .ok ()

theorem failsOnly_maybeIncr {h : Host} {ref : Ref}
    (hi : (h.store.instanceAt ref).kinds = boxDecl.layout) :
    FailsOnly (· = .failure (.silent .invariantBroken)) (maybeIncr h ref).1 := by
  obtain ⟨n, hn⟩ := exists_counter hi
  unfold maybeIncr
  dsimp only
  rw [hn]
  refine .map (.mapError ?_)
  exact (failsOnly_settle hi _ n _).mono fun f hf => congrArg NativeError.failure hf

theorem ordinary_callback (hi : i.kinds = boxDecl.layout) (s : Store)
    (ha : ∃ v, a.get 0 = .ok v) : FailsOnly NativeError.Ordinary (callback s i a) := by
  refine .bind (.of_exists ?_) fun target _ => ?_
  · obtain ⟨v, hv⟩ := ha
    exact ⟨v, by rw [hv]; rfl⟩
  · refine .bind (.mapError (ordinary_ensureCallable s target)) fun _ _ => ?_
    refine .bind (.mapError (.of_exists (exists_contents hi))) fun c _ => ?_
    refine .bind (.mapError (.of_exists (exists_counter hi))) fun n _ => ?_
    exact .map (.mapError (ordinary_ensureCallable s target))

end Box

/-! ## Counters -/

namespace Counter

theorem ordinary_init (hi : i.kinds = counterDecl.layout) (s : Store) (args : List Value) :
    FailsOnly Failure.Ordinary (init s i args) := by
  refine .bind (constructorSpec.ordinary_parse s args) fun a ha => ?_
  refine .bind (.of_exists (ArgSpec.exists_get_of_parse ha (by decide))) fun v hv => ?_
  split
  · refine .bind (.bind (.of_exists ⟨v, hv⟩) fun w _ => s.ordinary_toNative w) fun n _ => ?_
    refine .of_exists (Instance.exists_write ?_)
    rw [hi]
    rfl
  · exact .error (Failure.ordinary_because (by decide) _)

theorem exists_bound (hi : i.kinds = counterDecl.layout) : ∃ n, i.readInt boundField = .ok n :=
  Instance.exists_readInt (by rw [hi]; rfl)

theorem ordinary_rawLength (hi : i.kinds = counterDecl.layout) :
    FailsOnly Failure.Ordinary (rawLength i) := by
  refine .bind (.of_exists (exists_bound hi)) fun bound _ => ?_
  split
  · exact .error (Failure.ordinary_because (by decide) _)
  · exact .ok bound

end Counter

/-! ## Methods -/

/-- The declarations of the sample module that have native code. -/
def nativeDecls : List (TypeDecl Code) := [boxDecl, counterDecl]

variable {d : TypeDecl Code} {m : Method Code}

theorem cases_of_mem_nativeDecls (h : d ∈ nativeDecls) : d = boxDecl ∨ d = counterDecl := by
  simpa [nativeDecls] using h

theorem exists_of_mem_boxDecl (hm : m ∈ boxDecl.methods) :
    ∃ b, m.body = .native (.box b) ∧ (b = .callback → 0 < m.spec.min) ∧
      (b = .maybeIncr → m.name = "maybe_incr" ∨ m.name = "maybe_incr2") := by
  simp only [boxDecl, List.mem_cons, List.not_mem_nil, or_false] at hm
  rcases hm with rfl | rfl | rfl | rfl | rfl | rfl | rfl | rfl | rfl <;>
    exact ⟨_, rfl, by decide, by decide⟩

theorem body_of_mem_counterDecl (hm : m ∈ counterDecl.methods) : m.body = .native .rawLength := by
  simp only [counterDecl, List.mem_cons, List.not_mem_nil, or_false] at hm
  subst hm
  rfl

theorem name_of_maybeIncr (hd : d ∈ nativeDecls) (hm : m ∈ d.methods)
    (hbody : m.body = .native (.box .maybeIncr)) : m.name = "maybe_incr" ∨ m.name = "maybe_incr2" := by
  rcases cases_of_mem_nativeDecls hd with rfl | rfl
  · obtain ⟨b, hb, -, hname⟩ := exists_of_mem_boxDecl hm
    rw [hbody] at hb
    cases hb
    exact hname rfl
  · rw [body_of_mem_counterDecl hm] at hbody
    cases hbody

theorem ordinary_boxMethod {b : BoxMethod} (hb : b ≠ .maybeIncr) {h : Host} {ref : Ref}
    (hi : (h.store.instanceAt ref).kinds = boxDecl.layout)
    (ha : b = .callback → ∃ v, a.get 0 = .ok v) :
    FailsOnly NativeError.Ordinary (b.run h ref a).1 := by
  obtain ⟨r, hr, hsize⟩ := Box.exists_record hi
  cases b with
  | maybeIncr => contradiction
  | getContents => exact .map (.mapError (.of_exists (Box.exists_contents hi)))
  | getCounter => exact .map (.mapError (.of_exists (Box.exists_counter hi)))
  | getData | getDataDict => exact .map (.mapError (.of_exists ⟨r, hr⟩))
  -- The format has as many parameters as the record has fields, so no length is blamed.
  | brokenGetData =>
    refine .map (.mapError (.bind (.of_exists ⟨r, hr⟩) fun r' hr' => ?_))
    rw [hr] at hr'
    cases hr'
    have hformat : [Param.int, Param.int].length = r.size := hsize.symm
    exact Record.ordinary_typedTuple hformat h.store
  | incr => exact h.failsOnly_answer (.map (.mapError (Box.ordinary_incr hi)))
  | callback => exact Box.ordinary_callback hi h.store (ha rfl)

/-- Bound to an instance with the layout of its declaration, a native method fails in `Ordinary` ways, but
for `maybeIncr`, which reports a fault without a reason. -/
theorem failsOnly_method (hd : d ∈ nativeDecls) (hm : m ∈ d.methods) {r : MethodRoutine}
    (hbody : m.body = .native r) {h : Host} {ref : Ref}
    (hi : (h.store.instanceAt ref).kinds = d.layout) (ha : m.spec.parse h.store args = .ok a) :
    FailsOnly (fun x => x.Ordinary ∨
        r = .box .maybeIncr ∧ x = .failure (.silent .invariantBroken)) (r.run h ref a).1 := by
  rcases cases_of_mem_nativeDecls hd with rfl | rfl
  · obtain ⟨b, hb, hcallback, -⟩ := exists_of_mem_boxDecl hm
    rw [hbody] at hb
    cases hb
    by_cases hmaybe : b = .maybeIncr
    · subst hmaybe
      exact (Box.failsOnly_maybeIncr hi).mono fun x hx => Or.inr ⟨rfl, hx⟩
    · have hfirst (hc : b = .callback) : ∃ v, a.get 0 = .ok v :=
        ArgSpec.exists_get_of_parse ha (hcallback hc)
      exact (ordinary_boxMethod hmaybe hi hfirst).mono fun x hx => Or.inl hx
  · -- A counter has the one native method.
    rw [body_of_mem_counterDecl hm] at hbody
    cases hbody
    have hordinary : FailsOnly NativeError.Ordinary
        (MethodRoutine.rawLength.run h ref a).1 :=
      .map (.mapError (Counter.ordinary_rawLength hi))
    exact hordinary.mono fun x hx => Or.inl hx

/-! ## Slots -/

theorem failsOnly_newSlot (hd : d ∈ nativeDecls) {slot : NewSlot} (hslot : d.slots.new = some slot)
    (s : Store) (args : List Value) :
    FailsOnly (fun f => f.Ordinary ∨ slot = .box ∧ f = .silent .invariantBroken ∧ Box.Reported args)
      (slot.check s args) := by
  rcases cases_of_mem_nativeDecls hd with rfl | rfl
  · cases hslot
    exact (Box.failsOnly_checkNew s args).mono fun f hf => hf.imp id fun h => ⟨rfl, h⟩
  · contradiction

theorem ordinary_initSlot (hd : d ∈ nativeDecls) {slot : InitSlot} (hslot : d.slots.init = some slot)
    (hi : i.kinds = d.layout) (s : Store) (args : List Value) :
    FailsOnly Failure.Ordinary (slot.run s i args).1 := by
  rcases cases_of_mem_nativeDecls hd with rfl | rfl
  · cases hslot
    exact InitSlot.failsOnly_atomic (Box.ordinary_init hi s args) i
  · cases hslot
    exact InitSlot.failsOnly_atomic (Counter.ordinary_init hi s args) i

theorem ordinary_lengthSlot (hd : d ∈ nativeDecls) {slot : LengthSlot}
    (hslot : d.slots.length = some slot) (hi : i.kinds = d.layout) :
    FailsOnly Failure.Ordinary (slot.run i) := by
  rcases cases_of_mem_nativeDecls hd with rfl | rfl
  · contradiction
  · cases hslot
    exact .of_exists (Counter.exists_bound hi)

theorem ordinary_containsSlot (hd : d ∈ nativeDecls) {slot : ContainsSlot}
    (hslot : d.slots.contains = some slot) (hi : i.kinds = d.layout) (s : Store) (item : Value)
    (inside : Value → Except Exception Bool) :
    FailsOnly NativeError.Ordinary (slot.run s i item inside) := by
  rcases cases_of_mem_nativeDecls hd with rfl | rfl
  · contradiction
  · cases hslot
    refine .mapError (.bind (s.ordinary_toNative item) fun n _ => ?_)
    exact .bind (.of_exists (Counter.exists_bound hi)) fun bound _ => .ok _

theorem ordinary_iterSlot (hd : d ∈ nativeDecls) {slot : IterSlot}
    (hslot : d.slots.iter = some slot) (hi : i.kinds = d.layout) {rt : Runtime}
    (hregistered : ∃ t, rt.registry.named? counterIteratorName = some t)
    (inside : Value → Except Exception Sketch) :
    FailsOnly NativeError.Ordinary (slot.run rt i inside) := by
  rcases cases_of_mem_nativeDecls hd with rfl | rfl
  · contradiction
  · cases hslot
    obtain ⟨t, ht⟩ := hregistered
    refine .mapError ?_
    rw [ht]
    exact .bind (.of_exists (Counter.exists_bound hi)) fun bound _ => .ok _

theorem next_eq_none (hd : d ∈ nativeDecls) : d.slots.next = none := by
  rcases cases_of_mem_nativeDecls hd with rfl | rfl <;> rfl

end Sample

end ObjectProtocol
