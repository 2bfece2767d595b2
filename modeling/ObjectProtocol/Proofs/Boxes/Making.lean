import ObjectProtocol.Proofs.Calls.Answering
import ObjectProtocol.Proofs.Construction.Initializing
import ObjectProtocol.Proofs.Subclasses.Likeness

/-!
# Making a box

The arguments of the constructor are parsed twice, once before a box is allocated and once to fill it.
Only the first time may there be something wrong with them: what the allocation has agreed to, the
initialization stores.  So a call that fails has made nothing, and one that succeeds has made a box with
both of its fields filled.
-/

namespace ObjectProtocol

open NativeInt (InRange)

/-- A text has no more characters than a `NativeInt` can count. The bytes of a text that exists lie in
memory, and there are no more of these. -/
def Value.Countable (v : Value) : Prop := ∀ text, v.asText? = some text → InRange text.length

theorem Value.native_or_refused {v : Value} {k : HostInt} (s : Store) (h : v.asInt? = some k) :
    (∃ n, v.native? = some n ∧ n.val = k.val) ∨
      ¬ InRange k.val ∧ ∃ f, s.toNative v = .error f ∧ f.kind = .overflowError := by
  unfold Store.toNative Value.native?
  rw [h]
  dsimp only [Option.bind]
  cases hn : k.toNative? with
  | some n => exact Or.inl ⟨n, rfl, NativeInt.ofInt?_eq_some_iff.1 hn⟩
  | none => exact Or.inr ⟨NativeInt.ofInt?_eq_none_iff.1 hn, _, rfl, rfl⟩

theorem Value.refused_of_asInt?_eq_none {v : Value} (s : Store) (h : v.asInt? = none) :
    ∃ f, s.toNative v = .error f ∧ f.kind = .typeError := by
  unfold Store.toNative
  rw [h]
  exact ⟨_, rfl, rfl⟩

/-- Where `min` and `max` coincide, `parse` refuses any other number of arguments. -/
theorem ArgSpec.parse_of_length_ne {spec : ArgSpec} {args : List Value} (s : Store)
    (hmax : spec.max = some spec.min) (hmin : spec.min ≠ 0) (h : args.length ≠ spec.min) :
    spec.parse s args =
      .error (spec.arityFailure ("exactly " ++ countText spec.min) args.length) := by
  have hsome : ¬ (spec.max = some 0 ∧ 0 < args.length) := fun hnone =>
    hmin (Option.some.inj (hmax.symm.trans hnone.1))
  unfold parse checkArity
  rw [if_neg hsome, if_pos ⟨hmax, h⟩]

namespace Sample.Box

/-- Contents and counter of the box that `init` makes of the arguments, or the kind of exception that
there is instead. The counter of a text is its number of characters, whatever was given for it. -/
def expected (args : List Value) : Except ExceptionKind (Value × Int) :=
  match args with
  | [x, v] =>
    match v.asInt? with
    | none => .error .typeError
    | some k =>
      if ¬ InRange k.val then .error .overflowError
      else if k.val = -1 then .error .systemError
      else .ok (x, x.asText?.elim k.val (·.length))
  | _ => .error .typeError

variable {s : Store} {args : List Value} {x v : Value} {k : HostInt} {n : NativeInt}

/-! ## Parsing -/

theorem parse_pair (s : Store) (x v : Value) :
    constructorSpec.parse s [x, v] =
      (constructorSpec.narrow s 1 v).map fun n => ⟨[(x, none), (v, n)]⟩ := by
  have hcheck : constructorSpec.checkArity [x, v].length = .ok () := rfl
  have hfirst : constructorSpec.narrow s 0 x = .ok none := rfl
  unfold ArgSpec.parse
  rw [hcheck]
  dsimp only
  unfold ArgSpec.narrowAll
  rw [hfirst]
  dsimp only
  unfold ArgSpec.narrowAll
  cases constructorSpec.narrow s (0 + 1) v <;> rfl

theorem parse_of_asInt?_eq_none (s : Store) (x : Value) (h : v.asInt? = none) :
    constructorSpec.parse s [x, v] =
      .error (.because .typeMismatch ("argument 2 must be int, not " ++ s.typeName v)) := by
  have hint : ¬ v.isInt = true := by simp [Value.isInt, h]
  rw [parse_pair, show constructorSpec.narrow s 1 v = _ from if_neg hint]
  rfl

theorem parse_of_asInt? (s : Store) (x : Value) (h : v.asInt? = some k) :
    constructorSpec.parse s [x, v] =
      (s.toNative v).map fun n => ⟨[(x, none), (v, some n)]⟩ := by
  have hint : v.isInt = true := by simp [Value.isInt, h]
  rw [parse_pair, show constructorSpec.narrow s 1 v = _ from if_pos hint]
  cases s.toNative v <;> rfl

/-! ## Allocation and initialization -/

theorem checkNew_of_parse {f : Failure} (h : constructorSpec.parse s args = .error f) :
    checkNew s args = .error f := by
  unfold checkNew
  rw [h]
  rfl

theorem checkNew_of_toNative (h : v.asInt? = some k) (hn : s.toNative v = .ok n) :
    checkNew s [x, v] = if n = errorCounter then .error (.silent .invariantBroken) else .ok () := by
  unfold checkNew
  rw [parse_of_asInt? s x h, hn]
  rfl

theorem init_of_counter {t : TypeObject} {m : NativeInt} (h : v.asInt? = some k)
    (hn : s.toNative v = .ok n)
    (hcounter : initialCounter ⟨[(x, none), (v, some n)]⟩ x = .ok m) :
    init s { type := t, fields := [.object none, .int 0] } [x, v] =
      .ok { type := t, fields := [.object (some x), .int m] } := by
  unfold init
  rw [parse_of_asInt? s x h, hn]
  show (initialCounter ⟨[(x, none), (v, some n)]⟩ x).bind _ = _
  rw [hcounter]
  rfl

/-! ## Both together -/

theorem expected_of_length_ne (h : args.length ≠ 2) : expected args = .error .typeError := by
  unfold expected
  split
  · contradiction
  · rfl

theorem exists_initialCounter {a : Args} (hcountable : x.Countable) (ha : a.int 1 = .ok n) :
    ∃ m, initialCounter a x = .ok m ∧ m.val = x.asText?.elim n.val (·.length) := by
  -- Comparing a length with the bounds is not to be computed.
  obtain ⟨fit, hfit⟩ : ∃ fit, fit = NativeInt.ofInt? := ⟨_, rfl⟩
  unfold initialCounter
  rw [← hfit]
  cases htext : x.asText? with
  | none => exact ⟨n, ha, rfl⟩
  | some text =>
    cases hm : fit text.length with
    | none => exact absurd (hcountable text htext) (NativeInt.ofInt?_eq_none_iff.1 (hfit ▸ hm))
    | some m =>
      refine ⟨m, ?_, NativeInt.ofInt?_eq_some_iff.1 (hfit ▸ hm)⟩
      dsimp only
      rw [hm]

theorem exists_run_of_native? (t : TypeObject) (hcountable : x.Countable) (h : v.asInt? = some k)
    (hn : v.native? = some n) :
    ∃ m : NativeInt, m.val = x.asText?.elim n.val (·.length) ∧
      ∀ s : Store, InitSlot.box.run s { type := t, fields := [.object none, .int 0] } [x, v] =
        (.ok (), { type := t, fields := [.object (some x), .int m] }) := by
  have hint : Args.int ⟨[(x, none), (v, some n)]⟩ 1 = .ok n := rfl
  obtain ⟨m, hcounter, hm⟩ := exists_initialCounter hcountable hint
  refine ⟨m, hm, fun s => ?_⟩
  unfold InitSlot.run
  dsimp only
  rw [init_of_counter h (Store.toNative_of_native? hn) hcounter]
  rfl

/-- Either `checkNew` refuses the arguments with the `expected` kind, or it agrees to them and `init`
stores the `expected` fields, in whatever state it finds the host. -/
theorem refused_or_stored (s : Store) (t : TypeObject) (hcountable : ∀ v ∈ args, v.Countable) :
    (∃ f : Failure, expected args = .error f.kind ∧ NewSlot.box.check s args = .error f) ∨
    (∃ (x : Value) (n : NativeInt), expected args = .ok (x, n.val) ∧
      NewSlot.box.check s args = .ok () ∧
      ∀ s' : Store, InitSlot.box.run s' { type := t, fields := [.object none, .int 0] } args =
        (.ok (), { type := t, fields := [.object (some x), .int n] })) := by
  -- Two arguments are needed, the second has to be an integer, it has to fit, and it must not be
  -- `errorCounter`: `checkNew` asks in this order.
  by_cases hlength : args.length = 2
  swap
  · have hcheck := checkNew_of_parse (ArgSpec.parse_of_length_ne s rfl (by decide) hlength)
    rw [expected_of_length_ne hlength]
    exact Or.inl ⟨_, rfl, hcheck⟩
  obtain ⟨x, v, rfl⟩ := List.length_eq_two.1 hlength
  unfold expected
  dsimp only
  cases hk : v.asInt? with
  | none =>
    have hcheck := checkNew_of_parse (parse_of_asInt?_eq_none s x hk)
    exact Or.inl ⟨_, rfl, hcheck⟩
  | some k =>
    dsimp only
    rcases v.native_or_refused s hk with ⟨n, hn, hval⟩ | ⟨hrange, f, hf, hkind⟩
    · have hcheck : NewSlot.box.check s [x, v] = _ := checkNew_of_toNative hk (Store.toNative_of_native? hn)
      rw [if_neg (not_not_intro (hval ▸ n.inRange_val)), ← hval]
      by_cases herror : n = errorCounter
      · have hminus : n.val = -1 := congrArg NativeInt.val herror
        rw [if_pos herror] at hcheck
        rw [if_pos hminus]
        exact Or.inl ⟨_, rfl, hcheck⟩
      · rw [if_neg herror] at hcheck
        rw [if_neg fun hminus : n.val = -1 => herror (NativeInt.ext hminus)]
        obtain ⟨m, hm, hrun⟩ := exists_run_of_native? t (hcountable x List.mem_cons_self) hk hn
        exact Or.inr ⟨x, m, by rw [hm], hcheck, hrun⟩
    · have hparse := parse_of_asInt? s x hk
      rw [hf] at hparse
      rw [if_pos hrange]
      exact Or.inl ⟨f, by rw [hkind], checkNew_of_parse hparse⟩

end Sample.Box

/-! ## Calls of a type -/

/-- What `setInstance` stores in a new instance might have been in it from the start. -/
theorem Store.setInstance_newInstance (s : Store) (i j : Instance) :
    (s.newInstance i).2.setInstance s.instances.size j = (s.newInstance j).2 := by
  unfold newInstance setInstance
  rw [Heap.set_push]

namespace TypeObject

variable {t : TypeObject}

theorem IsBox.new (h : t.IsBox) : t.own.kind ≠ .builtin ∧ t.findSlot? (·.new) = some .box := by
  obtain ⟨id, hbuild⟩ := h
  rw [TypeDecl.eq_of_build hbuild]
  exact ⟨nofun, rfl⟩

theorem IsBox.alloc_eq (h : t.IsBox) :
    Instance.alloc t = { type := t, fields := [.object none, .int 0] } := by
  obtain ⟨id, hbuild⟩ := h
  rw [TypeDecl.eq_of_build hbuild]
  rfl

end TypeObject

theorem Entry.frames_of_isOutcome {entry : Entry} (h : entry.control.isOutcome = true)
    (outside : List Value) : entry.frames outside = [] := by
  cases entry with
  | give | raise | call => rfl
  | run => contradiction

namespace Control

def initialized (receiver : Value) : Control → Control
  | .give _ => .give receiver
  | control => control

theorem isOutcome_initialized {control : Control} (h : control.isOutcome = true) (receiver : Value) :
    (control.initialized receiver).isOutcome = true := by
  cases control with
  | give | raise => rfl
  | eval | body | call | malformed => contradiction

end Control

namespace Config

variable {c : Config} {t : TypeObject} {args : List Value}

theorem step_of_initializer {receiver : Value} {rest : List Frame} (hout : c.control.isOutcome = true)
    (hstack : c.stack = .initializer receiver :: rest) :
    c.step = { c with control := c.control.initialized receiver, stack := rest } := by
  have hasks := asksForType_of_isOutcome hout fun _ _ _ hoperand => by
    cases hstack.symm.trans hoperand
  rw [step_of_asksForType hasks]
  obtain ⟨control, stack, args, session⟩ := c
  dsimp only at hout hstack
  subst hstack
  cases control with
  | give v | raise e => rfl
  | eval | body | call | malformed => contradiction

theorem refusal?_of_check_ok {h : Host} {slot : NewSlot} (hkind : t.own.kind ≠ .builtin)
    (hslot : t.findSlot? (·.new) = some slot) (hcheck : slot.check h.store args = .ok ()) :
    h.refusal? t args = none := by
  unfold Host.refusal?
  rw [if_neg hkind, hslot]
  dsimp only [Option.elim]
  rw [hcheck]

theorem exists_answeredBy_of_refusal {e : Exception} (hcontrol : c.control = .call (.type t) args)
    (hdepth : c.depth < c.limit) (hrefusal : c.ready.session.host.refusal? t args = some e) :
    ∃ c', c.AnsweredBy c' ∧ c'.control = .raise e ∧ c'.session = c.ready.session := by
  have hready : c.ready.depth < c.ready.limit := by rwa [depth_ready, limit_ready]
  have hstep : c.step = _ :=
    ((step_eq_advance c).trans (advance_of_call (c.control_ready.trans hcontrol))).trans
      (call_type_of_refusal hready hrefusal)
  have hstack : c.step.stack = .activation (c.ready.keptBy (.type t) args) :: c.stack := by
    rw [hstep, ← c.stack_ready]
    rfl
  have hraise : c.step.control = .raise e := by rw [hstep]
  refine ⟨_, answeredBy_of_activation hcontrol (by rw [hraise]; rfl) hstack, hraise, ?_⟩
  rw [hstep]
  rfl

/-- A call whose `setUp` is over at once is left by the third step: with the instance, or with the
exception if there is one. -/
theorem exists_answeredBy_of_setUp {entry : Entry} {h : Host}
    (hcontrol : c.control = .call (.type t) args) (hdepth : c.depth < c.limit)
    (hrefusal : c.ready.session.host.refusal? t args = none)
    (hsetUp : (c.ready.allocated t args).session.host.setUp t
      c.ready.session.host.store.instances.size args = (entry, h))
    (hout : entry.control.isOutcome = true) :
    ∃ c', c.AnsweredBy c' ∧
      c'.control = entry.control.initialized (.object c.ready.session.host.store.instances.size) ∧
      c'.session = c.ready.session.withHost
        ⟨{ h.runtime with depth := h.runtime.depth - 1 }, h.store⟩ := by
  have hready : c.ready.depth < c.ready.limit := by rwa [depth_ready, limit_ready]
  -- The first step makes the instance and fills it, under the frames of its initializer and of the call.
  have hstep := ((step_eq_advance c).trans (advance_of_call (c.control_ready.trans hcontrol))).trans
    (call_type_eq hready hrefusal)
  rw [enter_eq hsetUp, Entry.frames_of_isOutcome hout, List.nil_append] at hstep
  have hstack : c.step.stack = .initializer (.object c.ready.session.host.store.instances.size) ::
      .activation (c.ready.keptBy (.type t) args) :: c.stack := by
    rw [hstep, ← c.stack_ready]
    rfl
  have hentry : c.step.control = entry.control := by rw [hstep]
  -- The second one leaves the initializer, and the third one the call.
  have hsecond := step_of_initializer (hentry ▸ hout) hstack
  have hleaves : c.step.step.stack = .activation (c.ready.keptBy (.type t) args) :: c.stack := by
    rw [hsecond]
  have hresult : c.step.step.control.isOutcome = true := by
    rw [hsecond]
    exact Control.isOutcome_initialized (hentry ▸ hout) _
  have hthird := step_of_activation hresult hleaves
  refine ⟨c.step.step.step, ⟨3, rfl, ⟨?_, ?_⟩, fun k hk => ?_⟩, ?_, ?_⟩
  · rw [hthird]
    exact hresult
  · rw [hthird]
  · match k with
    | 0 =>
      refine not_settledOn (Or.inl ?_)
      rw [after_zero, hcontrol]
      rfl
    | 1 =>
      refine not_settledOn (Or.inr ?_)
      rw [show c.after 1 = c.step from rfl, hstack, List.length_cons, List.length_cons]
      omega
    | 2 =>
      refine not_settledOn (Or.inr ?_)
      rw [show c.after 2 = c.step.step from rfl, hsecond, List.length_cons]
      omega
  · rw [hthird, hsecond, ← hentry]
    rfl
  · rw [hthird, hsecond, hstep]
    rfl

theorem exists_answeredBy_of_slot {slot : InitSlot} {i : Instance}
    (hcontrol : c.control = .call (.type t) args) (hdepth : c.depth < c.limit)
    (hrefusal : c.ready.session.host.refusal? t args = none)
    (hmethod : t.findMethod? "__init__" = none) (hslot : t.findSlot? (·.init) = some slot)
    (hrun : ∀ s, slot.run s (.alloc t) args = (.ok (), i)) :
    ∃ c', c.AnsweredBy c' ∧
      c'.control = .give (.object c.ready.session.host.store.instances.size) ∧
      c'.session = c.ready.session.setStore (c.ready.session.host.store.newInstance i).2 := by
  have hfresh : (c.ready.allocated t args).session.host.store.instanceAt
      c.ready.session.host.store.instances.size = .alloc t := Store.instanceAt_eq (get?_allocated c.ready t args)
  obtain ⟨c', hanswered, hgive, hsession⟩ := exists_answeredBy_of_setUp hcontrol hdepth hrefusal
    (setUp_of_slot_ok hmethod hslot (by rw [hfresh]; exact hrun _)) rfl
  refine ⟨c', hanswered, hgive, ?_⟩
  rw [hsession, ← Store.setInstance_newInstance _ (.alloc t)]
  rfl

/-! ## Main result -/

/-- Every call of the type of boxes below the limit, whose texts are `Countable`, has ended after a few
steps as `expected` says: with an exception of that kind, or with a fresh box that has the first argument
in it and the counter that goes with both. Nothing else has happened but that types without an owner may
have been released first; what `checkNew` agrees to, `init` stores, in whatever store it runs. -/
theorem boxes_made_as_expected (ht : t.IsBox) (hcontrol : c.control = .call (.type t) args)
    (hdepth : c.depth < c.limit) (hcountable : ∀ v ∈ args, v.Countable) :
    (∃ c' s, c.AnsweredBy c' ∧ c.session.ReleasedTo s ∧
      (∀ kind, Sample.Box.expected args = .error kind →
        (∃ e : Exception, c'.control = .raise e ∧ e.kind = kind) ∧ c'.session = s) ∧
      ∀ x k, Sample.Box.expected args = .ok (x, k) → ∃ n : NativeInt, n.val = k ∧
        c'.control = .give (.object c.session.host.store.instances.size) ∧
        c'.session = s.setStore (s.host.store.newInstance
          { type := t, fields := [.object (some x), .int n] }).2) ∧
    ∀ s s' : Store, NewSlot.box.check s args = .ok () →
      ∃ i, InitSlot.box.run s' (.alloc t) args = (.ok (), i) := by
  have hcases (s : Store) := Sample.Box.refused_or_stored s t hcountable
  rw [← ht.alloc_eq] at hcases
  obtain ⟨hkind, hslot⟩ := ht.new
  refine ⟨?_, fun s s' hagreed => ?_⟩
  · -- The call: `checkNew` looks at the store of the step that refuses or allocates.
    rcases hcases c.ready.session.host.store with ⟨f, hexpected, hcheck⟩ | ⟨x, n, hexpected, hcheck, hrun⟩
    · obtain ⟨c', hanswered, hraise, hsession⟩ := exists_answeredBy_of_refusal hcontrol hdepth
        (refusal?_of_check hkind hslot hcheck)
      refine ⟨c', _, hanswered, c.releasedTo_ready, fun kind hfails => ?_, fun x k hmade => ?_⟩
      · cases hexpected.symm.trans hfails
        exact ⟨⟨_, hraise, rfl⟩, hsession⟩
      · cases hexpected.symm.trans hmade
    · obtain ⟨c', hanswered, hgive, hsession⟩ := exists_answeredBy_of_slot hcontrol hdepth
        (refusal?_of_check_ok hkind hslot hcheck) ht.init.1 ht.init.2 hrun
      rw [c.instances_ready] at hgive
      refine ⟨c', _, hanswered, c.releasedTo_ready, fun kind hfails => ?_, fun x k hmade => ?_⟩
      · cases hexpected.symm.trans hfails
      · cases hexpected.symm.trans hmade
        exact ⟨n, rfl, hgive, hsession⟩
  · -- What was agreed to is stored, whatever has happened to the store in between.
    rcases hcases s with ⟨f, -, hrefused⟩ | ⟨x, n, -, -, hrun⟩
    · rw [hrefused] at hagreed
      contradiction
    · exact ⟨_, hrun s'⟩

def makeBox : Config :=
  { control := .eval
      (.apply (.object .call)
        [.apply (.session (.moduleAttr "basic" "Cbox")) [], .null, .bool true])
    session := .ofSetup {} }

def makingBox : Config := makeBox.after 7

/-- For `null` and `true` there is a box with `null` in it, whose counter is one. -/
theorem boxes_made_as_expected_makingBox :
    ∃ (t : TypeObject) (c' : Config) (s : Session) (n : NativeInt), t.IsBox ∧
      makingBox.control = .call (.type t) [.null, .bool true] ∧ makingBox.AnsweredBy c' ∧
      makingBox.session.ReleasedTo s ∧ n.val = 1 ∧
      c'.control = .give (.object makingBox.session.host.store.instances.size) ∧
      c'.session = s.setStore (s.host.store.newInstance
        { type := t, fields := [.object (some .null), .int n] }).2 := by
  obtain ⟨t, hcontrol, ht⟩ : ∃ t, makingBox.control = .call (.type t) [.null, .bool true] ∧ t.IsBox :=
    ⟨_, rfl, 12, rfl⟩
  -- Neither argument is a text.
  have hcountable : ∀ v ∈ [Value.null, .bool true], v.Countable := by
    intro v hv text htext
    simp only [List.mem_cons, List.not_mem_nil, or_false] at hv
    rcases hv with rfl | rfl <;> contradiction
  obtain ⟨⟨c', s, hanswered, hreleased, -, hmade⟩, -⟩ :=
    boxes_made_as_expected ht hcontrol (by decide +kernel) hcountable
  obtain ⟨n, hn, hgive, hsession⟩ := hmade .null 1 rfl
  exact ⟨t, c', s, n, ht, hcontrol, hanswered, hreleased, hn, hgive, hsession⟩

end Config

end ObjectProtocol
