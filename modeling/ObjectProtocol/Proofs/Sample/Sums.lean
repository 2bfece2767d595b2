import Mathlib.Algebra.Ring.Int.Defs
import ObjectProtocol.Proofs.Arguments.Parsing
import ObjectProtocol.Proofs.Calls.Answering
import ObjectProtocol.Proofs.Sample.Constructors
import ObjectProtocol.Proofs.Subclasses.Likeness

/-!
# Sums of native integers

Two functions of the sample module add native integers up, from left to right, and refuse as soon as what
they have so far leaves the native range.  So it is the sums of the first so many integers that decide
whether there is an answer, and not the sum alone.  One function narrows its arguments while it parses
them, the other converts them afterwards; both stop at the same argument and fail in the same kind of way.
-/

namespace ObjectProtocol

/-! ## Adding up -/

namespace NativeInt

def total (ns : List NativeInt) : Int := (ns.map (·.val)).sum

variable {ns : List NativeInt}

@[simp] theorem total_nil : total [] = 0 := rfl

@[simp] theorem total_cons (n : NativeInt) (ns : List NativeInt) :
    total (n :: ns) = n.val + total ns := List.sum_cons

theorem total_append (ns ms : List NativeInt) : total (ns ++ ms) = total ns + total ms := by
  induction ns with
  | nil => simp
  | cons n ns ih => simp [ih, Int.add_assoc]

theorem total_nonneg (h : ∀ n ∈ ns, 0 ≤ n.val) : 0 ≤ total ns := by
  induction ns with
  | nil => exact Int.le_refl 0
  | cons n ns ih =>
    obtain ⟨hn, hns⟩ := List.forall_mem_cons.1 h
    have hrest := ih hns
    rw [total_cons]
    omega

theorem total_nonpos (h : ∀ n ∈ ns, n.val ≤ 0) : total ns ≤ 0 := by
  induction ns with
  | nil => exact Int.le_refl 0
  | cons n ns ih =>
    obtain ⟨hn, hns⟩ := List.forall_mem_cons.1 h
    have hrest := ih hns
    rw [total_cons]
    omega

theorem total_take_add_drop (ns : List NativeInt) (k : Nat) :
    total (ns.take k) + total (ns.drop k) = total ns := by
  rw [← total_append, List.take_append_drop]

/-- If no two integers of different signs meet, or there are two of them at most, all partial sums fit iff
the `total` does. -/
theorem inRange_take_iff (h : ns.length ≤ 2 ∨ (∀ n ∈ ns, 0 ≤ n.val) ∨ ∀ n ∈ ns, n.val ≤ 0) :
    (∀ k, InRange (total (ns.take k))) ↔ InRange (total ns) := by
  refine ⟨fun hall => ?_, fun hfits k => ?_⟩
  · rw [← List.take_length (l := ns)]
    exact hall ns.length
  have hsplit := total_take_add_drop ns k
  rcases h with hlength | hnonneg | hnonpos
  · rcases Nat.lt_or_ge k ns.length with hk | hk
    · cases ns with
      | nil => contradiction
      | cons n rest =>
        -- What is less than the whole is one integer, or nothing.
        obtain rfl | rfl : k = 0 ∨ k = 1 := by omega
        · exact inRange_val 0
        · simpa using n.inRange_val
    · rwa [List.take_of_length_le hk]
  · have hfirst := total_nonneg fun n hn => hnonneg n (List.mem_of_mem_take (i := k) hn)
    have hrest := total_nonneg fun n hn => hnonneg n (List.mem_of_mem_drop (i := k) hn)
    have hupper := hfits.2
    exact ⟨by omega, by omega⟩
  · have hfirst := total_nonpos fun n hn => hnonpos n (List.mem_of_mem_take (i := k) hn)
    have hrest := total_nonpos fun n hn => hnonpos n (List.mem_of_mem_drop (i := k) hn)
    have hlower := hfits.1
    exact ⟨by omega, by omega⟩

end NativeInt

open NativeInt

namespace Sample

def sumTooLarge : Failure := .because .outOfRange "sum does not fit in a native integer"

/-- `checkedSum` answers if every partial sum fits, and is refused otherwise. -/
theorem checkedSum_cases (t : NativeInt) (ns : List NativeInt) :
    (∃ m, checkedSum t ns = .ok m ∧ m.val = t.val + total ns ∧
      ∀ k, InRange (t.val + total (ns.take k))) ∨
    (checkedSum t ns = .error sumTooLarge ∧ ¬ ∀ k, InRange (t.val + total (ns.take k))) := by
  induction ns generalizing t with
  | nil =>
    refine Or.inl ⟨t, rfl, by simp, fun k => ?_⟩
    rw [List.take_nil, total_nil, Int.add_zero]
    exact t.inRange_val
  | cons n ns ih =>
    unfold checkedSum
    cases hadd : t.add? n with
    | none =>
      refine Or.inr ⟨rfl, fun hall => ofInt?_eq_none_iff.1 hadd ?_⟩
      simpa using hall 1
    | some u =>
      have hu : u.val = t.val + n.val := ofInt?_eq_some_iff.1 hadd
      -- After the first integer, the rest goes on from what was had so far.
      have hall : (∀ k, InRange (t.val + total ((n :: ns).take k))) ↔
          ∀ k, InRange (u.val + total (ns.take k)) := by
        rw [hu]
        constructor
        · intro h k
          have hnext := h (k + 1)
          rwa [List.take_succ_cons, total_cons, ← Int.add_assoc] at hnext
        · intro h k
          cases k with
          | zero => simpa using t.inRange_val
          | succ k =>
            rw [List.take_succ_cons, total_cons, ← Int.add_assoc]
            exact h k
      rw [hall]
      dsimp only
      rcases ih u with ⟨m, hm, hval, hfits⟩ | hrefused
      · refine Or.inl ⟨m, hm, ?_, hfits⟩
        rw [hval, hu, total_cons, Int.add_assoc]
      · exact Or.inr hrefused

/-! ## Arguments -/

/-- `vsum`: the arguments are narrowed while they are parsed. -/
def narrowedSum (s : Store) (args : List Value) : Except Failure NativeInt :=
  (vsumSpec.parse s args).bind fun a => checkedSum 0 (a.items.filterMap (·.2))

/-- `vsum2`: the arguments are converted after they have been parsed. -/
def convertedSum (s : Store) (args : List Value) : Except Failure NativeInt :=
  ((ArgSpec.unpack 1 3).parse s args).bind fun a => (extractAll s a.values).bind (checkedSum 0)

/-- `narrow` at a `Param.int` is `toNative`, but for the message about what is no integer. -/
theorem narrow_cases_of_int {spec : ArgSpec} (s s' : Store) {i : Nat} (h : spec.paramAt i = .int)
    (v : Value) :
    (∃ n, spec.narrow s i v = .ok (some n) ∧ s'.toNative v = .ok n) ∨
      ∃ f f', spec.narrow s i v = .error f ∧ s'.toNative v = .error f' ∧ f.kind = f'.kind := by
  unfold ArgSpec.narrow
  dsimp only
  rw [h]
  dsimp only
  by_cases hv : v.isInt = true
  · rw [if_pos hv]
    rcases (s.agree_toNative s' v).cases_eq with ⟨n, hn, hn'⟩ | ⟨f, f', hf, hf', hkind⟩
    · exact Or.inl ⟨n, by rw [hn]; rfl, hn'⟩
    · exact Or.inr ⟨f, f', by rw [hf]; rfl, hf', hkind⟩
  · -- Both reject the value for its kind, each in its own words.
    have hnone : v.asInt? = none := Option.not_isSome_iff_eq_none.1 hv
    rw [if_neg hv]
    unfold Store.toNative
    rw [hnone]
    exact Or.inr ⟨_, _, rfl, rfl, rfl⟩

/-- `narrowAll` at places of `Param.int` is `extractAll`, but for messages. -/
theorem agree_narrowAll_extractAll {spec : ArgSpec} (s s' : Store) {i : Nat} {args : List Value}
    (h : ∀ j < args.length, spec.paramAt (i + j) = .int) :
    Agree Failure.kind Eq ((spec.narrowAll s i args).map fun items => items.filterMap (·.2))
      (extractAll s' args) := by
  induction args generalizing i with
  | nil => exact .ok rfl
  | cons v rest ih =>
    have hrest := ih (i := i + 1) fun j hj => by
      rw [Nat.add_assoc, Nat.add_comm 1 j]
      exact h (j + 1) (Nat.succ_lt_succ hj)
    unfold ArgSpec.narrowAll extractAll
    rcases narrow_cases_of_int s s' (h 0 (Nat.zero_lt_succ _)) v with
      ⟨n, hn, hn'⟩ | ⟨f, f', hf, hf', hkind⟩
    · -- The first argument goes before what the others come to.
      have hmapped := hrest.map_eq (n :: ·)
      rw [show spec.narrow s i v = _ from hn, hn']
      cases hitems : spec.narrowAll s (i + 1) rest <;> rw [hitems] at hmapped <;> exact hmapped
    · rw [show spec.narrow s i v = _ from hf, hf']
      exact .error hkind

variable {s s' : Store} {args : List Value}

theorem narrowedSum_eq (s : Store) (hne : args ≠ []) (hlength : args.length ≤ 4) :
    narrowedSum s args =
      ((vsumSpec.narrowAll s 0 args).map fun items => items.filterMap (·.2)).bind (checkedSum 0) := by
  have htakes : vsumSpec.Takes args.length :=
    ⟨List.length_pos_iff.2 hne, fun max hmax => by cases hmax; exact hlength⟩
  rcases vsumSpec.parse_cases s args with ⟨f, -, -, hnot⟩ | ⟨hparse, -⟩
  · exact absurd htakes hnot
  · unfold narrowedSum
    rw [hparse]
    cases vsumSpec.narrowAll s 0 args <;> rfl

theorem agree_narrowed (s s' : Store) (hlength : args.length ≤ 4) :
    Agree Failure.kind Eq ((vsumSpec.narrowAll s 0 args).map fun items => items.filterMap (·.2))
      (extractAll s' args) := by
  refine agree_narrowAll_extractAll s s' fun j hj => ?_
  have hplaces : ∀ j < 4, vsumSpec.paramAt (0 + j) = .int := by decide
  exact hplaces j (Nat.lt_of_lt_of_le hj hlength)

theorem agree_narrowedSum (s s' : Store) (hne : args ≠ []) (hlength : args.length ≤ 4) :
    Agree Failure.kind Eq (narrowedSum s args) ((extractAll s' args).bind (checkedSum 0)) := by
  rw [narrowedSum_eq s hne hlength]
  exact (agree_narrowed s s' hlength).bind_eq fun ns => .refl _ _

theorem convertedSum_eq (s : Store) (hne : args ≠ []) (hlength : args.length ≤ 3) :
    convertedSum s args = (extractAll s args).bind (checkedSum 0) := by
  have htakes : (ArgSpec.unpack 1 3).Takes args.length :=
    ⟨List.length_pos_iff.2 hne, fun max hmax => by cases hmax; exact hlength⟩
  have hfits : (ArgSpec.unpack 1 3).Fits args := by
    intro i p v hp _
    rw [List.eq_of_mem_replicate (List.mem_of_getElem? hp)]
    trivial
  obtain ⟨a, ha⟩ := (ArgSpec.exists_parse_iff (s := s)).2 ⟨htakes, hfits⟩
  unfold convertedSum
  rw [ha]
  dsimp only [Except.bind]
  rw [ArgSpec.values_of_parse ha]

/-- Up to three arguments, `narrowedSum` and `convertedSum` agree; with none, both refuse. -/
theorem agree_sums (s s' : Store) (hlength : args.length ≤ 3) :
    Agree Failure.kind Eq (narrowedSum s args) (convertedSum s' args) := by
  cases args with
  | nil => exact .error rfl
  | cons v rest =>
    rw [convertedSum_eq s' (List.cons_ne_nil _ _) hlength]
    exact agree_narrowedSum s s' (List.cons_ne_nil _ _) (Nat.le_succ_of_le hlength)

variable {ns : List NativeInt}

theorem extractAll_of_natives (s : Store) (h : args.map Value.native? = ns.map some) :
    extractAll s args = .ok ns := by
  induction args generalizing ns with
  | nil =>
    cases ns with
    | nil => rfl
    | cons => contradiction
  | cons v rest ih =>
    cases ns with
    | nil => contradiction
    | cons n ns =>
      obtain ⟨hv, hrest⟩ := List.cons.inj h
      unfold extractAll
      rw [Store.toNative_of_native? hv, ih hrest]
      rfl

theorem narrowedSum_of_natives (s : Store) (hne : args ≠ []) (hlength : args.length ≤ 4)
    (h : args.map Value.native? = ns.map some) : narrowedSum s args = checkedSum 0 ns := by
  rw [narrowedSum_eq s hne hlength]
  have hconverted := extractAll_of_natives s h
  rcases (agree_narrowed s s hlength).cases_eq with ⟨ms, hnarrowed, hms⟩ | ⟨_, f, -, hf, -⟩
  · obtain rfl := Except.ok.inj (hms.symm.trans hconverted)
    rw [hnarrowed]
    rfl
  · rw [hconverted] at hf
    contradiction

theorem convertedSum_of_natives (s : Store) (hne : args ≠ []) (hlength : args.length ≤ 3)
    (h : args.map Value.native? = ns.map some) : convertedSum s args = checkedSum 0 ns := by
  rw [convertedSum_eq s hne hlength, extractAll_of_natives s h]
  rfl

end Sample

/-! ## Functions -/

def Entry.ofSum : Except Failure NativeInt → Entry
  | .ok n => .give (.ofNative n)
  | .error f => .raise f.toException

theorem Entry.isOutcome_ofSum (sum : Except Failure NativeInt) :
    (Entry.ofSum sum).control.isOutcome = true := by
  cases sum <;> rfl

/-- The exact sum is given if the condition holds, and `sumTooLarge` raised otherwise. -/
def Control.SumsIf (k : Control) (ns : List NativeInt) (condition : Prop) : Prop :=
  (condition → ∃ n : NativeInt, k = .give (.ofNative n) ∧ n.val = total ns) ∧
    (¬ condition → k = .raise ⟨.overflowError, "sum does not fit in a native integer"⟩)

theorem Control.sumsIf_checkedSum (ns : List NativeInt) :
    (Entry.ofSum (Sample.checkedSum 0 ns)).control.SumsIf ns (∀ k, InRange (total (ns.take k))) := by
  have hzero (i : Int) : (0 : NativeInt).val + i = i := Int.zero_add i
  have hcases := Sample.checkedSum_cases 0 ns
  simp only [hzero] at hcases
  rcases hcases with ⟨n, hn, hval, hall⟩ | ⟨hrefused, hnot⟩
  · rw [hn]
    exact ⟨fun _ => ⟨n, rfl, hval⟩, fun hnot => absurd hall hnot⟩
  · rw [hrefused]
    exact ⟨fun hall => absurd hall hnot, fun _ => rfl⟩

namespace Function

/-- The function `vsum`, as the sample module exports it. -/
def IsVsum (f : Function) : Prop := f.body = .native Sample.vsumSpec (.sample .vsum)

/-- The function `vsum2`, as the sample module exports it. -/
def IsVsum2 (f : Function) : Prop := f.body = .native (.unpack 1 3) (.sample .vsum2)

/-- The function answers with the `sum` of its arguments, or fails as the sum does, and leaves the host as
it is. -/
def AnswersSum (f : Function) (sum : Store → List Value → Except Failure NativeInt) : Prop :=
  ∀ (h : Host) (args : List Value), h.runFunction f args = (.ofSum (sum h.store args), h)

/-- `vsum` and `vsum2`, with the greatest number of arguments that they take. -/
inductive SumsUpTo : Function → Nat → Prop
  | narrowing {f : Function} : f.IsVsum → SumsUpTo f 4
  | converting {f : Function} : f.IsVsum2 → SumsUpTo f 3

variable {f : Function}

theorem IsVsum.answersSum (hf : f.IsVsum) : f.AnswersSum Sample.narrowedSum := by
  intro h args
  unfold Host.runFunction Sample.narrowedSum
  rw [hf]
  dsimp only
  cases Sample.vsumSpec.parse h.store args with
  | error failure => rfl
  | ok a =>
    unfold FunctionRoutine.run SampleFunction.run
    dsimp only [Except.bind]
    cases Sample.checkedSum 0 (a.items.filterMap (·.2)) <;> rfl

theorem IsVsum2.answersSum (hf : f.IsVsum2) : f.AnswersSum Sample.convertedSum := by
  intro h args
  unfold Host.runFunction Sample.convertedSum
  rw [hf]
  dsimp only
  cases (ArgSpec.unpack 1 3).parse h.store args with
  | error failure => rfl
  | ok a =>
    unfold FunctionRoutine.run SampleFunction.run
    dsimp only
    rw [show (Except.ok a : Except Failure Args).bind
        (fun a => (Sample.extractAll h.store a.values).bind (Sample.checkedSum 0)) =
      (Sample.extractAll h.store a.values).bind (Sample.checkedSum 0) from rfl]
    cases (Sample.extractAll h.store a.values).bind (Sample.checkedSum 0) <;> rfl

theorem SumsUpTo.exists_answersSum {most : Nat} (hf : f.SumsUpTo most) :
    ∃ sum, f.AnswersSum sum ∧ ∀ (s : Store) (args : List Value) (ns : List NativeInt), args ≠ [] →
      args.length ≤ most → args.map Value.native? = ns.map some → sum s args = Sample.checkedSum 0 ns := by
  cases hf with
  | narrowing hf =>
    exact ⟨_, hf.answersSum, fun s args ns => Sample.narrowedSum_of_natives s⟩
  | converting hf =>
    exact ⟨_, hf.answersSum, fun s args ns => Sample.convertedSum_of_natives s⟩

end Function

namespace Config

variable {c c' : Config} {f g : Function} {args : List Value}

theorem exists_answeredBy_of_answersSum {sum : Store → List Value → Except Failure NativeInt}
    (hf : f.AnswersSum sum) (hcontrol : c.control = .call (.function f) args)
    (hdepth : c.depth < c.limit) :
    ∃ c', c.AnsweredBy c' ∧ c'.session = c.ready.session ∧
      c'.control = (Entry.ofSum (sum c.ready.session.host.store args)).control := by
  obtain ⟨c', hanswered, hout, hsession⟩ :=
    exists_answeredBy_of_enter (f := fun h => h.runFunction f args) hcontrol hdepth (fun _ => rfl)
      (hf c.ready.counted.host args) (Entry.isOutcome_ofSum _)
  exact ⟨c', hanswered, hsession, hout⟩

/-- A call of `vsum` or `vsum2` on native integers gives their exact sum iff every partial sum from the
left is in range, and raises `sumTooLarge` otherwise. Where no integers of different signs meet, or there
are two of them at most, that is to say that the sum itself fits. -/
theorem sums_while_fitting {most : Nat} {ns : List NativeInt} (hf : f.SumsUpTo most)
    (hcontrol : c.control = .call (.function f) args) (hdepth : c.depth < c.limit) (hne : args ≠ [])
    (hlength : args.length ≤ most) (hargs : args.map Value.native? = ns.map some) :
    ∃ c', c.AnsweredBy c' ∧ c'.session = c.ready.session ∧
      c'.control.SumsIf ns (∀ k, InRange (total (ns.take k))) ∧
      (ns.length ≤ 2 ∨ (∀ n ∈ ns, 0 ≤ n.val) ∨ (∀ n ∈ ns, n.val ≤ 0) →
        c'.control.SumsIf ns (InRange (total ns))) := by
  obtain ⟨sum, hsum, hchecked⟩ := hf.exists_answersSum
  obtain ⟨c', hanswered, hsession, hout⟩ := exists_answeredBy_of_answersSum hsum hcontrol hdepth
  rw [hchecked _ _ _ hne hlength hargs] at hout
  have hall : c'.control.SumsIf ns (∀ k, InRange (total (ns.take k))) :=
    hout ▸ Control.sumsIf_checkedSum ns
  refine ⟨c', hanswered, hsession, hall, fun hsigns => ?_⟩
  rwa [inRange_take_iff hsigns] at hall

/-- Evaluates a call of the function with the greatest native integer, one and minus one. -/
def beyondAndBack (name : String) : Config :=
  { control := .eval
      (.apply (.object .call)
        [.apply (.session (.moduleAttr "basic" name)) [], .int largest.toHost, .int 1,
          .int minusOne.toHost])
    session := .ofSetup {} }

def summing (name : String) : Config := (beyondAndBack name).after 9

theorem exists_summing_vsum :
    ∃ f : Function, (summing "vsum").control = .call (.function f)
      [.int largest.toHost, .int 1, .int minusOne.toHost] ∧ f.IsVsum ∧
      (summing "vsum").depth < (summing "vsum").limit :=
  ⟨_, rfl, rfl, by decide +kernel⟩

/-- The `total` fits, and `vsum` refuses it for what it had before minus one was added. -/
theorem sums_while_fitting_beyondAndBack :
    InRange (total [largest, 1, minusOne]) ∧
      ∃ c', (summing "vsum").AnsweredBy c' ∧
        c'.control = .raise ⟨.overflowError, "sum does not fit in a native integer"⟩ := by
  obtain ⟨f, hcontrol, hf, hdepth⟩ := exists_summing_vsum
  have hargs : [Value.int largest.toHost, .int 1, .int minusOne.toHost].map Value.native? =
      [largest, 1, minusOne].map some := rfl
  obtain ⟨c', hanswered, -, ⟨-, hrefused⟩, -⟩ :=
    sums_while_fitting (.narrowing hf) hcontrol hdepth (List.cons_ne_nil _ _) (by decide) hargs
  exact ⟨by decide, c', hanswered, hrefused fun hall => absurd (hall 2) (by decide)⟩

/-- On up to three arguments of any kinds, calls of `vsum` and `vsum2` give the same integer or raise
exceptions of the same kind, at the depth limit too. -/
theorem sums_agree (hf : f.IsVsum) (hg : g.IsVsum2) (hcontrol : c.control = .call (.function f) args)
    (hcontrol' : c'.control = .call (.function g) args) (hlength : args.length ≤ 3)
    (hdepth : c.depth < c.limit ↔ c'.depth < c'.limit) :
    ∃ d d', c.AnsweredBy d ∧ c'.AnsweredBy d' ∧
      ((∃ n : NativeInt, d.control = .give (.ofNative n) ∧ d'.control = .give (.ofNative n)) ∨
        ∃ e e' : Exception, d.control = .raise e ∧ d'.control = .raise e' ∧ e.kind = e'.kind) := by
  by_cases hlt : c.depth < c.limit
  · obtain ⟨d, hanswered, -, hout⟩ := exists_answeredBy_of_answersSum hf.answersSum hcontrol hlt
    obtain ⟨d', hanswered', -, hout'⟩ :=
      exists_answeredBy_of_answersSum hg.answersSum hcontrol' (hdepth.1 hlt)
    refine ⟨d, d', hanswered, hanswered', ?_⟩
    rw [hout, hout']
    rcases (Sample.agree_sums c.ready.session.host.store c'.ready.session.host.store
      hlength).cases_eq with ⟨n, hn, hn'⟩ | ⟨failure, failure', hfails, hfails', hkind⟩
    · rw [hn, hn']
      exact Or.inl ⟨n, rfl, rfl⟩
    · rw [hfails, hfails']
      exact Or.inr ⟨_, _, rfl, rfl, hkind⟩
  · -- At the limit neither body runs.
    obtain ⟨d, hanswered, hraise⟩ := exists_answeredBy_of_limit_le hcontrol (Nat.le_of_not_lt hlt)
    obtain ⟨d', hanswered', hraise'⟩ :=
      exists_answeredBy_of_limit_le hcontrol' (Nat.le_of_not_lt (mt hdepth.2 hlt))
    exact ⟨d, d', hanswered, hanswered', Or.inr ⟨_, _, hraise, hraise', rfl⟩⟩

theorem sums_agree_beyondAndBack :
    ∃ d d', (summing "vsum").AnsweredBy d ∧ (summing "vsum2").AnsweredBy d' ∧
      ((∃ n : NativeInt, d.control = .give (.ofNative n) ∧ d'.control = .give (.ofNative n)) ∨
        ∃ e e' : Exception, d.control = .raise e ∧ d'.control = .raise e' ∧ e.kind = e'.kind) := by
  obtain ⟨f, hcontrol, hf, hdepth⟩ := exists_summing_vsum
  obtain ⟨g, hcontrol', hg⟩ : ∃ g, (summing "vsum2").control = .call (.function g)
      [.int largest.toHost, .int 1, .int minusOne.toHost] ∧ g.IsVsum2 := ⟨_, rfl, rfl⟩
  have hdepth' : (summing "vsum2").depth < (summing "vsum2").limit := by decide +kernel
  exact sums_agree hf hg hcontrol hcontrol' (by decide) ⟨fun _ => hdepth', fun _ => hdepth⟩

end Config

end ObjectProtocol
