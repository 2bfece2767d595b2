import ObjectProtocol.Proofs.Failing.Results

/-!
# Failures of the sample module

What parsing lets pass are the arguments that the routine behind it asks for.  The routines of the sample
module find the fields they touch on every instance with the layout of its declaration.  So there are
three places where one of them fails in any other than an ordinary way: the constructor of a box that is
given the counter it reports, `maybeIncr`, and `forgetRaise`.
-/

namespace ObjectProtocol

/-! ## Parsing -/

namespace ArgSpec

variable {s : Store} {spec : ArgSpec} {args : List Value} {a : Args} {i : Nat}

theorem narrow_of_narrowAll {items : List (Value × Option NativeInt)} {n : Nat} {v : Value}
    {w : Option NativeInt} (h : spec.narrowAll s i args = .ok items)
    (hitem : items[n]? = some (v, w)) : spec.narrow s (i + n) v = .ok w := by
  -- The position a value is narrowed at is counted from the first argument, so `i` varies.
  induction args generalizing i items n with
  | nil =>
    cases h
    contradiction
  | cons u rest ih =>
    unfold narrowAll at h
    split at h
    · contradiction
    · rename_i m hm
      cases hrest : spec.narrowAll s (i + 1) rest with
      | error f =>
        rw [hrest] at h
        contradiction
      | ok items' =>
        rw [hrest] at h
        cases h
        cases n with
        | zero =>
          cases hitem
          exact hm
        | succ n =>
          have hlater := ih hrest hitem
          rwa [Nat.add_assoc, Nat.add_comm 1 n] at hlater

theorem of_parse (h : spec.parse s args = .ok a) :
    spec.arityOk args.length = true ∧ spec.narrowAll s 0 args = .ok a.items := by
  unfold parse at h
  split at h
  · contradiction
  · rename_i harity
    refine ⟨(checkArity_eq_ok_iff spec args.length).1 harity, ?_⟩
    cases hitems : spec.narrowAll s 0 args with
    | error f =>
      rw [hitems] at h
      contradiction
    | ok items =>
      rw [hitems] at h
      cases h
      rfl

theorem exists_item_of_parse (h : spec.parse s args = .ok a) (hi : i < spec.min) :
    ∃ v n, a.items[i]? = some (v, n) ∧ spec.narrow s i v = .ok n := by
  obtain ⟨harity, hitems⟩ := of_parse h
  have hmin : spec.min ≤ args.length := by
    unfold arityOk at harity
    rw [Bool.and_eq_true, decide_eq_true_eq] at harity
    exact harity.1
  have hlength : a.items.length = args.length := by
    rw [← values_of_parse h, Args.values, List.length_map]
  have hlt : i < a.items.length := by
    rw [hlength]
    exact Nat.lt_of_lt_of_le hi hmin
  have hitem : a.items[i]? = some (a.items[i].1, a.items[i].2) := List.getElem?_eq_getElem hlt
  have hnarrow := narrow_of_narrowAll hitems hitem
  rw [Nat.zero_add] at hnarrow
  exact ⟨_, _, hitem, hnarrow⟩

theorem exists_get_of_parse (h : spec.parse s args = .ok a) (hi : i < spec.min) :
    ∃ v, a.get i = .ok v := by
  obtain ⟨v, n, hitem, -⟩ := exists_item_of_parse h hi
  refine ⟨v, ?_⟩
  unfold Args.get Args.get?
  rw [hitem]
  rfl

/-- At a required `Param.int`, `parse` has noted the native integer of the argument. -/
theorem exists_int_of_parse (h : spec.parse s args = .ok a) (hi : i < spec.min)
    (hparam : spec.paramAt i = .int) : ∃ v n, a.get? i = some v ∧ a.int i = .ok n ∧
      s.toNative v = .ok n := by
  obtain ⟨v, w, hitem, hnarrow⟩ := exists_item_of_parse h hi
  unfold narrow at hnarrow
  rw [hparam] at hnarrow
  dsimp only at hnarrow
  -- A parameter declared an integer is converted when the value is one, and refused otherwise.
  split at hnarrow
  · cases hnative : s.toNative v with
    | error f =>
      rw [hnative] at hnarrow
      contradiction
    | ok n =>
      rw [hnative] at hnarrow
      cases hnarrow
      refine ⟨v, n, ?_, ?_, hnative⟩
      · rw [Args.get?, hitem]
        rfl
      · rw [Args.int, Args.int?, hitem]
        rfl
  · contradiction

end ArgSpec

theorem Store.eq_ofNative_of_toNative {s : Store} {v : Value} {n : NativeInt}
    (h : s.toNative v = .ok n) (hn : n.val < 0) : v = .ofNative n := by
  unfold toNative at h
  split at h
  · rename_i i hi
    split at h
    · rename_i m hm
      cases h
      have hval : n.val = i.val := HostInt.toNative?_eq_some_iff.1 hm
      cases v with
      | int j =>
        cases hi
        exact congrArg Value.int (HostInt.ext hval.symm)
      -- A boolean converts to zero or one, so it is not negative.
      | bool b =>
        cases hi
        have hcount : 0 ≤ (HostInt.ofBool b).val := by cases b <;> decide
        omega
      | _ => contradiction
    · contradiction
  · contradiction

/-! ## Fields -/

namespace Instance

variable {i : Instance} {offset : Nat} {kind : FieldKind}

theorem exists_readInt (h : i.kinds[offset]? = some .int) : ∃ n, i.readInt offset = .ok n := by
  obtain ⟨field, hfield, hkind⟩ := exists_field h
  unfold readInt read
  rw [hfield]
  cases field with
  | int n => exact ⟨n, rfl⟩
  | object v => contradiction

theorem exists_readObject (h : i.kinds[offset]? = some .object) :
    ∃ v, i.readObject offset = .ok v := by
  obtain ⟨field, hfield, hkind⟩ := exists_field h
  unfold readObject read
  rw [hfield]
  cases field with
  | object v => exact ⟨v, rfl⟩
  | int n => contradiction

theorem exists_write {content : Field} (h : i.kinds[offset]? = some content.kind) :
    ∃ j, i.write offset content = .ok j := ⟨_, write_eq offset h⟩

end Instance

/-! ## Functions -/

namespace Sample

theorem ordinary_checkedSum (total : NativeInt) (ns : List NativeInt) :
    FailsOnly Failure.Ordinary (checkedSum total ns) := by
  induction ns generalizing total with
  | nil => exact .ok total
  | cons n rest ih =>
    unfold checkedSum
    split
    · exact ih _
    · exact .error (Failure.ordinary_because (by decide) _)

theorem ordinary_extractAll (s : Store) (vs : List Value) :
    FailsOnly Failure.Ordinary (extractAll s vs) := by
  induction vs with
  | nil => exact .ok []
  | cons v rest ih =>
    unfold extractAll
    split
    · rename_i f hf
      exact .error (s.ordinary_toNative v f hf)
    · exact .map ih

theorem ordinary_idCheck (a : Args) : FailsOnly Failure.Ordinary (idCheck a) := by
  unfold idCheck
  split
  · rename_i hsize
    -- The one argument is the first.
    obtain ⟨item, hitem⟩ := List.length_eq_one_iff.1 hsize
    refine .of_exists ⟨item.1, ?_⟩
    unfold Args.get Args.get?
    rw [hitem]
    rfl
  · exact .error (Failure.ordinary_because (by decide) _)

end Sample

/-- The functions of the sample module fail in `Ordinary` ways, but for `forget_raise`. -/
theorem SampleFunction.ordinary_run {f : SampleFunction} (hf : f ≠ .forgetRaise) {h : Host}
    (hreleased : h.store.released = []) {a : Args} (hfirst : f = .typ → ∃ v, a.get 0 = .ok v) :
    FailsOnly NativeError.Ordinary (f.run h a).1 := by
  have hraise : FailsOnly NativeError.Ordinary
      (.error (.failure Sample.raiseExc) : Except NativeError Answer) :=
    .error (Failure.ordinary_because (by decide) _)
  have hcheck : FailsOnly NativeError.Ordinary ((failing (Sample.idCheck a)).map Answer.given) :=
    .map (.mapError (Sample.ordinary_idCheck a))
  cases f with
  -- The one function that fails without an exception; it is excluded.
  | forgetRaise => contradiction
  -- The type of a value exists as long as none has been released.
  | typ =>
    obtain ⟨v, hv⟩ := hfirst rfl
    obtain ⟨t, ht⟩ := h.runtime.exists_typeOf hreleased v
    refine .of_exists ⟨.given (.type t), ?_⟩
    unfold SampleFunction.run
    dsimp only
    rw [hv]
    show (raising (h.runtime.typeOf h.store v) >>= _) = _
    rw [ht]
    rfl
  | raiseExc => exact hraise
  | idCheck => exact hcheck
  | randomFail =>
    unfold SampleFunction.run
    dsimp only
    split
    · exact hcheck
    · exact hraise
  | returnTrue | returnFalse | returnBool | returnNone => exact .ok _
  | vsum => exact .map (.mapError (Sample.ordinary_checkedSum _ _))
  | vsum2 =>
    exact .map (.mapError (.bind (Sample.ordinary_extractAll _ _) fun ns _ =>
      Sample.ordinary_checkedSum _ ns))

end ObjectProtocol
