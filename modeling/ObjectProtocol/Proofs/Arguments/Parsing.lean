import ObjectProtocol.Arguments

/-!
# What a specification accepts

A specification that was built step by step accepts as many arguments as lie within its bounds, if each
one at a declared place is what the place expects; the arguments come out as they went in, with a native
integer beside those at integer places and nowhere else.  What it does not accept is blamed on the number
of arguments before anything else, and then on the first place from the left that is at fault.
-/

namespace ObjectProtocol

/-- What may stand at a parameter: anything for `any`, a boolean or an integer of the native range for
`int`, a text for `str`. -/
def Param.Accepts : Param → Value → Prop
  | .any, _ => True
  | .int, v => (∃ b, v = .bool b) ∨
    ∃ i : HostInt, v = .int i ∧ -0x8000000000000000 ≤ i.val ∧ i.val < 0x8000000000000000
  | .str, v => ∃ id text, v = .str id text

theorem Value.asText?_isSome_iff (v : Value) :
    v.asText?.isSome = true ↔ ∃ id text, v = .str id text := by
  cases v <;> simp [asText?]

/-- `Param.int` accepts exactly what `Store.toNative` converts. -/
theorem Param.accepts_int_iff {v : Value} (s : Store) :
    Param.int.Accepts v ↔ ∃ n, s.toNative v = .ok n := by
  cases v with
  | bool b =>
    refine ⟨fun _ => ?_, fun _ => Or.inl ⟨b, rfl⟩⟩
    cases b
    · exact ⟨0, rfl⟩
    · exact ⟨1, rfl⟩
  | int i =>
    unfold Store.toNative
    dsimp only [Value.asInt?]
    constructor
    · rintro (⟨b, hb⟩ | ⟨j, hj, hlower, hupper⟩)
      · contradiction
      · cases hj
        have hnative : i.toNative? = some ⟨i.val, hlower, hupper⟩ :=
          HostInt.toNative?_eq_some_iff.2 rfl
        exact ⟨_, by rw [hnative]⟩
    · rintro ⟨n, hn⟩
      cases hnative : i.toNative? with
      | none =>
        rw [hnative] at hn
        contradiction
      | some m =>
        have hval := HostInt.toNative?_eq_some_iff.1 hnative
        exact Or.inr ⟨i, rfl, hval ▸ m.lower, hval ▸ m.upper⟩
  -- Nothing else is an integer, neither for `Accepts` nor for `toNative`.
  | null | float | str | tuple | list | dict | object | type | function | method | iterator =>
    constructor
    · rintro (⟨b, hb⟩ | ⟨i, hi, -⟩) <;> contradiction
    · rintro ⟨n, hn⟩
      contradiction

theorem Store.val_of_toNative {s : Store} {v : Value} {n : NativeInt} (h : s.toNative v = .ok n) :
    v.asInt?.map (·.val) = some n.val := by
  unfold toNative at h
  cases hint : v.asInt? with
  | none =>
    rw [hint] at h
    contradiction
  | some i =>
    rw [hint] at h
    dsimp only at h
    cases hnative : i.toNative? with
    | none =>
      rw [hnative] at h
      contradiction
    | some m =>
      rw [hnative] at h
      cases h
      rw [Option.map_some, HostInt.toNative?_eq_some_iff.1 hnative]

theorem Store.code_of_toNative {s : Store} {v : Value} {f : Failure} (hv : v.isInt = true)
    (h : s.toNative v = .error f) : f.code = .outOfRange := by
  unfold toNative at h
  obtain ⟨i, hi⟩ := Option.isSome_iff_exists.1 hv
  rw [hi] at h
  dsimp only at h
  split at h
  · contradiction
  · cases h
    rfl

namespace ArgSpec

/-! ## Specifications that can be built -/

inductive Leading : ArgSpec → Prop
  | empty : Leading .empty
  | required {spec : ArgSpec} (p : Param) : Leading spec → Leading (spec.required p)
  | named {spec : ArgSpec} (name : String) : Leading spec → Leading (spec.named name)

/-- The specifications that the builders make: every `optional` parameter comes after the `required` ones.
-/
inductive Declared : ArgSpec → Prop
  | leading {spec : ArgSpec} : Leading spec → Declared spec
  | varargs : Declared .varargs
  | unpack (least most : Nat) : Declared (.unpack least most)
  | optional {spec : ArgSpec} (p : Param) : Declared spec → Declared (spec.optional p)
  | named {spec : ArgSpec} (name : String) : Declared spec → Declared (spec.named name)

variable {spec : ArgSpec} {s : Store}

theorem Leading.bounds (h : spec.Leading) :
    spec.min = spec.params.length ∧ spec.max = some spec.params.length := by
  induction h with
  | empty => exact ⟨rfl, rfl⟩
  | required p _ ih => simp [ArgSpec.required, ih.1]
  | named name _ ih => exact ih

theorem Declared.bounds (h : spec.Declared) :
    spec.min ≤ spec.params.length ∧ ∀ max, spec.max = some max → max = spec.params.length := by
  induction h with
  | leading h =>
    obtain ⟨hmin, hmax⟩ := h.bounds
    exact ⟨Nat.le_of_eq hmin, fun max heq => (Option.some.inj (hmax.symm.trans heq)).symm⟩
  | varargs => exact ⟨Nat.zero_le _, fun max heq => by contradiction⟩
  | unpack least most =>
    have hlength : (ArgSpec.unpack least most).params.length = most := List.length_replicate
    rw [hlength]
    exact ⟨Nat.min_le_right least most, fun max heq => (Option.some.inj heq).symm⟩
  | optional p _ ih =>
    refine ⟨?_, fun max heq => ?_⟩
    · simp only [ArgSpec.optional, List.length_append, List.length_singleton]
      exact Nat.le_succ_of_le ih.1
    · simpa [ArgSpec.optional] using heq.symm
  | named name _ ih => exact ih

/-- `ArgSpec.arityOk` as a proposition. -/
def Takes (spec : ArgSpec) (given : Nat) : Prop :=
  spec.min ≤ given ∧ ∀ max, spec.max = some max → given ≤ max

def Fits (spec : ArgSpec) (args : List Value) : Prop :=
  ∀ (i : Nat) (p : Param) (v : Value),
    spec.params[i]? = some p → args[i]? = some v → p.Accepts v

theorem arityOk_iff (given : Nat) : spec.arityOk given = true ↔ spec.Takes given := by
  unfold arityOk Takes
  cases spec.max <;> simp

theorem accepts_paramAt_iff {i : Nat} {v : Value} :
    (spec.paramAt i).Accepts v ↔ ∀ p, spec.params[i]? = some p → p.Accepts v := by
  unfold paramAt
  rw [List.getD_eq_getElem?_getD]
  cases spec.params[i]? with
  | none => exact ⟨fun _ p hp => by contradiction, fun _ => trivial⟩
  | some p => simp

theorem narrow_of_accepts {i : Nat} {v : Value} (h : (spec.paramAt i).Accepts v) :
    ∃ o, spec.narrow s i v = .ok o ∧
      ∀ n, o = some n ↔ spec.paramAt i = .int ∧ v.asInt?.map (·.val) = some n.val := by
  unfold narrow
  cases hp : spec.paramAt i with
  | any => exact ⟨none, rfl, fun n => by simp⟩
  | str =>
    rw [hp] at h
    refine ⟨none, if_pos (v.asText?_isSome_iff.2 h), fun n => by simp⟩
  | int =>
    rw [hp] at h
    obtain ⟨n, hn⟩ := (Param.accepts_int_iff s).1 h
    have hval := Store.val_of_toNative hn
    have hint : v.isInt = true := by
      unfold Value.isInt
      cases hnone : v.asInt? with
      | none =>
        rw [hnone] at hval
        contradiction
      | some i => rfl
    refine ⟨some n, ?_, fun m => ?_⟩
    · dsimp only
      rw [if_pos hint, hn]
      rfl
    · rw [hval, Option.some.injEq, Option.some.injEq, NativeInt.ext_iff]
      simp

/-- `narrow` refuses an integer at a `Param.int` as `outOfRange`, and everything else as `typeMismatch`.
-/
theorem narrow_of_not_accepts {i : Nat} {v : Value} (h : ¬ (spec.paramAt i).Accepts v) :
    ∃ f, spec.narrow s i v = .error f ∧
      f.code = if spec.paramAt i = .int ∧ v.isInt = true then .outOfRange else .typeMismatch := by
  unfold narrow
  cases hp : spec.paramAt i with
  | any =>
    rw [hp] at h
    exact absurd trivial h
  | str =>
    rw [hp] at h
    exact ⟨_, if_neg fun htext => h (v.asText?_isSome_iff.1 htext), rfl⟩
  | int =>
    rw [hp] at h
    by_cases hint : v.isInt = true
    · cases hn : s.toNative v with
      | ok n => exact absurd ((Param.accepts_int_iff s).2 ⟨n, hn⟩) h
      | error f =>
        refine ⟨f, ?_, by simp [hint, Store.code_of_toNative hint hn]⟩
        dsimp only
        rw [if_pos hint]
        rfl
    · exact ⟨_, if_neg hint, by rw [if_neg fun hboth => hint hboth.2]; rfl⟩

/-! ## All places -/

theorem accepts_of_narrowAll {i : Nat} {args : List Value} {items : List (Value × Option NativeInt)}
    (h : spec.narrowAll s i args = .ok items) :
    (∀ j v, args[j]? = some v → (spec.paramAt (i + j)).Accepts v) ∧
    ∀ j n, items[j]?.bind (·.2) = some n ↔
      spec.paramAt (i + j) = .int ∧ ∃ v, args[j]? = some v ∧ v.asInt?.map (·.val) = some n.val := by
  -- The rest is narrowed from `i + 1` on, so the place shifts by one in the induction.
  induction args generalizing i items with
  | nil =>
    cases h
    exact ⟨fun j v hv => by contradiction, fun j n => by simp⟩
  | cons v rest ih =>
    unfold narrowAll at h
    by_cases haccepts : (spec.paramAt i).Accepts v
    · obtain ⟨o, ho, hnoted⟩ := narrow_of_accepts (s := s) haccepts
      rw [ho] at h
      dsimp only at h
      cases hrest : spec.narrowAll s (i + 1) rest with
      | error f =>
        rw [hrest] at h
        contradiction
      | ok items' =>
        rw [hrest] at h
        cases h
        obtain ⟨hall, hplaces⟩ := ih hrest
        have hplace (j : Nat) : i + 1 + j = i + (j + 1) := by omega
        refine ⟨fun j w hw => ?_, fun j n => ?_⟩
        · cases j with
          | zero =>
            cases hw
            exact haccepts
          | succ j => exact hplace j ▸ hall j w hw
        · cases j with
          | zero => simpa using hnoted n
          | succ j => simpa [hplace] using hplaces j n
    · obtain ⟨f, hf, -⟩ := narrow_of_not_accepts (s := s) haccepts
      rw [hf] at h
      contradiction

/-- If `narrowAll` fails, then as `narrow` does at the first place that does not accept its argument. -/
theorem exists_of_narrowAll {i : Nat} {args : List Value} {f : Failure}
    (h : spec.narrowAll s i args = .error f) :
    ∃ j v, args[j]? = some v ∧ ¬ (spec.paramAt (i + j)).Accepts v ∧
      spec.narrow s (i + j) v = .error f ∧
      ∀ k < j, ∀ w, args[k]? = some w → (spec.paramAt (i + k)).Accepts w := by
  induction args generalizing i with
  | nil => contradiction
  | cons v rest ih =>
    unfold narrowAll at h
    by_cases haccepts : (spec.paramAt i).Accepts v
    · obtain ⟨o, ho, -⟩ := narrow_of_accepts (s := s) haccepts
      rw [ho] at h
      dsimp only at h
      cases hrest : spec.narrowAll s (i + 1) rest with
      | ok items =>
        rw [hrest] at h
        contradiction
      | error g =>
        rw [hrest] at h
        cases h
        -- This place accepts its argument, so it joins those before the first fault.
        obtain ⟨j, w, hw, hnot, hnarrow, hbefore⟩ := ih hrest
        have hplace (k : Nat) : i + 1 + k = i + (k + 1) := by omega
        rw [hplace] at hnot hnarrow
        refine ⟨j + 1, w, hw, hnot, hnarrow, fun k hk u hu => ?_⟩
        cases k with
        | zero =>
          cases hu
          exact haccepts
        | succ k => exact hplace k ▸ hbefore k (Nat.lt_of_succ_lt_succ hk) u hu
    · obtain ⟨g, hg, -⟩ := narrow_of_not_accepts (s := s) haccepts
      rw [hg] at h
      cases h
      exact ⟨0, v, rfl, haccepts, hg, fun k hk => by contradiction⟩

theorem fits_iff {args : List Value} :
    spec.Fits args ↔ ∀ i v, args[i]? = some v → (spec.paramAt (0 + i)).Accepts v := by
  unfold Fits
  constructor
  · intro h i v hv
    rw [Nat.zero_add]
    exact accepts_paramAt_iff.2 fun p hp => h i p v hp hv
  · intro h i p v hp hv
    have haccepts := h i v hv
    rw [Nat.zero_add] at haccepts
    exact accepts_paramAt_iff.1 haccepts p hp

/-! ## The number of arguments -/

/-- The leftmost place that does not accept its argument is to blame: `outOfRange` for an integer, else
`typeMismatch`. -/
def BlamesFirst (spec : ArgSpec) (args : List Value) (f : Failure) : Prop :=
  ∃ (i : Nat) (p : Param) (v : Value),
    spec.params[i]? = some p ∧ args[i]? = some v ∧ ¬ p.Accepts v ∧
    (∀ (j : Nat) (q : Param) (w : Value), j < i →
      spec.params[j]? = some q → args[j]? = some w → q.Accepts w) ∧
    f.code = if p = .int ∧ v.isInt = true then .outOfRange else .typeMismatch

theorem parse_cases (spec : ArgSpec) (s : Store) (args : List Value) :
    (∃ f, spec.checkArity args.length = .error f ∧ spec.parse s args = .error f ∧
        ¬ spec.Takes args.length) ∨
      spec.parse s args = (spec.narrowAll s 0 args).map Args.mk ∧ spec.Takes args.length := by
  have htakes : spec.checkArity args.length = .ok () ↔ spec.Takes args.length :=
    (spec.checkArity_eq_ok_iff args.length).trans (arityOk_iff _)
  unfold parse
  cases hcheck : spec.checkArity args.length with
  | ok => exact Or.inr ⟨rfl, htakes.1 hcheck⟩
  | error f =>
    refine Or.inl ⟨f, rfl, rfl, fun hbounds => ?_⟩
    rw [htakes.2 hbounds] at hcheck
    contradiction

theorem exists_parse_iff {args : List Value} :
    (∃ a, spec.parse s args = .ok a) ↔ spec.Takes args.length ∧ spec.Fits args := by
  rcases spec.parse_cases s args with ⟨f, -, hparse, hbounds⟩ | ⟨hparse, htakes⟩
  · rw [hparse]
    exact ⟨fun ⟨a, ha⟩ => by contradiction, fun hboth => absurd hboth.1 hbounds⟩
  · rw [hparse]
    cases hnarrowed : spec.narrowAll s 0 args with
    | ok items =>
      exact ⟨fun _ => ⟨htakes, fits_iff.2 (accepts_of_narrowAll hnarrowed).1⟩, fun _ => ⟨_, rfl⟩⟩
    | error f =>
      refine ⟨fun ⟨a, ha⟩ => by contradiction, fun hboth => ?_⟩
      obtain ⟨i, v, hv, hnot, -⟩ := exists_of_narrowAll hnarrowed
      exact absurd (fits_iff.1 hboth.2 i v hv) hnot

def tooLarge : HostInt := ⟨0x8000000000000000, by decide, by decide⟩

end ArgSpec

end ObjectProtocol
