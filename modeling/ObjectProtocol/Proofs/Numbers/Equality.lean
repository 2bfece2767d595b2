import ObjectProtocol.Proofs.Mappings.Inserting
import ObjectProtocol.Proofs.Numbers.Floats

/-!
# Equality of numbers

Two integers are equal when they are the same, and anything else is compared as floats.  So equality of
numbers is symmetric, and it would be transitive if no two integers rounded to one float: the float equals
both, and they do not equal each other.  A dictionary that has such a float as a key gives the value that was
inserted under one of the integers to the other one.
-/

namespace ObjectProtocol

/-- An integer, where booleans count as 0 and 1, or a float. -/
inductive Number
  | whole (i : HostInt)
  | float (x : Float)

namespace Number

def toFloat : Number → Float
  | whole i => i.toFloat
  | float x => x

/-- Equality of numbers: as integers if both are, and otherwise as floats, after `toFloat`. -/
def Same : Number → Number → Prop
  | whole i, whole j => i = j
  | p, q => (p.toFloat == q.toFloat) = true

variable {p q r : Number}

theorem Same.symm (h : p.Same q) : q.Same p := by
  cases p <;> cases q
  · exact Eq.symm h
  · exact BEq.symm h
  · exact BEq.symm h
  · exact BEq.symm h

/-- Two different integers whose `toFloat` equals the float. -/
def Meet (p r : Number) (x : Float) : Prop :=
  ∃ i j, p = whole i ∧ r = whole j ∧ i ≠ j ∧ (i.toFloat == x) = true ∧ (j.toFloat == x) = true

/-- Only a float between two integers that `Meet` there is equal to both without making them equal. -/
theorem Same.trans (h : p.Same q) (h' : q.Same r) : p.Same r ∨ ∃ x, q = float x ∧ p.Meet r x := by
  cases p with
  | float x =>
    cases q with
    | whole j =>
      cases r with
      | whole k =>
        obtain rfl : j = k := h'
        exact Or.inl h
      | float z => exact Or.inl (BEq.trans h h')
    | float y => cases r <;> exact Or.inl (BEq.trans h h')
  | whole i =>
    cases q with
    | whole j =>
      obtain rfl : i = j := h
      exact Or.inl h'
    | float y =>
      cases r with
      | float z => exact Or.inl (BEq.trans h h')
      | whole k =>
        -- Two integers with a float between them: the only case in which transitivity may fail.
        by_cases hik : i = k
        · exact Or.inl hik
        · exact Or.inr ⟨y, rfl, i, k, rfl, rfl, hik, h, BEq.symm h'⟩

theorem Meet.not_same {x : Float} (h : p.Meet r x) : ¬ p.Same r := by
  obtain ⟨i, j, rfl, rfl, hne, -, -⟩ := h
  exact hne

/-- One of two integers that `Meet` has more than 53 bits. -/
theorem Meet.exists_large {x : Float} (h : p.Meet r x) :
    ∃ i, (p = whole i ∨ r = whole i) ∧ 2 ^ 53 ≤ i.val.natAbs := by
  obtain ⟨i, j, rfl, rfl, hne, hi, hj⟩ := h
  by_cases hismall : i.val.natAbs < 2 ^ 53
  · by_cases hjsmall : j.val.natAbs < 2 ^ 53
    · exact absurd (HostInt.eq_of_toFloat_beq hismall hjsmall (BEq.trans hi (BEq.symm hj))) hne
    · exact ⟨j, Or.inr rfl, Nat.le_of_not_lt hjsmall⟩
  · exact ⟨i, Or.inl rfl, Nat.le_of_not_lt hismall⟩

end Number

def Value.number? : Value → Option Number
  | .bool b => some (.whole (.ofBool b))
  | .int i => some (.whole i)
  | .float x => some (.float x)
  | _ => none

section

variable {s s' : Store} {v w e : Value} {p q r : Number}

theorem Store.equal_number (s : Store) (v : Value) (hw : w.number? = some q) :
    s.equal v w = v.equalPlain w := by
  obtain ⟨lists, dicts, hequal⟩ := s.exists_equal_eq
  rw [hequal]
  cases w <;> cases hw <;> cases v <;> rfl

theorem Store.equal_iff_same (hv : v.number? = some p) (hw : w.number? = some q) :
    s.equal v w = true ↔ p.Same q := by
  rw [s.equal_number v hw]
  cases v <;> cases hv <;> cases w <;> cases hw <;>
    simp [Value.equalPlain, Value.equalsFloat, Value.asInt?, Number.Same, Number.toFloat,
      HostInt.ofBool_inj, BEq.comm]

theorem Store.exists_number_of_equal (h : s.equal e w = true) (hw : w.number? = some q) :
    ∃ p, e.number? = some p := by
  rw [s.equal_number e hw] at h
  cases w <;> cases hw <;> cases e <;>
    first | exact ⟨_, rfl⟩ | simp [Value.equalPlain, Value.equalsFloat, Value.asInt?] at h

/-! ## Look-ups -/

theorem Store.exists_float_of_between (hv : v.number? = some p) (hw : w.number? = some q)
    (hne : s.equal v w = false) (hev : s.equal e v = true) (hew : s.equal e w = true) :
    ∃ x, e = .float x ∧ p.Meet q x := by
  obtain ⟨r, hr⟩ := exists_number_of_equal hev hv
  rw [equal_iff_same hr hv] at hev
  rw [equal_iff_same hr hw] at hew
  rcases hev.symm.trans hew with hsame | ⟨x, rfl, hmeet⟩
  · rw [(equal_iff_same hv hw).2 hsame] at hne
    contradiction
  · refine ⟨x, ?_, hmeet⟩
    cases e <;> cases hr
    rfl

/-- An insertion under a number shows under an unequal one only by way of a float key at which both
`Meet`. -/
theorem Mapping.find?_insertRow_number {rows : List (Value × Value)} (u : Value)
    (hv : v.number? = some p) (hw : w.number? = some q) (hne : s.equal v w = false) :
    ((insertRow s.equal v u rows).find? fun entry => s'.equal entry.1 w).map (·.2) =
        (rows.find? fun entry => s'.equal entry.1 w).map (·.2) ∨
      ((insertRow s.equal v u rows).find? fun entry => s'.equal entry.1 w).map (·.2) = some u ∧
        ∃ x, .float x ∈ rows.map (·.1) ∧ p.Meet q x := by
  have hstore (e : Value) : s'.equal e w = s.equal e w := by
    rw [s'.equal_number e hw, s.equal_number e hw]
  simp only [hstore]
  induction rows with
  | nil =>
    left
    rw [insertRow, List.find?_singleton, hne]
    rfl
  | cons entry rest ih =>
    rw [insertRow]
    by_cases hentry : s.equal entry.1 v = true
    · rw [if_pos hentry, List.find?_cons, List.find?_cons]
      cases hfound : s.equal entry.1 w with
      | false => exact Or.inl rfl
      | true =>
        -- The entry is found under both numbers, so the new value is found under the other one.
        obtain ⟨x, hx, hmeet⟩ := Store.exists_float_of_between hv hw hne hentry hfound
        exact Or.inr ⟨rfl, x, List.mem_map.2 ⟨entry, List.mem_cons_self, hx⟩, hmeet⟩
    · rw [if_neg hentry, List.find?_cons, List.find?_cons]
      cases hfound : s.equal entry.1 w with
      | true => exact Or.inl rfl
      | false =>
        rcases ih with hkept | ⟨hnew, x, hx, hmeet⟩
        · exact Or.inl hkept
        · exact Or.inr ⟨hnew, x, List.mem_cons_of_mem _ hx, hmeet⟩

end

/-! ## Main result -/

/-- How `Store.equal` compares numbers, and what that means for dictionaries. -/
structure Store.ComparesNumbers (s : Store) : Prop where
  symm : ∀ a b p q, a.number? = some p → b.number? = some q → s.equal a b = s.equal b a
  trans : ∀ a b c p q r, a.number? = some p → b.number? = some q → c.number? = some r →
    s.equal a b = true → s.equal b c = true →
    (s.equal a c = false ↔ ∃ x, q = .float x ∧ p.Meet r x)
  insert : ∀ (s' : Store) (m : Mapping) (k v k' : Value) (p q : Number), k.number? = some p →
    k'.number? = some q → s.equal k k' = false →
    (m.insert s.equal k v).get? s'.equal k' = m.get? s'.equal k' ∨
      (m.insert s.equal k v).get? s'.equal k' = some v ∧
        ∃ x, .float x ∈ m.keys.toList ∧ p.Meet q x
  large : ∀ (p q : Number) (x : Float), p.Meet q x →
    ∃ i, (p = .whole i ∨ q = .whole i) ∧ 2 ^ 53 ≤ i.val.natAbs

/-- In every store, equality of numbers is symmetric, and transitive but for a float at which two
different integers `Meet`, one of them with more than 53 bits. Likewise `Mapping.insert` under a number
changes what `get?` finds under an unequal one only if such a float is a key. -/
theorem comparesNumbers (s : Store) : s.ComparesNumbers where
  symm a b p q ha hb := by
    rw [Bool.eq_iff_iff, Store.equal_iff_same ha hb, Store.equal_iff_same hb ha]
    exact ⟨Number.Same.symm, Number.Same.symm⟩
  trans a b c p q r ha hb hc hab hbc := by
    rw [Store.equal_iff_same ha hb] at hab
    rw [Store.equal_iff_same hb hc] at hbc
    rw [← Bool.not_eq_true, Store.equal_iff_same ha hc]
    constructor
    · exact fun hne => (hab.trans hbc).resolve_left hne
    · rintro ⟨x, -, hmeet⟩
      exact hmeet.not_same
  insert s' m k v k' p q hk hk' hne := by
    unfold Mapping.get?
    rw [← Array.find?_toList, ← Array.find?_toList, Mapping.toList_entries_insert, Mapping.keys,
      Array.toList_map]
    exact Mapping.find?_insertRow_number v hk hk' hne
  large p q x h := h.exists_large

def firstLarge : HostInt := ⟨2 ^ 53, by decide, by decide⟩

/-- The next one, whose `toFloat` is that of `firstLarge`. -/
def roundedDown : HostInt := ⟨2 ^ 53 + 1, by decide, by decide⟩

def oneFloat : Mapping := ⟨#[(.float firstLarge.toFloat, .str 0 "a")]⟩

/-- `firstLarge` and `roundedDown` both equal their common float, but not each other; in the dictionary
`oneFloat`, what is inserted under the one is found under the other. -/
theorem comparesNumbers_firstLarge :
    ({} : Store).equal (.int firstLarge) (.float firstLarge.toFloat) = true ∧
      ({} : Store).equal (.float firstLarge.toFloat) (.int roundedDown) = true ∧
      ({} : Store).equal (.int firstLarge) (.int roundedDown) = false ∧
      oneFloat.get? ({} : Store).equal (.int roundedDown) = some (.str 0 "a") ∧
      (oneFloat.insert ({} : Store).equal (.int firstLarge) (.str 1 "b")).get? ({} : Store).equal
        (.int roundedDown) = some (.str 1 "b") := by
  have hfirst : ({} : Store).equal (.int firstLarge) (.float firstLarge.toFloat) = true := by
    decide +kernel
  have hsecond : ({} : Store).equal (.float firstLarge.toFloat) (.int roundedDown) = true := by
    decide +kernel
  have hmeet : Number.Meet (.whole firstLarge) (.whole roundedDown) firstLarge.toFloat :=
    ⟨_, _, rfl, rfl, by decide, by decide +kernel, by decide +kernel⟩
  -- The first two facts are evaluated; that the integers differ is what the theorem says about them.
  have hne := ((comparesNumbers {}).trans _ _ _ _ _ _ rfl rfl rfl hfirst hsecond).2 ⟨_, rfl, hmeet⟩
  have hback : ({} : Store).equal (.float firstLarge.toFloat) (.int firstLarge) = true := by
    rw [← hfirst]
    exact (comparesNumbers {}).symm _ _ _ _ rfl rfl
  have hfound : oneFloat.get? ({} : Store).equal (.int roundedDown) = some (.str 0 "a") := by
    simp [oneFloat, Mapping.get?, hsecond]
  refine ⟨hfirst, hsecond, hne, hfound, ?_⟩
  simp [oneFloat, Mapping.insert, Mapping.place?, Mapping.get?, hback, hsecond]

end ObjectProtocol
