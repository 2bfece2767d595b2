import ObjectProtocol.Equality

/-!
# Keys

Most keys of a dictionary are built from null, booleans, integers, texts and tuples of these.  Such a key
is equal to another value just when the two say the same, where a boolean says a number and an identity
says nothing.  So no store is asked, and equality of keys is an equivalence; a float would break that,
because two integers may round to it.
-/

namespace ObjectProtocol

theorem HostInt.ofBool_inj {b c : Bool} : HostInt.ofBool b = HostInt.ofBool c ↔ b = c := by
  revert b c
  decide

/-- What a key says, by which `Store.equal` decides. -/
inductive Key
  | null
  | number (i : HostInt)
  | text (text : String)
  | tuple (items : List Key)

namespace Value

mutual

/-- The `Key` of a value that is built from null, booleans, integers, texts and tuples. -/
def key? : Value → Option Key
  | .null => some .null
  | .bool b => some (.number (.ofBool b))
  | .int i => some (.number i)
  | .str _ text => some (.text text)
  | .tuple _ items => (rowKey? items).map .tuple
  | _ => none

def rowKey? : Array Value → Option (List Key)
  | ⟨vs⟩ => allKeys? vs

def allKeys? : List Value → Option (List Key)
  | [] => some []
  | v :: vs =>
    match key? v, allKeys? vs with
    | some k, some ks => some (k :: ks)
    | _, _ => none

end

mutual

/-- No float is compared when the value is: there is none in it, in a tuple of it or behind a bound
method. What a list or a dictionary holds does not count, because either equals itself. -/
def isFloatFree : Value → Bool
  | .float _ => false
  | .tuple _ items => rowFloatFree items
  | .method _ receiver _ => isFloatFree receiver
  | _ => true

def rowFloatFree : Array Value → Bool
  | ⟨vs⟩ => allFloatFree vs

def allFloatFree : List Value → Bool
  | [] => true
  | v :: vs => isFloatFree v && allFloatFree vs

end

theorem key?_of_asInt? {v : Value} {i : HostInt} (h : v.asInt? = some i) : v.key? = some (.number i) := by
  cases v <;> simp_all [asInt?, key?]

def IsKey (v : Value) : Prop := v.key?.isSome = true

/-! ## Rows -/

variable {lists dicts : Ref → Ref → Bool}

theorem equalRowWith_eq (xs : Array Value) (ws : List Value) :
    equalRowWith lists dicts xs ws = equalAllWith lists dicts xs.toList ws := by
  cases xs
  rw [equalRowWith]

theorem equalAllWith_iff_getElem? {vs ws : List Value} :
    equalAllWith lists dicts vs ws = true ↔ vs.length = ws.length ∧
      ∀ (i : Nat) (v w : Value), vs[i]? = some v → ws[i]? = some w → v.equalWith lists dicts w = true := by
  induction vs generalizing ws with
  | nil => cases ws <;> simp [equalAllWith]
  | cons v vs ih =>
    cases ws with
    | nil => simp [equalAllWith]
    | cons w ws =>
      rw [equalAllWith, Bool.and_eq_true, ih]
      constructor
      · rintro ⟨hhead, hlength, hrest⟩
        refine ⟨congrArg (· + 1) hlength, fun i v' w' hv hw => ?_⟩
        cases i with
        | zero =>
          cases hv
          cases hw
          exact hhead
        | succ i => exact hrest i v' w' hv hw
      · rintro ⟨hlength, hall⟩
        exact ⟨hall 0 v w rfl rfl, Nat.succ.inj hlength, fun i v' w' hv hw => hall (i + 1) v' w' hv hw⟩

theorem rowKey?_eq (xs : Array Value) : rowKey? xs = allKeys? xs.toList := by
  cases xs
  rw [rowKey?]

theorem rowFloatFree_eq (xs : Array Value) : rowFloatFree xs = allFloatFree xs.toList := by
  cases xs
  rw [rowFloatFree]

theorem allFloatFree_iff {vs : List Value} :
    allFloatFree vs = true ↔ ∀ v ∈ vs, v.isFloatFree = true := by
  induction vs with
  | nil => simp [allFloatFree]
  | cons v vs ih => simp [allFloatFree, ih]

theorem allKeys?_cons_eq_some_iff {v : Value} {vs : List Value} {ks : List Key} :
    allKeys? (v :: vs) = some ks ↔ ∃ k ks', v.key? = some k ∧ allKeys? vs = some ks' ∧ ks = k :: ks' := by
  rw [allKeys?]
  cases v.key? <;> cases allKeys? vs <;> simp [eq_comm]

theorem exists_key?_of_allKeys? {vs : List Value} {ks : List Key} (h : allKeys? vs = some ks) {v : Value}
    (hv : v ∈ vs) : ∃ k, v.key? = some k := by
  induction vs generalizing ks with
  | nil => cases hv
  | cons w vs ih =>
    obtain ⟨k, ks', hw, hvs, -⟩ := allKeys?_cons_eq_some_iff.1 h
    rcases List.mem_cons.1 hv with rfl | hv
    · exact ⟨k, hw⟩
    · exact ih hvs hv

theorem length_of_allKeys? {vs : List Value} {ks : List Key} (h : allKeys? vs = some ks) :
    ks.length = vs.length := by
  induction vs generalizing ks with
  | nil =>
    cases h
    rfl
  | cons v vs ih =>
    obtain ⟨k, ks', -, hvs, rfl⟩ := allKeys?_cons_eq_some_iff.1 h
    rw [List.length_cons, List.length_cons, ih hvs]

/-- Induction over values, with a hypothesis for the items of a tuple. -/
@[elab_as_elim] theorem tupleInduction {P : Value → Prop} (v : Value)
    (tuple : ∀ id items, (∀ w ∈ items.toList, P w) → P (.tuple id items))
    (other : ∀ w, w.asTuple? = none → P w) : P v := by
  cases v with
  | tuple id items => exact tuple id items fun w hw => tupleInduction w tuple other
  | _ => exact other _ rfl
termination_by sizeOf v
decreasing_by
  have := Array.sizeOf_lt_of_mem (Array.mem_toList_iff.1 hw)
  simp
  omega

theorem isFloatFree_of_key? (v : Value) {k : Key} (h : v.key? = some k) : v.isFloatFree = true := by
  induction v using tupleInduction generalizing k with
  | tuple id items ih =>
    rw [key?, rowKey?_eq] at h
    obtain ⟨ks, hks, -⟩ := Option.map_eq_some_iff.1 h
    rw [isFloatFree, rowFloatFree_eq, allFloatFree_iff]
    exact fun w hw => (exists_key?_of_allKeys? hks hw).elim fun k hk => ih w hw hk
  | other v hv => cases v <;> simp_all [key?, isFloatFree, asTuple?]

/-! ## Equality of keys -/

theorem equalAllWith_iff {vs ws : List Value} {ks : List Key} (hvs : allKeys? vs = some ks)
    (hws : ∀ w ∈ ws, w.isFloatFree = true)
    (h : ∀ v ∈ vs, ∀ w k, v.key? = some k → w.isFloatFree = true →
      (v.equalWith lists dicts w = true ↔ w.key? = some k)) :
    equalAllWith lists dicts vs ws = true ↔ allKeys? ws = some ks := by
  -- The hypothesis on the values of the row is what the induction over values gives.
  induction vs generalizing ws ks with
  | nil =>
    cases hvs
    cases ws with
    | nil => simp [equalAllWith, allKeys?]
    | cons w ws => simp [equalAllWith, allKeys?_cons_eq_some_iff]
  | cons v vs ih =>
    obtain ⟨k, ks', hv, hrest, rfl⟩ := allKeys?_cons_eq_some_iff.1 hvs
    cases ws with
    | nil => simp [equalAllWith, allKeys?]
    | cons w ws =>
      rw [List.forall_mem_cons] at hws h
      rw [equalAllWith, Bool.and_eq_true, h.1 w k hv hws.1, ih hrest hws.2 h.2, allKeys?_cons_eq_some_iff]
      simp

theorem equalWith_iff (v w : Value) {k : Key} (hv : v.key? = some k) (hw : w.isFloatFree = true) :
    v.equalWith lists dicts w = true ↔ w.key? = some k := by
  induction v using tupleInduction generalizing w k with
  | tuple id vs ih =>
    rw [key?, rowKey?_eq] at hv
    obtain ⟨ks, hks, rfl⟩ := Option.map_eq_some_iff.1 hv
    cases w with
    | tuple _ ws =>
      rw [isFloatFree, rowFloatFree_eq, allFloatFree_iff] at hw
      have hrow : equalAllWith lists dicts vs.toList ws.toList = true ↔ allKeys? ws.toList = some ks :=
        equalAllWith_iff hks hw fun v hv w k => ih v hv w
      rw [equalWith, equalRowWith_eq, Bool.and_eq_true, hrow, decide_eq_true_iff, key?, rowKey?_eq]
      simp only [Option.map_eq_some_iff, Key.tuple.injEq, exists_eq_right, and_iff_right_iff_imp]
      -- Rows that say the same have the same number of places.
      intro hws
      rw [← Array.length_toList, ← Array.length_toList, ← length_of_allKeys? hks, length_of_allKeys? hws]
    | _ => simp_all [equalWith, equalPlain, key?, isFloatFree]
  | other v hplain =>
    cases v with
    | tuple => contradiction
    | null | bool | int | str =>
      cases hv
      cases w with
      | float x => simp [isFloatFree] at hw
      | _ =>
        simp [equalWith, equalPlain, key?, HostInt.ofBool_inj, @eq_comm HostInt, @eq_comm String,
          @eq_comm Bool]
    | _ => simp [key?] at hv

/-! ## Equality with itself -/

theorem is_self {v : Value} (h : v.isFloatFree = true) : v.is v = true := by
  cases v <;> simp_all [is, isFloatFree]

theorem equalAllWith_self {vs : List Value} (h : ∀ v ∈ vs, v.equalWith lists dicts v = true) :
    equalAllWith lists dicts vs vs = true := by
  refine equalAllWith_iff_getElem?.2 ⟨rfl, fun i v w hv hw => ?_⟩
  obtain rfl := Option.some.inj (hv.symm.trans hw)
  exact h v (List.mem_of_getElem? hv)

theorem equalWith_self (v : Value) (h : v.isFloatFree = true) : v.equalWith lists dicts v = true := by
  induction v using tupleInduction with
  | tuple id vs ih =>
    rw [isFloatFree, rowFloatFree_eq, allFloatFree_iff] at h
    rw [equalWith, equalRowWith_eq, equalAllWith_self fun v hv => ih v hv (h v hv)]
    simp
  | other v hplain =>
    cases v with
    | method _ receiver d =>
      rw [isFloatFree] at h
      simp [equalWith, equalPlain, is_self h, Descriptor.same]
    | _ => simp_all [equalWith, equalPlain, isFloatFree, asTuple?]

end Value

namespace Store

theorem exists_equal_eq (s : Store) : ∃ lists dicts, ∀ v w, s.equal v w = v.equalWith lists dicts w := by
  cases hn : s.lists.size + s.dicts.size with
  | zero => exact ⟨_, _, fun v w => by rw [equal_eq, hn, equalWithin]⟩
  | succ n => exact ⟨_, _, fun v w => by rw [equal_eq, hn, equalWithin]⟩

theorem equal_self (s : Store) {v : Value} (h : v.isFloatFree = true) : s.equal v v = true := by
  obtain ⟨lists, dicts, hequal⟩ := s.exists_equal_eq
  rw [hequal]
  exact v.equalWith_self h

/-- Equal to a key is exactly what has the same `key?`. -/
theorem equal_iff_key? (s : Store) {v w : Value} (hv : v.IsKey) (hw : w.isFloatFree = true) :
    s.equal v w = true ↔ w.key? = v.key? := by
  obtain ⟨lists, dicts, hequal⟩ := s.exists_equal_eq
  obtain ⟨k, hk⟩ := Option.isSome_iff_exists.1 hv
  rw [hequal, hk]
  exact v.equalWith_iff w hk hw

theorem equal_str (s : Store) (v : Value) (id : Identity) (text : String) :
    s.equal v (.str id text) = decide (v.asText? = some text) := by
  obtain ⟨lists, dicts, hequal⟩ := s.exists_equal_eq
  rw [hequal]
  cases v <;> simp [Value.equalWith, Value.equalPlain, Value.equalsFloat, Value.asText?, Value.asInt?]

end Store

namespace Value.IsKey

variable {v w : Value}

theorem isFloatFree (hv : v.IsKey) : v.isFloatFree = true := by
  obtain ⟨k, hk⟩ := Option.isSome_iff_exists.1 hv
  exact v.isFloatFree_of_key? hk

/-- All stores agree on what is `Store.equal` to a key. -/
theorem equal_congr (hv : v.IsKey) (hw : w.isFloatFree = true) (s s' : Store) :
    s.equal v w = s'.equal v w := by
  rw [Bool.eq_iff_iff, s.equal_iff_key? hv hw, s'.equal_iff_key? hv hw]

theorem equal_comm (hv : v.IsKey) (hw : w.IsKey) (s : Store) : s.equal v w = s.equal w v := by
  rw [Bool.eq_iff_iff, s.equal_iff_key? hv hw.isFloatFree, s.equal_iff_key? hw hv.isFloatFree]
  exact eq_comm

end Value.IsKey

end ObjectProtocol
