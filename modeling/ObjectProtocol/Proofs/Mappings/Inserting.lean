import Mathlib.Data.Set.Card
import Mathlib.Logic.Relation
import ObjectProtocol.Proofs.Mappings.Keys

/-!
# Dictionaries made by insertion

A mapping that starts empty and is only inserted into is a dictionary: under every key it has the value
of the last insertion, its keys are the first of their kind in the order in which they came, and there
are as many as there are kinds.  Which of two unequal keys came first can be read off the order of the
keys only.
-/

namespace ObjectProtocol

/-- An insertion of a value under a key, with the store whose `Store.equal` finds the place. -/
structure Insertion where
  store : Store
  key : Value
  value : Value

namespace Insertion

/-- The value that was inserted last under a key `Store.equal` to the given one. -/
def lastValue? (s : Store) (inserts : List Insertion) (key : Value) : Option Value :=
  (inserts.reverse.find? fun i => s.equal i.key key).map (·.value)

/-- The same insertions, but two neighbours with unequal keys in the other order. -/
inductive Swapped : List Insertion → List Insertion → Prop
  | swap (before after : List Insertion) (s : Store) {i j : Insertion} (h : s.equal i.key j.key = false) :
    Swapped (before ++ i :: j :: after) (before ++ j :: i :: after)

variable {s : Store} {inserts : List Insertion} {q : Value}

theorem lastValue?_cons (i : Insertion) :
    lastValue? s (i :: inserts) q
      = (lastValue? s inserts q).or (if s.equal i.key q then some i.value else none) := by
  unfold lastValue?
  rw [List.reverse_cons, List.find?_append, Option.map_or, List.find?_singleton]
  split <;> rfl

theorem lastValue?_append (before after : List Insertion) :
    lastValue? s (before ++ after) q = (lastValue? s after q).or (lastValue? s before q) := by
  unfold lastValue?
  rw [List.reverse_append, List.find?_append, Option.map_or]

theorem isSome_lastValue? :
    (lastValue? s inserts q).isSome = true ↔ ∃ i ∈ inserts, s.equal i.key q = true := by
  simp [lastValue?]

end Insertion

namespace Value

def equalKeys (s : Store) (k : Value) : Set Value := {k' | k'.IsKey ∧ s.equal k k' = true}

namespace IsKey

variable {v w u : Value}

theorem equal_left_congr (hv : v.IsKey) (hw : w.IsKey) (hu : u.isFloatFree = true) {s : Store}
    (h : s.equal v w = true) : s.equal v u = s.equal w u := by
  have hsame := (s.equal_iff_key? hv hw.isFloatFree).1 h
  rw [Bool.eq_iff_iff, s.equal_iff_key? hv hu, s.equal_iff_key? hw hu, hsame]

theorem equalKeys_eq_iff (hv : v.IsKey) (hw : w.IsKey) (s : Store) :
    v.equalKeys s = w.equalKeys s ↔ s.equal v w = true := by
  constructor
  · intro h
    have hmem : w ∈ w.equalKeys s := ⟨hw, s.equal_self hw.isFloatFree⟩
    exact (h ▸ hmem : w ∈ v.equalKeys s).2
  · intro h
    ext u
    exact and_congr_right fun hu => by rw [hv.equal_left_congr hw hu.isFloatFree h]

end IsKey

end Value

/-! ## One insertion -/

namespace Mapping

/-- `Mapping.insert` on the row of entries. -/
def insertRow (same : Value → Value → Bool) (key value : Value) :
    List (Value × Value) → List (Value × Value)
  | [] => [(key, value)]
  | entry :: rest =>
    if same entry.1 key then (entry.1, value) :: rest else entry :: insertRow same key value rest

theorem toList_entries_insert (m : Mapping) (same : Value → Value → Bool) (key value : Value) :
    (m.insert same key value).entries.toList = insertRow same key value m.entries.toList := by
  obtain ⟨⟨rows⟩⟩ := m
  have hplace : (Mapping.mk ⟨rows⟩).place? same key = rows.findIdx? fun entry => same entry.1 key := by
    simp [place?]
  unfold insert
  rw [hplace]
  clear hplace
  induction rows with
  | nil => rfl
  | cons entry rest ih =>
    rw [insertRow, List.findIdx?_cons]
    by_cases hentry : same entry.1 key = true
    · simp [hentry]
    · rw [if_neg hentry, if_neg hentry, ← ih]
      cases rest.findIdx? fun entry => same entry.1 key <;> simp

variable {s s' : Store} {key value q : Value}

theorem find?_insertRow {rows : List (Value × Value)} (hrows : ∀ entry ∈ rows, entry.1.IsKey)
    (hkey : key.IsKey) (hq : q.isFloatFree = true) :
    ((insertRow s.equal key value rows).find? fun entry => s'.equal entry.1 q).map (·.2)
      = if s'.equal key q then some value
        else (rows.find? fun entry => s'.equal entry.1 q).map (·.2) := by
  induction rows with
  | nil =>
    rw [insertRow, List.find?_singleton]
    split <;> rfl
  | cons entry rest ih =>
    obtain ⟨hentry, hrest⟩ := List.forall_mem_cons.1 hrows
    rw [insertRow]
    by_cases hsame : s.equal entry.1 key = true
    · -- The entry has an equal key, so the two answer the same questions.
      rw [hentry.equal_congr hkey.isFloatFree s s'] at hsame
      have hcongr : s'.equal entry.1 q = s'.equal key q := hentry.equal_left_congr hkey hq hsame
      rw [if_pos (hentry.equal_congr hkey.isFloatFree s s' ▸ hsame), List.find?_cons, List.find?_cons]
      dsimp only
      rw [hcongr]
      cases s'.equal key q <;> rfl
    · rw [if_neg hsame, List.find?_cons, List.find?_cons]
      cases hfound : s'.equal entry.1 q with
      | false => exact ih hrest
      | true =>
        -- What equals the entry's key does not equal an unequal one.
        have hother : ¬ s'.equal key q = true := by
          intro hkeyq
          rw [s'.equal_iff_key? hkey hq] at hkeyq
          rw [s'.equal_iff_key? hentry hq] at hfound
          rw [s.equal_iff_key? hentry hkey.isFloatFree, ← hkeyq] at hsame
          exact hsame hfound
        rw [if_neg hother]

/-- Every key of the mapping is `Value.IsKey`. -/
def Keyed (m : Mapping) : Prop := ∀ k ∈ m.keys.toList, k.IsKey

theorem get?_insert {m : Mapping} (hm : m.Keyed) (hkey : key.IsKey) (hq : q.isFloatFree = true) :
    (m.insert s.equal key value).get? s'.equal q
      = if s'.equal key q then some value else m.get? s'.equal q := by
  unfold get?
  rw [← Array.find?_toList, ← Array.find?_toList, toList_entries_insert]
  refine find?_insertRow (fun entry hentry => hm entry.1 ?_) hkey hq
  rw [keys, Array.toList_map]
  exact List.mem_map_of_mem hentry

theorem Keyed.insert {m : Mapping} (hm : m.Keyed) (hkey : key.IsKey) :
    (m.insert s.equal key value).Keyed := by
  intro k hk
  rw [keys_insert] at hk
  split at hk
  · exact hm k hk
  · rw [Array.toList_push, List.mem_append, List.mem_singleton] at hk
    rcases hk with hk | rfl
    · exact hm k hk
    · exact hkey

/-! ## All insertions -/

def insertAll (m : Mapping) (inserts : List Insertion) : Mapping :=
  inserts.foldl (fun m i => m.insert i.store.equal i.key i.value) m

theorem insertAll_cons (m : Mapping) (i : Insertion) (inserts : List Insertion) :
    m.insertAll (i :: inserts) = (m.insert i.store.equal i.key i.value).insertAll inserts := rfl

variable {m : Mapping} {inserts : List Insertion}

theorem toList_keys_empty : ({} : Mapping).keys.toList = [] := by simp [keys]

theorem keyed_empty : ({} : Mapping).Keyed := by simp [Keyed, toList_keys_empty]

theorem get?_insertAll (hm : m.Keyed) (hkeys : ∀ i ∈ inserts, i.key.IsKey) (s : Store)
    (hq : q.isFloatFree = true) :
    (m.insertAll inserts).get? s.equal q
      = (Insertion.lastValue? s inserts q).or (m.get? s.equal q) := by
  induction inserts generalizing m with
  | nil => rfl
  | cons i rest ih =>
    obtain ⟨hi, hrest⟩ := List.forall_mem_cons.1 hkeys
    rw [insertAll_cons, ih (hm.insert hi) hrest, get?_insert hm hi hq, Insertion.lastValue?_cons,
      Option.or_assoc]
    split <;> simp

theorem get?_insertAll_empty (hkeys : ∀ i ∈ inserts, i.key.IsKey) (s : Store)
    (hq : q.isFloatFree = true) :
    (({} : Mapping).insertAll inserts).get? s.equal q = Insertion.lastValue? s inserts q := by
  rw [get?_insertAll keyed_empty hkeys s hq, show ({} : Mapping).get? s.equal q = none from rfl,
    Option.or_none]

/-- `Mapping.insert` keeps an equal key that is already there. -/
theorem keys_insertAll (hm : m.Keyed) (hkeys : ∀ i ∈ inserts, i.key.IsKey) (s : Store) :
    (m.insertAll inserts).keys.toList
      = List.eraseDupsBy.loop s.equal (inserts.map (·.key)) m.keys.toList.reverse := by
  induction inserts generalizing m with
  | nil => rw [List.map_nil, List.eraseDupsBy.loop, List.reverse_reverse]; rfl
  | cons i rest ih =>
    obtain ⟨hi, hrest⟩ := List.forall_mem_cons.1 hkeys
    have hany : m.keys.any (i.store.equal · i.key) = m.keys.toList.reverse.any (s.equal i.key) := by
      rw [List.any_reverse, ← Array.any_toList, Bool.eq_iff_iff, List.any_eq_true, List.any_eq_true]
      refine exists_congr fun k => and_congr_right fun hk => ?_
      rw [(hm k hk).equal_congr hi.isFloatFree i.store s, (hm k hk).equal_comm hi]
    rw [insertAll_cons, ih (hm.insert hi) hrest, keys_insert, hany, List.map_cons, List.eraseDupsBy.loop]
    cases m.keys.toList.reverse.any (s.equal i.key) <;> simp

theorem keyed_insertAll (hm : m.Keyed) (hkeys : ∀ i ∈ inserts, i.key.IsKey) :
    (m.insertAll inserts).Keyed := by
  induction inserts generalizing m with
  | nil => exact hm
  | cons i rest ih =>
    obtain ⟨hi, hrest⟩ := List.forall_mem_cons.1 hkeys
    exact ih (hm.insert hi) hrest

/-- The keys are pairwise unequal, whatever the store. -/
def Distinct (m : Mapping) : Prop :=
  m.keys.toList.Pairwise fun k k' => ∀ s : Store, s.equal k k' = false ∧ s.equal k' k = false

theorem distinct_empty : ({} : Mapping).Distinct := by simp [Distinct, toList_keys_empty]

theorem Distinct.insert (h : m.Distinct) (hm : m.Keyed) (hkey : key.IsKey) :
    (m.insert s.equal key value).Distinct := by
  unfold Distinct
  rw [keys_insert]
  split
  · exact h
  · rename_i hany
    rw [Array.toList_push, List.pairwise_append]
    refine ⟨h, List.pairwise_singleton _ _, fun k hk k' hk' s' => ?_⟩
    obtain rfl := List.mem_singleton.1 hk'
    have hunequal : s'.equal k k' = false := by
      rw [(hm k hk).equal_congr hkey.isFloatFree s' s]
      exact Bool.eq_false_iff.2 fun hequal =>
        hany (Array.any_eq_true'.2 ⟨k, Array.mem_toList_iff.1 hk, hequal⟩)
    exact ⟨hunequal, (hm k hk).equal_comm hkey s' ▸ hunequal⟩

theorem distinct_insertAll (h : m.Distinct) (hm : m.Keyed) (hkeys : ∀ i ∈ inserts, i.key.IsKey) :
    (m.insertAll inserts).Distinct := by
  induction inserts generalizing m with
  | nil => exact h
  | cons i rest ih =>
    obtain ⟨hi, hrest⟩ := List.forall_mem_cons.1 hkeys
    exact ih (h.insert hm hi) (hm.insert hi) hrest

/-- As many classes of `equalKeys` as keys. -/
theorem Distinct.size_eq (h : m.Distinct) (hm : m.Keyed) (s : Store) :
    m.size = (Value.equalKeys s '' {k | k ∈ m.keys.toList}).ncard := by
  classical
  have hnodup : (m.keys.toList.map (Value.equalKeys s)).Nodup := by
    refine List.pairwise_map.2 (h.imp_of_mem fun {k k'} hk hk' hunequal hsame => ?_)
    rw [(hm k hk).equalKeys_eq_iff (hm k' hk'), (hunequal s).1] at hsame
    cases hsame
  have hset : Value.equalKeys s '' {k | k ∈ m.keys.toList}
      = ((m.keys.toList.map (Value.equalKeys s)).toFinset : Set (Set Value)) := by
    ext c
    simp
  rw [hset, Set.ncard_coe_finset, List.toFinset_card_of_nodup hnodup, List.length_map]
  simp [size, keys]

theorem contains_iff {same : Value → Value → Bool} :
    m.contains same q = true ↔ ∃ k ∈ m.keys.toList, same k q = true := by
  rw [contains, Option.isSome_iff_ne_none, ne_eq, get?_eq_none_iff]
  simp

theorem contains_insertAll (hkeys : ∀ i ∈ inserts, i.key.IsKey) (s : Store) (hq : q.isFloatFree = true) :
    (({} : Mapping).insertAll inserts).contains s.equal q = true ↔
      ∃ i ∈ inserts, s.equal i.key q = true := by
  rw [contains, get?_insertAll_empty hkeys s hq, Insertion.isSome_lastValue?]

theorem equalKeys_insertAll (hkeys : ∀ i ∈ inserts, i.key.IsKey) (s : Store) :
    Value.equalKeys s '' {k | k ∈ (({} : Mapping).insertAll inserts).keys.toList}
      = (fun i => i.key.equalKeys s) '' {i | i ∈ inserts} := by
  have hkeyed := keyed_insertAll keyed_empty hkeys
  ext c
  constructor
  · rintro ⟨k, hk, rfl⟩
    have hff := (hkeyed k hk).isFloatFree
    have hfound := contains_iff.2 ⟨k, hk, s.equal_self hff⟩
    obtain ⟨i, hi, hequal⟩ := (contains_insertAll hkeys s hff).1 hfound
    exact ⟨i, hi, ((hkeys i hi).equalKeys_eq_iff (hkeyed k hk) s).2 hequal⟩
  · rintro ⟨i, hi, rfl⟩
    have hff := (hkeys i hi).isFloatFree
    have hfound := (contains_insertAll hkeys s hff).2 ⟨i, hi, s.equal_self hff⟩
    obtain ⟨k, hk, hequal⟩ := contains_iff.1 hfound
    exact ⟨k, hk, ((hkeyed k hk).equalKeys_eq_iff (hkeys i hi) s).2 hequal⟩

end Mapping

/-! ## The order of insertions -/

namespace Insertion

variable {s : Store} {inserts inserts' : List Insertion} {q : Value}

theorem Swapped.mem_iff (h : Swapped inserts inserts') (i : Insertion) : i ∈ inserts' ↔ i ∈ inserts := by
  obtain ⟨before, after, _, _⟩ := h
  simp only [List.mem_append, List.mem_cons]
  exact or_congr_right or_left_comm

theorem Swapped.lastValue?_eq (h : Swapped inserts inserts') (hkeys : ∀ i ∈ inserts, i.key.IsKey)
    (hq : q.isFloatFree = true) : lastValue? s inserts' q = lastValue? s inserts q := by
  obtain ⟨before, after, t, hunequal⟩ := h
  rename_i i j
  have hi : i.key.IsKey := hkeys i (by simp)
  have hj : j.key.IsKey := hkeys j (by simp)
  rw [lastValue?_append, lastValue?_append, lastValue?_cons, lastValue?_cons, lastValue?_cons,
    lastValue?_cons, Option.or_assoc, Option.or_assoc]
  by_cases hiq : s.equal i.key q = true
  · -- If both keys equalled `q`, they would equal each other.
    have hjq : ¬ s.equal j.key q = true := by
      intro hjq
      rw [s.equal_iff_key? hi hq] at hiq
      rw [s.equal_iff_key? hj hq, hiq] at hjq
      rw [Bool.eq_false_iff, ne_eq, t.equal_iff_key? hi hj.isFloatFree] at hunequal
      exact hunequal hjq.symm
    rw [if_pos hiq, if_neg hjq, Option.or_none, Option.none_or, Option.or_assoc]
  · rw [if_neg hiq, Option.or_none, Option.none_or, Option.or_assoc]

end Insertion

/-! ## Main result -/

/-- What `insertAll` makes of the insertions, read in any store. -/
structure Mapping.IsDictionaryOf (m : Mapping) (inserts : List Insertion) : Prop where
  distinct : m.Distinct
  get : ∀ (s : Store) (q : Value), q.isFloatFree = true →
    m.get? s.equal q = Insertion.lastValue? s inserts q
  contains : ∀ (s : Store) (q : Value), q.isFloatFree = true →
    (m.contains s.equal q = true ↔ ∃ i ∈ inserts, s.equal i.key q = true)
  getText : ∀ (s : Store) (id : Identity) (text : String),
    m.getText? text = m.get? s.equal (.str id text)
  keys : ∀ s : Store, m.keys.toList = (inserts.map (·.key)).eraseDupsBy s.equal
  size : ∀ s : Store, m.size = ((fun i => i.key.equalKeys s) '' {i | i ∈ inserts}).ncard

theorem Mapping.getText?_eq (m : Mapping) (s : Store) (id : Identity) (text : String) :
    m.getText? text = m.get? s.equal (.str id text) := by
  simp only [getText?, get?, s.equal_str]

/-- `Mapping.insert` of values under keys built from null, booleans, integers, texts and tuples makes the
dictionary `IsDictionaryOf` speaks of: keys pairwise unequal, under each the value inserted last under an
equal one, the keys the first ones of their classes, in order, and `size` the number of classes. `Swapped`
insertions cannot be told apart by look-ups. -/
theorem insertAll_isDictionaryOf {inserts : List Insertion} (hkeys : ∀ i ∈ inserts, i.key.IsKey) :
    (({} : Mapping).insertAll inserts).IsDictionaryOf inserts ∧
      ∀ inserts', Relation.ReflTransGen Insertion.Swapped inserts inserts' →
        ∀ (s : Store) (q : Value), q.isFloatFree = true →
          (({} : Mapping).insertAll inserts').get? s.equal q
            = (({} : Mapping).insertAll inserts).get? s.equal q := by
  refine ⟨⟨Mapping.distinct_insertAll Mapping.distinct_empty Mapping.keyed_empty hkeys,
    fun s q hq => Mapping.get?_insertAll_empty hkeys s hq,
    fun s q hq => Mapping.contains_insertAll hkeys s hq,
    fun s id text => Mapping.getText?_eq _ s id text, fun s => ?_, fun s => ?_⟩, ?_⟩
  · rw [Mapping.keys_insertAll Mapping.keyed_empty hkeys s, Mapping.toList_keys_empty, List.reverse_nil,
      List.eraseDupsBy]
  · rw [← Mapping.equalKeys_insertAll hkeys s]
    exact (Mapping.distinct_insertAll Mapping.distinct_empty Mapping.keyed_empty hkeys).size_eq
      (Mapping.keyed_insertAll Mapping.keyed_empty hkeys) s
  · intro inserts' hswaps s q hq
    -- By induction on the swaps: the insertions stay the same ones, and so do the last values.
    suffices h : (∀ i ∈ inserts', i.key.IsKey) ∧
        Insertion.lastValue? s inserts' q = Insertion.lastValue? s inserts q by
      rw [Mapping.get?_insertAll_empty h.1 s hq, Mapping.get?_insertAll_empty hkeys s hq, h.2]
    induction hswaps with
    | refl => exact ⟨hkeys, rfl⟩
    | tail _ hswap ih =>
      exact ⟨fun i hi => ih.1 i ((hswap.mem_iff i).1 hi), (hswap.lastValue?_eq ih.1 hq).trans ih.2⟩

/-- The keys `1`, `(True, None)`, `True` and `(1, None)`, which are two classes. -/
def overlapping : List Insertion :=
  [⟨{}, .int 1, .str 0 "first"⟩, ⟨{}, .tuple 1 #[.bool true, .null], .int 0⟩,
    ⟨{}, .bool true, .str 2 "last"⟩, ⟨{}, .tuple 3 #[.int 1, .null], .null⟩]

/-- The value inserted under `True` is found under `1`, which stays, and so is that of the pair with `1`
under the pair with `True`. -/
theorem insertAll_isDictionaryOf_overlapping :
    (∀ i ∈ overlapping, i.key.IsKey) ∧
      (({} : Mapping).insertAll overlapping).IsDictionaryOf overlapping ∧
      (({} : Mapping).insertAll overlapping).keys.toList = [.int 1, .tuple 1 #[.bool true, .null]] ∧
      (({} : Mapping).insertAll overlapping).get? ({} : Store).equal (.bool true)
        = some (.str 2 "last") := by
  have hkeys : ∀ i ∈ overlapping, i.key.IsKey := by
    simp [overlapping, Value.IsKey, Value.key?, Value.rowKey?, Value.allKeys?]
  obtain ⟨hdictionary, -⟩ := insertAll_isDictionaryOf hkeys
  refine ⟨hkeys, hdictionary, ?_, ?_⟩
  · rw [hdictionary.keys {}]
    rfl
  · rw [hdictionary.get {} _ rfl]
    rfl

end ObjectProtocol
