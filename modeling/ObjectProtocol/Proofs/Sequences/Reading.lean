import ObjectProtocol.Proofs.Iteration.Snapshots

/-!
# Reading a container

A text, tuple, list or dictionary can be measured, searched, asked for what is at a place or under a key,
and walked from its beginning to its end.  Each of these looks at the container by itself, and what they
find are the items that the walk yields.  None of them writes to a list or a dictionary.
-/

namespace ObjectProtocol

/-! ## Containers stay -/

namespace Store

/-- Every list and every dictionary is still there, with the content that it had. -/
structure KeepsContainers (s s' : Store) : Prop where
  lists : ∀ ref items, s.lists.get? ref = some items → s'.lists.get? ref = some items
  dicts : ∀ ref m, s.dicts.get? ref = some m → s'.dicts.get? ref = some m

variable {s s' s'' : Store}

theorem KeepsContainers.of_eq (hlists : s'.lists = s.lists) (hdicts : s'.dicts = s.dicts) :
    s.KeepsContainers s' :=
  ⟨fun _ _ h => hlists ▸ h, fun _ _ h => hdicts ▸ h⟩

theorem KeepsContainers.refl (s : Store) : s.KeepsContainers s := .of_eq rfl rfl

theorem KeepsContainers.trans (h : s.KeepsContainers s') (h' : s'.KeepsContainers s'') :
    s.KeepsContainers s'' :=
  ⟨fun ref _ hat => h'.lists ref _ (h.lists ref _ hat),
    fun ref _ hat => h'.dicts ref _ (h.dicts ref _ hat)⟩

theorem EditedBy.keepsContainers {W : Store → Edit → Prop} (h : s.EditedBy W s')
    (hW : ∀ s e, W s e → ∃ c, e = .change c) : s.KeepsContainers s' := by
  induction h with
  | refl => exact .refl s
  | identities _ _ ih | iterator _ _ ih => exact ih.trans (.of_eq rfl rfl)
  | list items _ ih =>
    exact ih.trans ⟨fun _ _ hat => Heap.get?_push_of_some hat items, fun _ _ hat => hat⟩
  | dict m _ ih => exact ih.trans ⟨fun _ _ hat => hat, fun _ _ hat => Heap.get?_push_of_some hat m⟩
  | @write s' e _ he ih =>
    obtain ⟨c, rfl⟩ := hW s' e he
    exact ih.trans (.of_eq (s'.lists_apply c) (s'.dicts_apply c))

end Store

theorem Sketch.Fresh.keepsContainers_build {sketch : Sketch} (h : sketch.Fresh) (s : Store) :
    s.KeepsContainers (sketch.build s).2 :=
  (h.editedBy (W := fun _ _ => False) s).keepsContainers fun _ _ => False.elim

namespace ObjectOp

def readsSequence : ObjectOp → Bool
  | len | contains | iter | next | nextOrRaise | collect | item | add => true
  | _ => false

/-- No operation that `readsSequence` writes to a container, whatever its operands are. -/
theorem keepsContainers_run {op : ObjectOp} (hop : op.readsSequence = true) (operands : List Value)
    (rt : Runtime) (s : Store) : s.KeepsContainers (op.run operands rt s).2 := by
  refine (op.editedBy_run operands rt s).keepsContainers fun s e hedits => ?_
  cases hedits with
  | changes | advance => exact ⟨_, rfl⟩
  | push | put => contradiction

end ObjectOp

/-! ## What is read -/

/-- `ObjectOp.add` of the values to what is there, one after the other. -/
def addUp (rt : Runtime) : Value → List Value → Store → Request × Store
  | sum, [], s => (.value sum, s)
  | sum, v :: rest, s =>
    match ObjectOp.add.run [sum, v] rt s with
    | (.value sum, s) => addUp rt sum rest s
    | refused => refused

/-- `item` with an index finds a place from the front, or from the back if it is negative, and otherwise
no place. -/
structure Store.PlacedBy (rt : Runtime) (s : Store) (v : Value) (xs : List Value) : Prop where
  inside : ∀ (key : Value) (i : HostInt) (n : Nat) (hn : n < xs.length), key.asInt? = some i →
    (i.val = n ∨ i.val = n - xs.length) → ObjectOp.item.run [v, key] rt s = (.value xs[n], s)
  outside : ∀ (key : Value) (i : HostInt), key.asInt? = some i →
    (xs.length ≤ i.val ∨ i.val < -xs.length) →
    ObjectOp.item.run [v, key] rt s = (.raise ⟨.indexError, s.typeName v ++ " index out of range"⟩, s)

/-- `contains` is true exactly of what equals one of the items. -/
def Store.FoundAmong (rt : Runtime) (s : Store) (v : Value) (xs : List Value) : Prop :=
  ∀ w, ∃ found, ObjectOp.contains.run [v, w] rt s = (.value (.bool found), s) ∧
    (found = true ↔ ∃ x ∈ xs, s.equal x w = true)

/-- `item` finds a value under a key iff `contains` finds the key. -/
def Store.KeyedAsFound (rt : Runtime) (s : Store) (v : Value) : Prop :=
  ∀ key,
    (∃ w, ObjectOp.item.run [v, key] rt s = (.value w, s) ∧
      ObjectOp.contains.run [v, key] rt s = (.value (.bool true), s)) ∨
    (ObjectOp.item.run [v, key] rt s = (.raise ⟨.keyError, s.repr key⟩, s) ∧
      ObjectOp.contains.run [v, key] rt s = (.value (.bool false), s))

variable {rt : Runtime} {s : Store} {v : Value} {xs : List Value}

/-! ### Places -/

namespace Store

theorem itemAt_of_place (s : Store) {items : Array Value} {key : Value} {i : HostInt} {n : Nat}
    (hn : n < items.size) (h : key.asInt? = some i) (hplace : i.val = n ∨ i.val = n - items.size)
    (kind : String) : s.itemAt items key kind = .ok items[n] := by
  -- Either way of naming the place comes to the same position.
  have hposition : (if i.val < 0 then i.val + items.size else i.val) = n := by
    split <;> omega
  unfold itemAt
  rw [h]
  dsimp only
  rw [hposition, if_neg (Int.not_lt.2 (Int.natCast_nonneg n)), Int.toNat_natCast,
    Array.getElem?_eq_getElem hn]

theorem itemAt_of_no_place (s : Store) {items : Array Value} {key : Value} {i : HostInt}
    (h : key.asInt? = some i) (hplace : items.size ≤ i.val ∨ i.val < -items.size) (kind : String) :
    s.itemAt items key kind = .error ⟨.indexError, kind ++ " index out of range"⟩ := by
  unfold itemAt
  rw [h]
  dsimp only
  by_cases hposition : (if i.val < 0 then i.val + items.size else i.val) < 0
  · rw [if_pos hposition]
  · rw [if_neg hposition, Array.getElem?_eq_none (by split at hposition <;> omega)]

theorem placedBy_of_getItem {items : Array Value}
    (h : ∀ key, s.getItem v key = s.itemAt items key (s.typeName v)) : s.PlacedBy rt v items.toList := by
  have hrun (key : Value) : ObjectOp.item.run [v, key] rt s =
      Request.ofResult (s.itemAt items key (s.typeName v)) s := by
    rw [← h key]
    rfl
  refine ⟨fun key i n hn hkey hplace => ?_, fun key i hkey hplace => ?_⟩
  · rw [hrun, s.itemAt_of_place hn hkey hplace, Array.getElem_toList]
    rfl
  · rw [hrun, s.itemAt_of_no_place hkey hplace]
    rfl

end Store

/-! ### Items -/

/-- A count of items that is too large for a `NativeInt` reads as `largest`, and no more items are walked
through. -/
theorem NativeInt.val_ofCount_length (xs : List Value) :
    (NativeInt.ofCount xs.length).val = (countable xs).length := by
  have hlength : (countable xs).length = min 0x7fffffffffffffff xs.length := List.length_take
  by_cases hlt : (xs.length : Int) < 0x8000000000000000
  · rw [val_ofCount_of_lt hlt, hlength]
    omega
  · have hnone : ofInt? (xs.length : Int) = none := dif_neg fun h => hlt h.2
    rw [ofCount, hnone, hlength]
    show (0x7fffffffffffffff : Int) = _
    omega

theorem Mapping.contains_eq_any (m : Mapping) (same : Value → Value → Bool) (key : Value) :
    m.contains same key = m.keys.any fun k => same k key := by
  unfold contains get? keys
  rw [Option.isSome_map, Array.isSome_find?, Array.any_map]
  rfl

namespace Store

theorem run_collect_of_iter {sketch : Sketch} {ref : Ref} (hiter : s.iter rt v = .ok sketch)
    (hvalue : (sketch.build s).1 = .iterator ref) :
    ObjectOp.collect.run [v] rt s = ObjectOp.collect.run [.iterator ref] rt (sketch.build s).2 := by
  have hcollect : s.collect rt v = (sketch.build s).2.collect rt (.iterator ref) := by
    unfold collect
    rw [hiter, iter_iterator]
    dsimp only
    rw [hvalue]
    rfl
  unfold ObjectOp.run
  dsimp only
  rw [hcollect]

theorem Items.run_collect (h : s.Items rt v xs) :
    ∃ made s', ObjectOp.collect.run [v] rt s = (.value (.list made), s') ∧
      (s'.listAt made).toList = countable xs := by
  obtain ⟨sketch, ref, hiter, hvalue, hwalks⟩ := h.exists_iter
  rw [run_collect_of_iter hiter hvalue]
  exact hwalks.run_collect rt

theorem Items.run_len (h : s.Items rt v xs) (hv : v.isObject = false) :
    ∃ n : NativeInt, ObjectOp.len.run [v] rt s = (.value (.ofNative n), s) ∧
      n.val = (countable xs).length := by
  have hcount (n : Nat) (hn : n = xs.length)
      (hlen : ObjectOp.len.run [v] rt s = (.value (.ofNative (.ofCount n)), s)) :
      ∃ n : NativeInt, ObjectOp.len.run [v] rt s = (.value (.ofNative n), s) ∧
        n.val = (countable xs).length :=
    ⟨_, hlen, hn ▸ NativeInt.val_ofCount_length xs⟩
  cases h with
  | tuple id items => exact hcount items.size rfl rfl
  | list ref => exact hcount (s.listAt ref).size rfl rfl
  | dict ref => exact hcount (s.dictAt ref).size (by simp [Mapping.size, Mapping.keys]) rfl
  | str id text =>
    exact hcount text.length (by rw [List.length_mapIdx, String.length_toList]) rfl
  | positions | counter => contradiction

theorem Items.placedBy (h : s.Items rt v xs)
    (hplaces : (∃ items, v.asTuple? = some items) ∨ ∃ ref, v = .list ref) : s.PlacedBy rt v xs := by
  cases h with
  | tuple id items => exact placedBy_of_getItem fun key => rfl
  | list ref => exact placedBy_of_getItem fun key => rfl
  | dict | str | positions | counter =>
    rcases hplaces with ⟨items, hitems⟩ | ⟨ref, href⟩ <;> contradiction

theorem run_contains {w : Value} {found : Bool} (rt : Runtime) (h : s.contains v w = .ok found) :
    ObjectOp.contains.run [v, w] rt s = (.value (.bool found), s) := by
  show Request.ofResult ((s.contains v w).map .bool) s = _
  rw [h]
  rfl

theorem contains_dict (s : Store) (ref : Ref) (w : Value) :
    s.contains (.dict ref) w = .ok ((s.dictAt ref).contains s.equal w) := by
  unfold contains
  rw [containsWithin.eq_def]

theorem Items.foundAmong (h : s.Items rt v xs) (hv : v.isObject = false) (htext : v.asText? = none) :
    s.FoundAmong rt v xs := by
  intro w
  -- Each of the three is searched by equality, front to back.
  have hany (items : Array Value) (hcontains : s.contains v w = .ok (items.any fun x => s.equal x w)) :
      ∃ found, ObjectOp.contains.run [v, w] rt s = (.value (.bool found), s) ∧
        (found = true ↔ ∃ x ∈ items.toList, s.equal x w = true) := by
    refine ⟨_, run_contains rt hcontains, ?_⟩
    rw [← Array.any_toList, List.any_eq_true]
  cases h with
  | tuple id items =>
    refine hany items ?_
    unfold contains
    rw [containsWithin.eq_def]
  | list ref =>
    refine hany (s.listAt ref) ?_
    unfold contains
    rw [containsWithin.eq_def]
  | dict ref =>
    refine hany (s.dictAt ref).keys ?_
    rw [contains_dict, Mapping.contains_eq_any]
  | str | positions | counter => contradiction

theorem keyedAsFound_dict (rt : Runtime) (s : Store) (ref : Ref) : s.KeyedAsFound rt (.dict ref) := by
  intro key
  have hitem : ObjectOp.item.run [.dict ref, key] rt s =
      Request.ofResult (s.getItem (.dict ref) key) s := rfl
  unfold getItem at hitem
  dsimp only at hitem
  have hfound := run_contains rt (s.contains_dict ref key)
  unfold Mapping.contains at hfound
  cases hkey : (s.dictAt ref).get? s.equal key with
  | some w =>
    rw [hkey] at hitem hfound
    exact Or.inl ⟨w, hitem, hfound⟩
  | none =>
    rw [hkey] at hitem hfound
    exact Or.inr ⟨hitem, hfound⟩

end Store

/-! ### Texts -/

theorem Value.eq_str_of_asText? {text : String} (h : v.asText? = some text) : ∃ id, v = .str id text := by
  cases v with
  | str id text' => exact ⟨id, by rw [Option.some.inj h]⟩
  | _ => contradiction

theorem Store.Items.characters {text : String} (h : s.Items rt v xs) (htext : v.asText? = some text) :
    xs.map (·.asText?) = text.toList.map fun c => some (String.singleton c) := by
  cases h with
  | str id text' =>
    cases htext
    apply List.ext_getElem?
    intro i
    simp [Function.comp_def, Value.asText?]
  | tuple | list | dict | positions | counter => contradiction

theorem addUp_cons {x w : Value} {s' : Store} (h : ObjectOp.add.run [v, x] rt s = (.value w, s'))
    (rest : List Value) : addUp rt v (x :: rest) s = addUp rt w rest s' := by
  rw [addUp, h]

theorem addUp_characters (rt : Runtime) {characters : List Char}
    (h : xs.map (·.asText?) = characters.map fun c => some (String.singleton c)) (id : Identity)
    (start : String) (s : Store) :
    ∃ id' s', addUp rt (.str id start) xs s =
      (.value (.str id' (start ++ String.ofList characters)), s') := by
  induction xs generalizing characters id start s with
  | nil =>
    cases characters with
    | nil => exact ⟨id, s, by simp [addUp]⟩
    | cons => contradiction
  | cons x rest ih =>
    cases characters with
    | nil => contradiction
    | cons c characters =>
      obtain ⟨hx, hrest⟩ := List.cons.inj h
      obtain ⟨idx, rfl⟩ := Value.eq_str_of_asText? hx
      have hadd : ObjectOp.add.run [.str id start, .str idx (String.singleton c)] rt s =
          (.value (.str s.nextId (start ++ String.singleton c)), { s with nextId := s.nextId + 1 }) := rfl
      obtain ⟨id', s', hsum⟩ := ih hrest s.nextId (start ++ String.singleton c) { s with nextId := s.nextId + 1 }
      refine ⟨id', s', ?_⟩
      rw [addUp_cons hadd, hsum]
      -- The character has gone to the end of what was there before the others came.
      have htext : start ++ String.singleton c ++ String.ofList characters =
          start ++ String.ofList (c :: characters) := by
        apply String.toList_injective
        simp
      rw [htext]

/-! ## Main result -/

/-- Whatever reads the container agrees with the items that `collect` gives. -/
structure Store.ReadAs (rt : Runtime) (s : Store) (v : Value) (xs : List Value) : Prop where
  collected : ∃ made s', ObjectOp.collect.run [v] rt s = (.value (.list made), s') ∧
    (s'.listAt made).toList = countable xs
  measured : ∃ n : NativeInt, ObjectOp.len.run [v] rt s = (.value (.ofNative n), s) ∧
    n.val = (countable xs).length
  placed : (∃ items, v.asTuple? = some items) ∨ (∃ ref, v = .list ref) → s.PlacedBy rt v xs
  found : v.asText? = none → s.FoundAmong rt v xs
  keyed : ∀ ref, v = .dict ref → s.KeyedAsFound rt v
  addedUp : ∀ text, v.asText? = some text → ∀ id s', ∃ id' s'',
    addUp rt (.str id "") xs s' = (.value (.str id' text), s'')
  searched : ∀ text, v.asText? = some text → ∀ id block, ∃ found,
    ObjectOp.contains.run [v, .str id block] rt s = (.value (.bool found), s) ∧
      (found = true ↔ block.toList <:+: text.toList)

/-- In every store, for every text, tuple, list or dictionary: `collect` gives as many items as `len`
says, `item` finds them at their indices, `contains` searches them, and a dictionary has a value under
exactly those keys that it contains; the items of a text are its characters, which add up to it, while
`contains` looks for a block of them. No operation that `readsSequence` writes to a list or a dictionary.
`countable` is the identity on fewer than `2 ^ 63` items. -/
theorem reads_agree_with_iteration (h : s.Items rt v xs) (hv : v.isObject = false) :
    s.ReadAs rt v xs ∧ ∀ (op : ObjectOp) (operands : List Value), op.readsSequence = true →
      s.KeepsContainers (op.run operands rt s).2 := by
  refine ⟨⟨h.run_collect, h.run_len hv, h.placedBy, h.foundAmong hv, ?_, ?_, ?_⟩,
    fun op operands hop => ObjectOp.keepsContainers_run hop operands rt s⟩
  · rintro ref rfl
    exact s.keyedAsFound_dict rt ref
  · intro text htext id s'
    have hcharacters := h.characters htext
    obtain ⟨id', s'', hsum⟩ := addUp_characters rt hcharacters id "" s'
    rw [String.ofList_toList, String.empty_append] at hsum
    exact ⟨id', s'', hsum⟩
  · -- For a text, containment is of blocks and not of items.
    intro text htext id block
    obtain ⟨idv, rfl⟩ := Value.eq_str_of_asText? htext
    refine ⟨Text.hasBlock text block, Store.run_contains rt ?_, Text.hasBlock_iff⟩
    unfold Store.contains
    rw [Store.containsWithin.eq_def]

def oneKey : Store := (({} : Store).newDict ⟨#[(.int 1, .str 0 "one")]⟩).2

/-- `True` equals the only key of `oneKey`, so `contains` and `item` find it. -/
theorem reads_agree_with_iteration_oneKey :
    ∃ (rt : Runtime) (w : Value), oneKey.ReadAs rt (.dict 0) [.int 1] ∧
      ObjectOp.contains.run [.dict 0, .bool true] rt oneKey = (.value (.bool true), oneKey) ∧
      ObjectOp.item.run [.dict 0, .bool true] rt oneKey = (.value w, oneKey) := by
  have hkeys : (oneKey.dictAt 0).keys.toList = [.int 1] := by
    simp [oneKey, Store.newDict, Store.dictAt, Heap.get?, Heap.push, Heap.size, Mapping.keys]
  have hitems : oneKey.Items (Session.ofSetup {}).host.runtime (.dict 0) [.int 1] := hkeys ▸ .dict 0
  obtain ⟨hreads, -⟩ := reads_agree_with_iteration hitems rfl
  obtain ⟨found, hfound, hiff⟩ := hreads.found rfl (.bool true)
  obtain rfl := hiff.2 ⟨.int 1, List.mem_cons_self, rfl⟩
  rcases hreads.keyed 0 rfl (.bool true) with ⟨w, hitem, -⟩ | ⟨-, hmissing⟩
  · exact ⟨_, w, hreads, hfound, hitem⟩
  · rw [hfound] at hmissing
    cases hmissing

end ObjectProtocol
