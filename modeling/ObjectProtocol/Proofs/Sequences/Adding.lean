import Mathlib.Algebra.Ring.Int.Defs
import ObjectProtocol.Proofs.Mappings.Keys
import ObjectProtocol.Proofs.Sequences.Pushing

/-!
# Adding

Texts, tuples and lists are rows, and two rows of one kind are added by putting one after the other; a
list that is made so has a place of its own.  Integers and booleans are added as numbers.  Floats apart,
no other two values can be added.
-/

namespace ObjectProtocol

/-! ## Rows -/

/-- The content of a text, a tuple or a list. -/
inductive Row
  | text (text : String)
  | tuple (items : Array Value)
  | list (items : Array Value)

namespace Row

def append? : Row → Row → Option Row
  | text a, text b => some (text (a ++ b))
  | tuple xs, tuple ys => some (tuple (xs ++ ys))
  | list xs, list ys => some (list (xs ++ ys))
  | _, _ => none

def isText : Row → Bool
  | text _ => true
  | tuple _ | list _ => false

/-- The values are the items of the row; those of a text say one character each. -/
def Consists : Row → List Value → Prop
  | text a, xs => xs.map (·.asText?) = a.toList.map fun c => some (String.singleton c)
  | tuple items, xs | list items, xs => xs = items.toList

/-- The items are `Value.isFloatFree`. -/
def FloatFree : Row → Prop
  | text _ => True
  | tuple items | list items => ∀ x ∈ items.toList, x.isFloatFree = true

variable {p q r : Row} {xs ys zs : List Value}

theorem append?_assoc (p q r : Row) :
    (p.append? q).bind (·.append? r) = (q.append? r).bind (p.append? ·) := by
  cases p <;> cases q <;> cases r <;> simp [append?, String.append_assoc]

theorem FloatFree.append (hp : p.FloatFree) (hq : q.FloatFree) (h : p.append? q = some r) :
    r.FloatFree := by
  cases p <;> cases q <;> cases h
  · trivial
  · intro x hx
    rw [Array.toList_append, List.mem_append] at hx
    exact hx.elim (hp x) (hq x)
  · intro x hx
    rw [Array.toList_append, List.mem_append] at hx
    exact hx.elim (hp x) (hq x)

/-- The items of the joined row are those of both, one after the other; of texts they are new ones that
say the same. -/
theorem Consists.append (hp : p.Consists xs) (hq : q.Consists ys) (h : p.append? q = some r)
    (hr : r.Consists zs) :
    zs.map (·.asText?) = (xs ++ ys).map (·.asText?) ∧ (p.isText = false → zs = xs ++ ys) := by
  cases p <;> cases q <;> cases h
  · unfold Consists at hp hq hr
    refine ⟨?_, fun htext => Bool.noConfusion htext⟩
    rw [hr, List.map_append, hp, hq, String.toList_append, List.map_append]
  all_goals
    obtain rfl : xs = _ := hp
    obtain rfl : ys = _ := hq
    obtain rfl : zs = _ := hr
    rw [Array.toList_append]
    exact ⟨rfl, fun _ => rfl⟩

theorem Consists.none_notMem (hp : p.Consists xs) (htext : p.isText = true) :
    none ∉ xs.map (·.asText?) := by
  cases p with
  | text a =>
    unfold Consists at hp
    rw [hp]
    simp
  | tuple | list => contradiction

theorem isText_of_append? (h : p.append? q = some r) : r.isText = p.isText := by
  cases p <;> cases q <;> cases h <;> rfl

end Row

namespace Store

def row? (s : Store) : Value → Option Row
  | .str _ text => some (.text text)
  | .tuple _ items => some (.tuple items)
  | .list ref => some (.list (s.listAt ref))
  | _ => none

/-- The value, if it is a list, is one that was made. -/
def HasList (s : Store) (v : Value) : Prop := ∀ ref, v = .list ref → ref < s.lists.size

variable {rt : Runtime} {s s' : Store} {v w u : Value} {p q r : Row} {xs ys zs : List Value}

theorem KeepsContainers.listAt_eq (h : s.KeepsContainers s') {ref : Ref} (hlt : ref < s.lists.size) :
    s'.listAt ref = s.listAt ref := Store.listAt_eq (h.lists ref _ (get?_lists_of_lt hlt))

theorem KeepsContainers.row?_eq (h : s.KeepsContainers s') (hv : s.HasList v) : s'.row? v = s.row? v := by
  cases v with
  | list ref => exact congrArg (fun items => some (Row.list items)) (h.listAt_eq (hv ref rfl))
  | _ => rfl

theorem KeepsContainers.hasList (h : s.KeepsContainers s') (hv : s.HasList v) : s'.HasList v :=
  fun ref href => (Array.getElem?_eq_some_iff.1 (h.lists ref _ (get?_lists_of_lt (hv ref href)))).1

theorem exists_items (rt : Runtime) (hv : s.row? v = some p) : ∃ xs, s.Items rt v xs ∧ p.Consists xs := by
  cases v with
  | str id text =>
    cases hv
    have hitems : s.Items rt (.str id text) _ := .str id text
    exact ⟨_, hitems, hitems.characters rfl⟩
  | tuple id items =>
    cases hv
    exact ⟨_, .tuple id items, rfl⟩
  | list ref =>
    cases hv
    exact ⟨_, .list ref, rfl⟩
  | _ => contradiction

theorem isText_of_row? (hv : s.row? v = some p) : p.isText = v.asText?.isSome := by
  cases v <;> cases hv <;> rfl

theorem isObject_of_row? (hv : s.row? v = some p) : v.isObject = false := by
  cases v <;> first | rfl | contradiction

/-! ### Equal rows -/

theorem equalWithin_self (s : Store) (n : Nat) {v : Value} (h : v.isFloatFree = true) :
    s.equalWithin n v v = true := by
  cases n <;> exact v.equalWith_self h

theorem equal_of_row? (hv : s.row? v = some p) (hw : s.row? w = some p) (hlist : s.HasList v)
    (hfree : p.FloatFree) : s.equal v w = true := by
  cases v with
  | str id text =>
    cases hv
    cases w <;> cases hw
    rw [equal_str]
    exact decide_eq_true rfl
  | tuple id items =>
    cases hv
    cases w <;> cases hw
    obtain ⟨lists, dicts, hequal⟩ := s.exists_equal_eq
    rw [hequal, Value.equalWith, Value.equalRowWith_eq,
      Value.equalAllWith_self fun x hx => x.equalWith_self (hfree x hx)]
    simp
  | list ref =>
    have hlt := hlist ref rfl
    cases hv
    cases w with
    | list ref' =>
      have hsame : s.listAt ref' = s.listAt ref := Row.list.inj (Option.some.inj hw)
      -- There is a list, so there is fuel for looking into it.
      obtain ⟨n, hn⟩ := Nat.exists_eq_succ_of_ne_zero
        (Nat.ne_of_gt (Nat.add_pos_left (Nat.zero_lt_of_lt hlt) s.dicts.size))
      have hall : (s.listAt ref).isEqv (s.listAt ref') (s.equalWithin n) = true := by
        rw [hsame, Array.isEqv_iff_rel]
        exact ⟨rfl, fun i hi => s.equalWithin_self n (hfree _ (Array.getElem_mem_toList hi))⟩
      rw [equal_eq, hn, equalWithin, Value.equalWith, hall, Bool.or_true]
    | _ => cases hw
  | _ => cases hv

/-! ### Joined rows -/

theorem exists_run_add (rt : Runtime) (hv : s.row? v = some p) (hw : s.row? w = some q)
    (h : p.append? q = some r) :
    ∃ u s', ObjectOp.add.run [v, w] rt s = (.value u, s') ∧ s'.row? u = some r ∧ s'.HasList u ∧
      ∀ ref, u = .list ref → ref = s.lists.size := by
  cases v <;> cases hv <;> cases w <;> cases hw <;> cases h
  · exact ⟨_, _, rfl, rfl, fun ref href => by contradiction, fun ref href => by contradiction⟩
  · exact ⟨_, _, rfl, rfl, fun ref href => by contradiction, fun ref href => by contradiction⟩
  · refine ⟨_, _, rfl, congrArg (fun items => some (Row.list items)) (s.listAt_newList _), ?_, ?_⟩
    · rintro ref href
      obtain rfl := Value.list.inj href
      show s.lists.size < (s.lists.push _).size
      rw [Heap.size_push]
      exact Nat.lt_succ_self _
    · exact fun ref href => (Value.list.inj href).symm

theorem keepsContainers_of_add (hrun : ObjectOp.add.run [v, w] rt s = (.value u, s')) :
    s.KeepsContainers s' := by
  have hadd : ObjectOp.add.readsSequence = true := rfl
  have hkept := ObjectOp.keepsContainers_run hadd [v, w] rt s
  rw [hrun] at hkept
  exact hkept

end Store

/-! ## Main result -/

def Store.Collects (rt : Runtime) (s : Store) (v : Value) (xs : List Value) : Prop :=
  ∃ made s', ObjectOp.collect.run [v] rt s = (.value (.list made), s') ∧ (s'.listAt made).toList = xs

theorem countable_append (xs ys : List Value) :
    countable (countable xs ++ countable ys) = countable (xs ++ ys) := by
  unfold countable
  generalize NativeInt.largest.val.toNat = n
  rw [List.take_append, List.take_append, List.take_take, List.take_take, List.length_take]
  congr 2 <;> omega

namespace Store

variable {rt : Runtime} {s s' : Store} {v w u : Value} {p q r : Row} {xs ys zs : List Value}

/-- In the store afterwards, `u` is `v` followed by `w`, and if it is a list it is a new one: what lists
hold later is what they hold now and what is pushed to them. -/
structure Concatenates (rt : Runtime) (s : Store) (v w u : Value) (s' : Store) : Prop where
  collected : ∃ xs ys zs, s.Collects rt v xs ∧ s.Collects rt w ys ∧ s'.Collects rt u zs ∧
    zs.map (·.asText?) = (countable (xs ++ ys)).map (·.asText?) ∧
    (v.asText? = none → zs = countable (xs ++ ys)) ∧
    (v.asText? ≠ none → none ∉ zs.map (·.asText?))
  measured : ∃ m n k : NativeInt, ObjectOp.len.run [v] rt s = (.value (.ofNative m), s) ∧
    ObjectOp.len.run [w] rt s = (.value (.ofNative n), s) ∧
    ObjectOp.len.run [u] rt s' = (.value (.ofNative k), s') ∧
    k.val = min (m.val + n.val) NativeInt.largest.val
  kept : s.KeepsContainers s'
  fresh : ∀ ref, u = .list ref → ref = s.lists.size
  later : ∀ x ∈ [v, w, u], ∀ ref, x = .list ref → ∀ (c c' : Config) (events : List Event),
    c.session.host.store = s' → c.History events c' →
    (c'.session.host.store.listAt ref).toList =
      (s'.listAt ref).toList ++ events.flatMap (Event.pushed ref)

theorem HasList.later (hv : s.HasList v) {ref : Ref} (href : v = .list ref) {c c' : Config}
    {events : List Event} (hs : c.session.host.store = s) (h : c.History events c') :
    (c'.session.host.store.listAt ref).toList =
      (s.listAt ref).toList ++ events.flatMap (Event.pushed ref) := by
  subst hs
  rw [listAt_eq (h.get?_lists (get?_lists_of_lt (hv ref href))), Array.toList_append]

theorem concatenates_of_row? (hv : s.row? v = some p) (hw : s.row? w = some q)
    (h : p.append? q = some r) (hu : s'.row? u = some r) (hkept : s.KeepsContainers s')
    (hfresh : ∀ ref, u = .list ref → ref = s.lists.size) (hlists : ∀ x ∈ [v, w, u], s'.HasList x) :
    s.Concatenates rt v w u s' := by
  obtain ⟨xs, hxs, hp⟩ := exists_items rt hv
  obtain ⟨ys, hys, hq⟩ := exists_items rt hw
  obtain ⟨zs, hzs, hr⟩ := exists_items rt hu
  obtain ⟨htexts, hhandles⟩ := hp.append hq h hr
  have hlength : zs.length = xs.length + ys.length := by
    rw [← List.length_append, ← List.length_map (·.asText?), htexts, List.length_map]
  refine ⟨?_, ?_, hkept, hfresh,
    fun x hx ref href c c' events hs hhistory => (hlists x hx).later href hs hhistory⟩
  · refine ⟨_, _, _, hxs.run_collect, hys.run_collect, hzs.run_collect, ?_, ?_, ?_⟩
    · rw [countable_append, countable, countable, List.map_take, List.map_take, htexts]
    · -- Away from texts the items of the sum are the very objects.
      intro hnone
      rw [countable_append, hhandles (by rw [isText_of_row? hv, hnone]; rfl)]
    · intro hsome hmem
      rw [countable, List.map_take] at hmem
      refine hr.none_notMem ?_ (List.mem_of_mem_take hmem)
      rw [Row.isText_of_append? h, isText_of_row? hv]
      exact Option.isSome_iff_ne_none.2 hsome
  · obtain ⟨m, hm, hmval⟩ := hxs.run_len (isObject_of_row? hv)
    obtain ⟨n, hn, hnval⟩ := hys.run_len (isObject_of_row? hw)
    obtain ⟨k, hk, hkval⟩ := hzs.run_len (isObject_of_row? hu)
    refine ⟨m, n, k, hm, hn, hk, ?_⟩
    -- All three lengths are cut off at the largest native integer.
    have hcount (xs : List Value) : (countable xs).length = min 0x7fffffffffffffff xs.length :=
      List.length_take
    rw [hmval, hnval, hkval, hcount, hcount, hcount, hlength]
    show _ = min _ (0x7fffffffffffffff : Int)
    omega

/-- `add` on rows is associative, whichever sum is made first. -/
theorem exists_equal_add (rt : Runtime) {x : Value} {o : Row} (hv : s.row? v = some p)
    (hw : s.row? w = some q) (hx : s.row? x = some o)
    (h : (p.append? q).bind (·.append? o) = some r) (hlists : ∀ y ∈ [v, w, x], s.HasList y)
    (hfree : p.FloatFree ∧ q.FloatFree ∧ o.FloatFree) :
    ∃ vw s₁ left s₂ wx s₃ right s₄, ObjectOp.add.run [v, w] rt s = (.value vw, s₁) ∧
      ObjectOp.add.run [vw, x] rt s₁ = (.value left, s₂) ∧
      ObjectOp.add.run [w, x] rt s₂ = (.value wx, s₃) ∧
      ObjectOp.add.run [v, wx] rt s₃ = (.value right, s₄) ∧ s₄.equal left right = true := by
  simp only [List.forall_mem_cons] at hlists
  obtain ⟨hvlist, hwlist, hxlist, -⟩ := hlists
  obtain ⟨pq, hpq, hpqo⟩ := Option.bind_eq_some_iff.1 h
  obtain ⟨qo, hqo, hpqo'⟩ := Option.bind_eq_some_iff.1 ((p.append?_assoc q o).symm.trans h)
  obtain ⟨vw, s₁, hrun₁, hvw, -, -⟩ := exists_run_add rt hv hw hpq
  -- Each sum leaves the rows that the later ones need as they are.
  have hkept₁ := keepsContainers_of_add hrun₁
  obtain ⟨left, s₂, hrun₂, hleft, hleftlist, -⟩ :=
    exists_run_add rt hvw ((hkept₁.row?_eq hxlist).trans hx) hpqo
  have hkept₂ := hkept₁.trans (keepsContainers_of_add hrun₂)
  obtain ⟨wx, s₃, hrun₃, hwx, -, -⟩ :=
    exists_run_add rt ((hkept₂.row?_eq hwlist).trans hw) ((hkept₂.row?_eq hxlist).trans hx) hqo
  have hkept₃ := hkept₂.trans (keepsContainers_of_add hrun₃)
  obtain ⟨right, s₄, hrun₄, hright, -, -⟩ :=
    exists_run_add rt ((hkept₃.row?_eq hvlist).trans hv) hwx hpqo'
  have hkept₄ := (keepsContainers_of_add hrun₃).trans (keepsContainers_of_add hrun₄)
  refine ⟨vw, s₁, left, s₂, wx, s₃, right, s₄, hrun₁, hrun₂, hrun₃, hrun₄, ?_⟩
  exact equal_of_row? ((hkept₄.row?_eq hleftlist).trans hleft) hright (hkept₄.hasList hleftlist)
    ((hfree.1.append hfree.2.1 hpq).append hfree.2.2 hpqo)

/-! ### Numbers and everything else -/

theorem add_of_asInt? {i j : HostInt} (hv : v.asInt? = some i) (hw : w.asInt? = some j) :
    s.add v w = match i.add? j with
      | some k => .ok (.given (.int k))
      | none => .error ⟨.overflowError, "integer addition overflowed"⟩ := by
  cases hsum : i.add? j <;> simp only [add, hv, hw, hsum]

theorem add_eq_unsupported (hvfloat : ∀ x, v ≠ .float x) (hwfloat : ∀ x, w ≠ .float x)
    (hnumber : v.asInt? = none ∨ w.asInt? = none)
    (hrows : ∀ p q, s.row? v = some p → s.row? w = some q → p.append? q = none) :
    s.add v w = .error (add.unsupported s v w) := by
  unfold add
  split
  · rename_i hv hw
    rw [hv, hw] at hnumber
    simp at hnumber
  · split
    · exact absurd rfl (hvfloat _)
    · exact absurd rfl (hvfloat _)
    · exact absurd rfl (hwfloat _)
    · -- Texts, tuples and lists add to their own kind.
      exact absurd (hrows _ _ rfl rfl) (by simp [Row.append?])
    · exact absurd (hrows _ _ rfl rfl) (by simp [Row.append?])
    · exact absurd (hrows _ _ rfl rfl) (by simp [Row.append?])
    · rfl

/-- What `ObjectOp.add` does: it joins rows of one kind, adds numbers, and refuses everything else. -/
structure AddsExactly (rt : Runtime) (s : Store) : Prop where
  joins : ∀ v w p q r, s.row? v = some p → s.row? w = some q → p.append? q = some r →
    s.HasList v → s.HasList w →
    ∃ u s', ObjectOp.add.run [v, w] rt s = (.value u, s') ∧ s'.row? u = some r ∧
      s.Concatenates rt v w u s'
  associates : ∀ v w x p q o r, s.row? v = some p → s.row? w = some q → s.row? x = some o →
    (p.append? q).bind (·.append? o) = some r → (∀ y ∈ [v, w, x], s.HasList y) →
    p.FloatFree ∧ q.FloatFree ∧ o.FloatFree →
    ∃ vw s₁ left s₂ wx s₃ right s₄, ObjectOp.add.run [v, w] rt s = (.value vw, s₁) ∧
      ObjectOp.add.run [vw, x] rt s₁ = (.value left, s₂) ∧
      ObjectOp.add.run [w, x] rt s₂ = (.value wx, s₃) ∧
      ObjectOp.add.run [v, wx] rt s₃ = (.value right, s₄) ∧ s₄.equal left right = true
  numbers : ∀ v w i j, v.asInt? = some i → w.asInt? = some j →
    (∀ k : HostInt, k.val = i.val + j.val → ObjectOp.add.run [v, w] rt s = (.value (.int k), s)) ∧
    ((i.val + j.val < -2 ^ 127 ∨ 2 ^ 127 ≤ i.val + j.val) →
      ObjectOp.add.run [v, w] rt s = (.raise ⟨.overflowError, "integer addition overflowed"⟩, s)) ∧
    ObjectOp.add.run [w, v] rt s = ObjectOp.add.run [v, w] rt s
  refused : ∀ v w, (∀ x, v ≠ .float x) → (∀ x, w ≠ .float x) → v.asInt? = none ∨ w.asInt? = none →
    (∀ p q, s.row? v = some p → s.row? w = some q → p.append? q = none) →
    ObjectOp.add.run [v, w] rt s =
      (.raise ⟨.typeError, "unsupported operand type(s) for +: '" ++ s.typeName v ++ "' and '" ++
        s.typeName w ++ "'"⟩, s)

/-- In every store, `add` on two texts, two tuples or two lists joins them and leaves them as they are, is
associative where no float is compared, and makes a list that shares nothing with the others from then on;
on integers it is exact or raises an `overflowError`; all other operands, floats apart, raise a
`typeError`. -/
theorem addsExactly (rt : Runtime) (s : Store) : s.AddsExactly rt where
  joins v w p q r hv hw h hvlist hwlist := by
    obtain ⟨u, s', hrun, hu, hulist, hfresh⟩ := exists_run_add rt hv hw h
    have hkept := keepsContainers_of_add hrun
    refine ⟨u, s', hrun, hu, concatenates_of_row? hv hw h hu hkept hfresh ?_⟩
    simp only [List.forall_mem_cons]
    exact ⟨hkept.hasList hvlist, hkept.hasList hwlist, hulist, fun x hx => by cases hx⟩
  -- Joining is associative up to equality, which is why floats are left out.
  associates v w x p q o r hv hw hx h hlists hfree := exists_equal_add rt hv hw hx h hlists hfree
  numbers v w i j hv hw := by
    have hrun (v w : Value) : ObjectOp.add.run [v, w] rt s = Request.ofMaking (s.add v w) s := rfl
    refine ⟨fun k hk => ?_, fun hrange => ?_, ?_⟩
    · have hsum : i.add? j = some k := by
        have hlower := k.lower
        have hupper := k.upper
        unfold HostInt.add? HostInt.ofInt?
        rw [dif_pos (by omega)]
        exact congrArg some (HostInt.ext hk.symm)
      rw [hrun, add_of_asInt? hv hw, hsum]
      rfl
    · have hsum : i.add? j = none := by
        unfold HostInt.add? HostInt.ofInt?
        exact dif_neg (by omega)
      rw [hrun, add_of_asInt? hv hw, hsum]
      rfl
    · rw [hrun, hrun, add_of_asInt? hv hw, add_of_asInt? hw hv, HostInt.add?, HostInt.add?, Int.add_comm]
  refused v w hvfloat hwfloat hnumber hrows := by
    show Request.ofMaking (s.add v w) s = _
    rw [add_eq_unsupported hvfloat hwfloat hnumber hrows]
    rfl

def oneList : Store := (({} : Store).newList #[.int 1]).2

/-- The list of `oneList` can be added to itself. -/
theorem addsExactly_oneList : ∃ (rt : Runtime) (u : Value) (s' : Store),
    ObjectOp.add.run [.list 0, .list 0] rt oneList = (.value u, s') ∧
      s'.row? u = some (.list #[.int 1, .int 1]) ∧ u ≠ .list 0 ∧
      oneList.Concatenates rt (.list 0) (.list 0) u s' := by
  have hrow : oneList.row? (.list 0) = some (.list #[.int 1]) := rfl
  have hlist : oneList.HasList (.list 0) := by
    rintro ref href
    obtain rfl := Value.list.inj href
    exact Nat.zero_lt_one
  obtain ⟨u, s', hrun, hu, hjoined⟩ := (addsExactly (Session.ofSetup {}).host.runtime oneList).joins
    _ _ _ _ _ hrow hrow rfl hlist hlist
  refine ⟨_, u, s', hrun, hu, fun h => ?_, hjoined⟩
  exact absurd (hjoined.fresh 0 h) (by decide)

end Store

end ObjectProtocol
