import ObjectProtocol.Iterator

/-!
# Advancing an iterator

An iterator is as good as the list of its values and the number of times it has been advanced:
`Iterator.At` says where its cursor stands after that many advances, the advance that signalled the end
and those after it included.  `Iterator.Gives` relates an iterator to what advances give one after the
other; from the values and the place alone follows what is given, and what remains.
-/

namespace ObjectProtocol

/-- The items that positions can name: all of them, unless there are `2 ^ 63` or more. -/
def countable (xs : List Value) : List Value := xs.take NativeInt.largest.val.toNat

theorem countable_eq_self {xs : List Value} (h : xs.length ≤ NativeInt.largest.val.toNat) :
    countable xs = xs := List.take_of_length_le h

/-- The integers below a bound, from 0 on. -/
def below (bound : NativeInt) : List Value :=
  (List.range bound.val.toNat).map fun n => .ofNative (.ofCount n)

@[simp] theorem length_below (bound : NativeInt) : (below bound).length = bound.val.toNat := by
  rw [below, List.length_map, List.length_range]

theorem countable_below (bound : NativeInt) : countable (below bound) = below bound := by
  refine countable_eq_self ?_
  rw [length_below]
  have hupper := bound.upper
  show bound.val.toNat ≤ 0x7fffffffffffffff
  omega

theorem NativeInt.toNat_ofCount (n : Nat) :
    (ofCount n).val.toNat = min largest.val.toNat n := by
  show _ = min 0x7fffffffffffffff n
  by_cases hn : (n : Int) < 0x8000000000000000
  · rw [val_ofCount_of_lt hn]
    omega
  · have hnone : ofInt? (n : Int) = none := dif_neg fun h => hn h.2
    rw [ofCount, hnone]
    show (0x7fffffffffffffff : Int).toNat = _
    omega

theorem Cursor.step_of_lt {p q bound : NativeInt} (h : p.val < bound.val) (hq : q.val = p.val + 1) :
    (active p).step bound = (active q, some p) := by
  unfold step
  dsimp only
  rw [dif_pos h]
  exact congrArg (fun next => (active next, some p)) (NativeInt.ext hq.symm)

namespace Iterator

/-- The values of the iterator from its beginning on. -/
def contents (it : Iterator) : List Value :=
  match it.source with
  | .positions bound => below bound
  | .items snapshot => countable snapshot.toList

theorem length_contents (it : Iterator) : it.contents.length = it.bound.val.toNat := by
  unfold contents bound
  cases it.source with
  | positions bound => exact length_below bound
  | items snapshot =>
    show (snapshot.toList.take NativeInt.largest.val.toNat).length = _
    rw [List.length_take, Array.length_toList]
    exact (NativeInt.toNat_ofCount snapshot.size).symm

theorem contents_congr {it it' : Iterator} (h : it'.source = it.source) :
    it'.contents = it.contents := by
  unfold contents
  rw [h]

/-- The iterator has been advanced `n` times. -/
def At (it : Iterator) (n : Nat) : Prop :=
  it.cursor = if n ≤ it.contents.length then .active (.ofCount n) else .exhausted

variable {it it' it'' : Iterator} {n : Nat}

theorem val_ofCount_of_le (h : n ≤ it.contents.length) : (NativeInt.ofCount n).val = n := by
  have hupper := it.bound.upper
  rw [length_contents] at h
  exact NativeInt.val_ofCount_of_lt (by omega)

theorem At.remaining_eq (h : it.At n) : it.remaining = it.contents.length - n := by
  unfold At at h
  unfold remaining
  rw [h]
  by_cases hn : n ≤ it.contents.length
  · rw [if_pos hn]
    -- The position is not negative, so the difference does not saturate.
    have hval := val_ofCount_of_le hn
    have hupper := it.bound.upper
    have hlower := it.bound.lower
    have hlength := it.length_contents
    unfold NativeInt.saturatingSub NativeInt.saturate
    dsimp only
    rw [hval]
    omega
  · rw [if_neg hn]
    dsimp only
    omega

theorem valueAt_eq (h : n < it.contents.length) :
    it.valueAt (.ofCount n) = it.contents[n]? := by
  have hval : (NativeInt.ofCount n).val = n := val_ofCount_of_le (Nat.le_of_lt h)
  unfold valueAt contents at *
  cases hsource : it.source with
  | positions bound =>
    rw [hsource] at h
    dsimp only at h ⊢
    rw [length_below] at h
    rw [below, List.getElem?_map, List.getElem?_range h]
    rfl
  | items snapshot =>
    rw [hsource] at h
    dsimp only at h ⊢
    rw [countable, List.length_take] at h
    -- The position is a place of the snapshot, and `countable` has not cut it off.
    rw [if_neg (by omega), hval, Int.toNat_natCast, countable, List.getElem?_take_of_lt (by omega),
      Array.getElem?_toList]

/-- `advance` gives the value at the place, or `none` past the last one, and moves on. -/
theorem At.advance_eq (h : it.At n) :
    it.advance.1.At (n + 1) ∧ it.advance.2 = it.contents[n]? := by
  have hsame : it.advance.1.contents = it.contents := contents_congr rfl
  unfold At at h ⊢
  rw [hsame]
  unfold advance
  rw [h]
  by_cases hn : n < it.contents.length
  · have hval : (NativeInt.ofCount n).val = n := val_ofCount_of_le (Nat.le_of_lt hn)
    have hnext : (NativeInt.ofCount (n + 1)).val = (n + 1 : Nat) := val_ofCount_of_le hn
    have hbound : (NativeInt.ofCount n).val < it.bound.val := by
      have hlength := it.length_contents
      omega
    rw [if_pos (Nat.le_of_lt hn), Cursor.step_of_lt hbound (q := .ofCount (n + 1)) (by omega),
      if_pos (show n + 1 ≤ it.contents.length from hn)]
    exact ⟨rfl, valueAt_eq hn⟩
  · -- The end was signalled before, or is now.
    have hstep : (if n ≤ it.contents.length then Cursor.active (.ofCount n) else .exhausted).step
        it.bound = (.exhausted, none) := by
      split
      · rename_i hle
        have hval : (NativeInt.ofCount n).val = n := val_ofCount_of_le hle
        have hlength := it.length_contents
        exact Cursor.step_of_le (by omega)
      · exact Cursor.step_exhausted _
    rw [hstep, if_neg (by omega), List.getElem?_eq_none (Nat.le_of_not_lt hn)]
    exact ⟨rfl, rfl⟩

theorem at_zero (h : it.cursor = .active 0) : it.At 0 := by
  unfold At
  rw [if_pos (Nat.zero_le _)]
  exact h

/-! ## Advancing several times -/

/-- Advances give these values one after the other, `none` for the end, and lead to the second iterator.
-/
inductive Gives : Iterator → List (Option Value) → Iterator → Prop
  | nil (it : Iterator) : Gives it [] it
  | cons {it it' : Iterator} {given : List (Option Value)} : Gives it.advance.1 given it' →
    Gives it (it.advance.2 :: given) it'

variable {given given' : List (Option Value)}

theorem Gives.single (it : Iterator) : it.Gives [it.advance.2] it.advance.1 := .cons (.nil _)

theorem Gives.append (h : it.Gives given it') (h' : it'.Gives given' it'') :
    it.Gives (given ++ given') it'' := by
  induction h with
  | nil => exact h'
  | cons _ ih => exact .cons (ih h')

theorem Gives.type_eq (h : it.Gives given it') : it'.type = it.type := by
  induction h with
  | nil => rfl
  | cons _ ih => exact ih

theorem Gives.contents_eq (h : it.Gives given it') : it'.contents = it.contents := by
  induction h with
  | nil => rfl
  | cons _ ih => exact ih.trans (contents_congr rfl)

theorem Gives.at (h : it.Gives given it') (hn : it.At n) : it'.At (n + given.length) := by
  induction h generalizing n with
  | nil => exact hn
  | cons _ ih =>
    rw [List.length_cons, Nat.add_comm _ 1, ← Nat.add_assoc]
    exact ih hn.advance_eq.1

/-- What is given are the `contents` from the place on, each once and in order, and `none` past the last
one. -/
theorem Gives.given_eq (h : it.Gives given it') (hn : it.At n) :
    given = (List.range' n given.length).map (it.contents[·]?) := by
  induction h generalizing n with
  | nil => rfl
  | @cons it it' given _ ih =>
    obtain ⟨hat, hvalue⟩ := hn.advance_eq
    rw [List.length_cons, List.range'_succ, List.map_cons, ← hvalue]
    exact congrArg _ (ih hat)

end Iterator

end ObjectProtocol
