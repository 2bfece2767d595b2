import ObjectProtocol.Proofs.Iteration.Taking

/-!
# Snapshots

An iterator is made around the items that its source has at the time, and its source is not looked at
again.  `Store.Items` says what the items of a value are and `ObjectOp.Iterates` which operations make an
iterator around which items; `Store.Walks` counts how often an iterator has been advanced, and that alone
decides what comes next.
-/

namespace ObjectProtocol

/-- What `iter` walks over for a value. An instance counts up to its first field if its `IterSlot` does;
the iterators of a counter have a type of their own, which has to be registered. -/
inductive Store.Items (rt : Runtime) (s : Store) : Value → List Value → Prop
  | tuple (id : Identity) (items : Array Value) : Items rt s (.tuple id items) items.toList
  | list (ref : Ref) : Items rt s (.list ref) (s.listAt ref).toList
  | dict (ref : Ref) : Items rt s (.dict ref) (s.dictAt ref).keys.toList
  | str (id : Identity) (text : String) : Items rt s (.str id text)
    (text.toList.mapIdx fun i c => .str (s.nextId + i) (String.singleton c))
  | positions {ref : Ref} {t : TypeObject} {bound : NativeInt} :
    s.live (s.instanceAt ref).type = .ok t → t.findSlot? (·.iter) = some .positions →
    (s.instanceAt ref).readInt 0 = .ok bound → Items rt s (.object ref) (below bound)
  | counter {ref : Ref} {t u : TypeObject} {bound : NativeInt} :
    s.live (s.instanceAt ref).type = .ok t → t.findSlot? (·.iter) = some .counter →
    rt.registry.named? Sample.counterIteratorName = some u →
    (s.instanceAt ref).readInt 0 = .ok bound → Items rt s (.object ref) (below bound)

/-- The operation answers with a fresh iterator: around the `Items` of its operand, those `below` a bound,
or those it is given. -/
inductive ObjectOp.Iterates (rt : Runtime) (s : Store) : ObjectOp → List Value → List Value → Prop
  | iter {v : Value} {xs : List Value} : s.Items rt v xs → Iterates rt s .iter [v] xs
  | iterBound (bound : NativeInt) (t : TypeObject) :
    Iterates rt s (.iterBound bound) [.type t] (below bound)
  | iterItems (t : TypeObject) (items : List Value) : Iterates rt s .iterItems (.type t :: items) items

/-- The iterator at `ref` has `contents` `xs` and has been advanced `n` times. -/
def Store.Walks (s : Store) (ref : Ref) (xs : List Value) (n : Nat) : Prop :=
  ∃ it, s.iterators.get? ref = some it ∧ it.contents = xs ∧ it.At n

/-! ## What comes next -/

theorem eq_drop_of_given {values xs : List Value} {n : Nat}
    (h : values.map some ++ [none] = (List.range' n (values.length + 1)).map (xs[·]?)) :
    values = xs.drop n := by
  have hgiven (i : Nat) (hi : i < values.length + 1) :
      (values.map some ++ [none])[i]? = some xs[n + i]? := by
    rw [h, List.getElem?_map, List.getElem?_range' hi, Option.map_some, Nat.one_mul]
  apply List.ext_getElem?
  intro i
  rw [List.getElem?_drop]
  by_cases hi : i < values.length
  · have hvalue := hgiven i (Nat.lt_succ_of_lt hi)
    rw [List.getElem?_append_left (by rwa [List.length_map]), List.getElem?_map,
      List.getElem?_eq_getElem hi] at hvalue
    rw [List.getElem?_eq_getElem hi]
    exact Option.some.inj hvalue
  · -- There is nothing after the end.
    have hend := hgiven values.length (Nat.lt_succ_self _)
    rw [List.getElem?_append_right (Nat.le_of_eq (List.length_map _)), List.length_map,
      Nat.sub_self] at hend
    have hlength : xs.length ≤ n + values.length :=
      List.getElem?_eq_none_iff.1 (Option.some.inj hend).symm
    rw [List.getElem?_eq_none (Nat.le_of_not_lt hi), List.getElem?_eq_none (by omega)]

namespace Store.Walks

variable {s : Store} {ref : Ref} {xs : List Value} {n : Nat}

theorem remaining_eq (h : s.Walks ref xs n) :
    (s.iterators.get? ref).map (·.remaining) = some (xs.length - n) := by
  obtain ⟨it, hit, rfl, hn⟩ := h
  rw [hit]
  exact congrArg some hn.remaining_eq

theorem next_eq (h : s.Walks ref xs n) :
    ∃ it, s.next (.iterator ref) = .ok (xs[n]?, .iterator ref it) := by
  obtain ⟨it, hit, rfl, hn⟩ := h
  refine ⟨it.advance.1, ?_⟩
  rw [next_iterator hit, hn.advance_eq.2]

theorem run_next (h : s.Walks ref xs n) (rt : Runtime) :
    ∃ id s', ObjectOp.next.run [.iterator ref] rt s =
      (.value (xs[n]?.elim .null fun v => .tuple id #[v]), s') := by
  obtain ⟨it, hnext⟩ := h.next_eq
  unfold ObjectOp.run
  dsimp only
  rw [hnext]
  cases xs[n]? with
  | none => exact ⟨0, _, rfl⟩
  | some v => exact ⟨_, _, rfl⟩

theorem run_nextOrRaise (h : s.Walks ref xs n) (rt : Runtime) :
    ∃ s', ObjectOp.nextOrRaise.run [.iterator ref] rt s =
      (xs[n]?.elim (.raise ⟨.stopIteration, ""⟩) .value, s') := by
  obtain ⟨it, hnext⟩ := h.next_eq
  unfold ObjectOp.run
  dsimp only
  rw [hnext]
  cases xs[n]? with
  | none => exact ⟨_, rfl⟩
  | some v => exact ⟨_, rfl⟩

/-- `collect` on an iterator takes all that is left. -/
theorem run_collect (h : s.Walks ref xs n) (rt : Runtime) :
    ∃ made s', ObjectOp.collect.run [.iterator ref] rt s = (.value (.list made), s') ∧
      (s'.listAt made).toList = xs.drop n := by
  obtain ⟨it, hit, rfl, hn⟩ := h
  -- The fuel is one more than what remains, so the drain reaches the end.
  obtain ⟨given, it', -, hgives, hend⟩ := gives_drain hit #[] (it.remaining + 1)
  obtain ⟨items, values, hitems, hvalues, rfl⟩ := hend n hn (Nat.lt_succ_self _)
  have hcollect := collect_of_given (s.iter_iterator rt ref) hit
  generalize s.drain (.iterator ref) #[] (it.remaining + 1) = drained at hitems hcollect
  obtain ⟨result, s'⟩ := drained
  dsimp only at hitems
  subst hitems
  refine ⟨s'.lists.size, (s'.newList items).2, ?_, ?_⟩
  · unfold ObjectOp.run
    dsimp only
    rw [hcollect]
    rfl
  · rw [listAt_newList, hvalues]
    have hgiven := hgives.given_eq hn
    rw [List.length_append, List.length_map] at hgiven
    exact eq_drop_of_given hgiven

end Store.Walks

/-! ## Making an iterator -/

section Making

variable {rt : Runtime} {s : Store} {v : Value} {xs : List Value}

theorem Store.walks_newIterator (s : Store) {it : Iterator} (h : it.cursor = .active 0) :
    (s.newIterator it).2.Walks s.iterators.size it.contents 0 := by
  refine ⟨it, ?_, rfl, Iterator.at_zero h⟩
  show (s.iterators.push it).get? s.iterators.size = some it
  rw [Heap.get?_push, if_pos rfl]

theorem Store.Items.exists_iter (h : s.Items rt v xs) :
    ∃ sketch ref, s.iter rt v = .ok sketch ∧ (sketch.build s).1 = .iterator ref ∧
      (sketch.build s).2.Walks ref (countable xs) 0 := by
  unfold Store.iter
  rw [iterWithin.eq_def]
  cases h with
  | tuple | list | dict => exact ⟨_, _, rfl, rfl, s.walks_newIterator rfl⟩
  | str id text =>
    refine ⟨_, _, rfl, rfl, ?_⟩
    exact (s.newCharacters text).2.walks_newIterator rfl
  | @positions ref t bound hlive hslot hbound =>
    refine ⟨.iterator { type := rt.builtin .iterator, source := .positions bound }, _, ?_, rfl, ?_⟩
    · dsimp only
      rw [hlive]
      dsimp only
      rw [hslot]
      unfold IterSlot.run
      rw [hbound]
      rfl
    · rw [countable_below]
      exact s.walks_newIterator rfl
  -- The iterator is of the registered type, and not of the built-in one.
  | @counter ref t u bound hlive hslot hnamed hbound =>
    refine ⟨.iterator { type := u, source := .positions bound }, _, ?_, rfl, ?_⟩
    · dsimp only
      rw [hlive]
      dsimp only
      rw [hslot]
      unfold IterSlot.run
      dsimp only
      rw [hnamed, hbound]
      rfl
    · rw [countable_below]
      exact s.walks_newIterator rfl

theorem ObjectOp.Iterates.exists_run {op : ObjectOp} {operands : List Value}
    (h : op.Iterates rt s operands xs) :
    ∃ ref s', op.run operands rt s = (.value (.iterator ref), s') ∧ s'.Walks ref (countable xs) 0 := by
  cases h with
  | iter hitems =>
    obtain ⟨sketch, ref, hiter, hvalue, hwalks⟩ := hitems.exists_iter
    refine ⟨ref, (sketch.build s).2, ?_, hwalks⟩
    unfold ObjectOp.run
    dsimp only
    rw [hiter]
    show (Request.value (sketch.build s).1, (sketch.build s).2) = _
    rw [hvalue]
  | iterBound bound t =>
    rw [countable_below]
    exact ⟨_, _, rfl, s.walks_newIterator rfl⟩
  | iterItems t items => exact ⟨_, _, rfl, s.walks_newIterator rfl⟩

end Making

namespace Config

variable {c c' : Config} {op : ObjectOp} {operands xs : List Value} {rest : List Frame} {ref : Ref}
  {n : Nat}

theorem walks_ready (h : c.session.host.store.Walks ref xs n) :
    c.ready.session.host.store.Walks ref xs n := by
  obtain ⟨it, hit, hwalk⟩ := h
  exact ⟨it, c.keepsIterators_ready ref it hit, hwalk⟩

/-- `Event.taken` along a history tells how far an iterator has come, and nothing else moves it. -/
theorem History.walks {events : List Event} (h : c.History events c')
    (hwalks : c.session.host.store.Walks ref xs n) :
    c'.session.host.store.Walks ref xs (n + (events.flatMap (Event.taken ref)).length) ∧
    events.flatMap (Event.taken ref) =
      (List.range' n (events.flatMap (Event.taken ref)).length).map (xs[·]?) := by
  obtain ⟨it, hit, rfl, hn⟩ := hwalks
  obtain ⟨given, it', hit', hgives, htaken⟩ := h.gives hit
  rw [← htaken n hn]
  exact ⟨⟨it', hit', hgives.contents_eq, hgives.at hn⟩, hgives.given_eq hn⟩

/-! ## Main result -/

/-- An operation that `Iterates` over items answers with a fresh iterator, and along every later `History`
the values taken from it are `countable` of the items as they were, each once and in order, and then the
end at every attempt. `countable` is the identity on fewer than `2 ^ 63` items. -/
theorem snapshots_yielded_once (hperforms : c.Performs (.object op) operands rest)
    (hiterates : op.Iterates c.ready.session.host.runtime c.ready.session.host.store operands xs) :
    ∃ ref, c.step.control = .give (.iterator ref) ∧
      ∀ events c', c.step.History events c' →
        let given := events.flatMap (Event.taken ref)
        given = (List.range given.length).map ((countable xs)[·]?) ∧
        (c'.session.host.store.iterators.get? ref).map (·.remaining) =
          some ((countable xs).length - given.length) ∧
        (∀ rest, c'.Performs (.object .next) [.iterator ref] rest → ∃ id,
          c'.step.control =
            .give ((countable xs)[given.length]?.elim .null fun v => .tuple id #[v])) ∧
        (∀ rest, c'.Performs (.object .nextOrRaise) [.iterator ref] rest →
          c'.step.control =
            (countable xs)[given.length]?.elim (.raise ⟨.stopIteration, ""⟩) .give) ∧
        (∀ rest, c'.Performs (.object .collect) [.iterator ref] rest → ∃ made,
          c'.step.control = .give (.list made) ∧
          (c'.step.session.host.store.listAt made).toList = (countable xs).drop given.length) := by
  obtain ⟨ref, s', hrun, hwalks⟩ := hiterates.exists_run
  have hstep := hperforms.step_of_value (Op.run_object_of_eq hrun)
  refine ⟨ref, by rw [hstep], fun events c' hhistory => ?_⟩
  have hstart : c.step.session.host.store.Walks ref (countable xs) 0 := by
    rw [hstep]
    exact hwalks
  -- Whatever the history does, the iterator is as far as its entries tell.
  obtain ⟨hlater, hgiven⟩ := hhistory.walks hstart
  rw [Nat.zero_add] at hlater
  have hready := walks_ready hlater
  dsimp only
  refine ⟨?_, hlater.remaining_eq, fun rest hnext => ?_, fun rest hnext => ?_, fun rest hcollect => ?_⟩
  · rw [List.range_eq_range']
    exact hgiven
  · obtain ⟨id, s', hrun⟩ := hready.run_next c'.ready.session.host.runtime
    exact ⟨id, by rw [hnext.step_of_value (Op.run_object_of_eq hrun)]⟩
  · obtain ⟨s', hrun⟩ := hready.run_nextOrRaise c'.ready.session.host.runtime
    cases hitem : (countable xs)[(events.flatMap (Event.taken ref)).length]? with
    | none =>
      rw [hitem] at hrun
      rw [hnext.step_of_raise (Op.run_object_of_eq hrun)]
      rfl
    | some v =>
      rw [hitem] at hrun
      rw [hnext.step_of_value (Op.run_object_of_eq hrun)]
      rfl
  · obtain ⟨made, s', hrun, hlist⟩ := hready.run_collect c'.ready.session.host.runtime
    refine ⟨made, ?_, ?_⟩ <;> rw [hcollect.step_of_value (Op.run_object_of_eq hrun)]
    exact hlist

/-- Appends to a list that is being iterated over, and goes to the end. -/
def appending : Config :=
  { control := .eval (.seq
      [.apply (.session (.setVariable "l")) [.apply (.object .list) [.int 1]],
        .apply (.session (.setVariable "i"))
          [.apply (.object .iter) [.apply (.session (.getVariable "l")) []]],
        .apply (.object .push) [.apply (.session (.getVariable "l")) [], .int 0],
        .apply (.object .nextOrRaise) [.apply (.session (.getVariable "i")) []],
        .apply (.object .nextOrRaise) [.apply (.session (.getVariable "i")) []]])
    session := .ofSetup { sample := false } }

/-- The item appended after `iter` is not among those that are given. -/
theorem snapshots_yielded_once_appending :
    ((appending.after 30).session.host.store.listAt 0).toList = [.int 1, .int 0] ∧
      ((appending.after 13).eventsOf 17).flatMap (Event.taken 0) = [some (.int 1)] ∧
      (appending.after 31).control = .raise ⟨.stopIteration, ""⟩ := by
  have hperforms : (appending.after 12).Performs (.object .iter) [Value.list 0].reverse _ :=
    .operands rfl rfl
  have hiterates : ObjectOp.Iterates (appending.after 12).ready.session.host.runtime
      (appending.after 12).ready.session.host.store .iter [.list 0] [.int 1] := .iter (.list 0)
  obtain ⟨ref, hgive, hlater⟩ := snapshots_yielded_once hperforms hiterates
  obtain rfl : 0 = ref := Value.iterator.inj (Control.give.inj hgive)
  have hhistory := history_after (appending.after 12).step 17
  have hend : (appending.after 30).Performs (.object .nextOrRaise) [Value.iterator 0].reverse [] :=
    .operands rfl rfl
  exact ⟨rfl, rfl, (hlater _ _ hhistory).2.2.2.1 _ hend⟩

end Config

end ObjectProtocol
