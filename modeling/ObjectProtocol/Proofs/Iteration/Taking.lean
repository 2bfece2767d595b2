import ObjectProtocol.Proofs.History
import ObjectProtocol.Proofs.Iteration.Advancing
import ObjectProtocol.Proofs.Iteration.Frame

/-!
# Taking from an iterator

Three operations advance iterators: two take one value, and `collect` takes all that are left, from the
iterator it is given or from the one that an instance hands out.  What an operation has taken shows in
its answer, and `ObjectOp.taken` reads it off there.  The lemmas say that the answers are those of the
iterator's own advances, for one operation, for a step and for a history.
-/

namespace ObjectProtocol

namespace ObjectOp

def advances? (op : ObjectOp) (operands : List Value) (rt : Runtime) (s : Store) : Option Ref :=
  match op, operands with
  | next, [.iterator ref] | nextOrRaise, [.iterator ref] => some ref
  | collect, [v] =>
    match s.iter rt v with
    | .ok (.given (.iterator ref)) => some ref
    | _ => none
  | _, _ => none

/-- The advances that an answer tells of, in order; `none` stands for the end. -/
def answered (op : ObjectOp) (answer : Request × Store) : List (Option Value) :=
  match op, answer.1 with
  | next, .value (.tuple _ items) => [items[0]?]
  | next, .value _ => [none]
  | nextOrRaise, .value v => [some v]
  | nextOrRaise, .raise _ => [none]
  | collect, .value (.list made) => (answer.2.listAt made).toList.map some ++ [none]
  | _, _ => []

/-- What the operation takes from the iterator at `ref`, by its answer. -/
def taken (op : ObjectOp) (operands : List Value) (ref : Ref) (rt : Runtime) (s : Store) :
    List (Option Value) :=
  if op.advances? operands rt s = some ref then op.answered (op.run operands rt s) else []

end ObjectOp

def Event.taken (ref : Ref) : Event → List (Option Value)
  | operation (.object op) operands s => op.taken operands ref s.host.runtime s.host.store
  | _ => []

/-! ## Advances of one value -/

namespace Store

variable {s : Store} {ref : Ref} {it : Iterator} {v : Value}

theorem next_iterator (hit : s.iterators.get? ref = some it) :
    s.next (.iterator ref) = .ok (it.advance.2, .iterator ref it.advance.1) := by
  unfold next
  dsimp only
  rw [iteratorAt_eq hit]

theorem get?_setIterator (hit : s.iterators.get? ref = some it) (it' : Iterator) :
    (s.setIterator ref it').iterators.get? ref = some it' := by
  show (s.iterators.set ref it').get? ref = _
  rw [Heap.get?_set, if_pos rfl, if_pos (lt_size_of_iterator hit)]

theorem get?_setIterator_of_ne {other : Ref} (hne : other ≠ ref) (it' : Iterator) :
    (s.setIterator other it').iterators.get? ref = s.iterators.get? ref := by
  show (s.iterators.set other it').get? ref = _
  rw [Heap.get?_set, if_neg hne]

theorem listAt_newList (s : Store) (items : Array Value) :
    (s.newList items).2.listAt s.lists.size = items := by
  show ((s.lists.push items).get? s.lists.size).getD #[] = items
  rw [Heap.get?_push, if_pos rfl, Option.getD_some]

theorem iterators_next_of_ne (hv : v ≠ .iterator ref) (hit : s.iterators.get? ref = some it) :
    Yields (fun r => (s.apply r.2).iterators.get? ref = some it) (s.next v) := by
  by_cases hiterator : ∃ other, v = .iterator other
  · obtain ⟨other, rfl⟩ := hiterator
    have hne : other ≠ ref := fun heq => hv (congrArg _ heq)
    exact .ok ((get?_setIterator_of_ne hne _).trans hit)
  · have hspares := s.spares_next (v := v) fun other heq => hiterator ⟨other, heq⟩
    intro r hr
    rw [iterators_apply (hspares r hr)]
    exact hit

/-! ## Advances until the end -/

theorem iterators_drain_of_ne (hv : v ≠ .iterator ref) (hit : s.iterators.get? ref = some it)
    (taken : Array Value) (n : Nat) : (s.drain v taken n).2.iterators.get? ref = some it := by
  induction n generalizing s taken with
  | zero => exact hit
  | succ n ih =>
    have hnext := iterators_next_of_ne hv hit
    unfold drain
    split
    · exact hit
    · exact hnext _ ‹_›
    · exact ih (hnext _ ‹_›) _

/-- With fuel for the end as well, `drain` takes all that remains, and then the end. -/
theorem gives_drain (hit : s.iterators.get? ref = some it) (taken : Array Value) (fuel : Nat) :
    ∃ given it', (s.drain (.iterator ref) taken fuel).2.iterators.get? ref = some it' ∧
      it.Gives given it' ∧
      ∀ n, it.At n → it.remaining < fuel → ∃ (items : Array Value) (values : List Value),
        (s.drain (.iterator ref) taken fuel).1 = .ok items ∧
        items.toList = taken.toList ++ values ∧ given = values.map some ++ [none] := by
  induction fuel generalizing s it taken with
  | zero => exact ⟨[], it, hit, .nil it, fun n _ hlt => absurd hlt (Nat.not_lt_zero _)⟩
  | succ fuel ih =>
    have hset := get?_setIterator hit it.advance.1
    unfold drain
    rw [next_iterator hit]
    cases hvalue : it.advance.2 with
    | none =>
      refine ⟨[none], it.advance.1, hset, hvalue ▸ .single it, fun n _ _ => ⟨taken, [], rfl, ?_, rfl⟩⟩
      rw [List.append_nil]
    | some v =>
      obtain ⟨given, it', hit', hgives, hend⟩ := ih hset (taken.push v)
      refine ⟨some v :: given, it', hit', hvalue ▸ .cons hgives, fun n hn hlt => ?_⟩
      -- One of what remains has been taken.
      obtain ⟨hnext, hcontent⟩ := hn.advance_eq
      rw [hvalue] at hcontent
      have hcount : n < it.contents.length := (List.getElem?_eq_some_iff.1 hcontent.symm).1
      have hsame : it.advance.1.contents = it.contents := Iterator.contents_congr rfl
      have hrest : it.advance.1.remaining < fuel := by
        rw [hnext.remaining_eq, hsame]
        rw [hn.remaining_eq] at hlt
        omega
      obtain ⟨items, values, hitems, hvalues, rfl⟩ := hend (n + 1) hnext hrest
      refine ⟨items, v :: values, hitems, ?_, rfl⟩
      rw [hvalues, Array.toList_push, List.append_assoc]
      rfl

theorem iter_iterator (s : Store) (rt : Runtime) (ref : Ref) :
    s.iter rt (.iterator ref) = .ok (.given (.iterator ref)) := by
  unfold iter
  rw [iterWithin.eq_def]

theorem collect_of_given {rt : Runtime} (h : s.iter rt v = .ok (.given (.iterator ref)))
    (hit : s.iterators.get? ref = some it) :
    s.collect rt v = s.drain (.iterator ref) #[] (it.remaining + 1) := by
  unfold collect
  rw [h]
  show s.drain (.iterator ref) #[] ((s.iteratorAt ref).remaining + 1) = _
  rw [iteratorAt_eq hit]

end Store

/-! ## Operations on objects -/

namespace ObjectOp

variable {op : ObjectOp} {operands : List Value} {rt : Runtime} {s : Store} {ref : Ref}
  {it : Iterator}

theorem keepsIterators_run (hop : op.isAdvance = false) (operands : List Value) (rt : Runtime)
    (s : Store) : s.KeepsIterators (op.run operands rt s).2 :=
  (op.editedBy_run operands rt s).keepsIterators fun _ _ h => h.sparesIterators hop

theorem taken_eq_nil (h : op.advances? operands rt s ≠ some ref) :
    op.taken operands ref rt s = [] := if_neg h

theorem taken_eq_answered (h : op.advances? operands rt s = some ref) :
    op.taken operands ref rt s = op.answered (op.run operands rt s) := if_pos h

theorem advances?_of_not_isAdvance (hop : op.isAdvance = false) (operands : List Value)
    (rt : Runtime) (s : Store) : op.advances? operands rt s = none := by
  unfold advances?
  split <;> first | rfl | contradiction

/-- The operation takes the advances `given` from the iterator at `ref`, which are those in `taken` if it
stands `At` some number of them. -/
def GivesBy (ref : Ref) (it : Iterator) (answer : Request × Store) (taken : List (Option Value)) :
    Prop :=
  ∃ given it', answer.2.iterators.get? ref = some it' ∧ it.Gives given it' ∧
    ∀ n, it.At n → given = taken

theorem givesBy_of_keeps {answer : Request × Store} (hit : answer.2.iterators.get? ref = some it) :
    GivesBy ref it answer [] := ⟨[], it, hit, .nil it, fun _ _ => rfl⟩

theorem givesBy_of_advance {answer : Request × Store}
    (hit : answer.2.iterators.get? ref = some it.advance.1) :
    GivesBy ref it answer [it.advance.2] := ⟨_, _, hit, .single it, fun _ _ => rfl⟩

theorem givesBy_single (hop : op = next ∨ op = nextOrRaise) (hit : s.iterators.get? ref = some it)
    (v : Value) : GivesBy ref it (op.run [v] rt s) (op.taken [v] ref rt s) := by
  by_cases hv : v = .iterator ref
  · subst hv
    have hset := Store.get?_setIterator hit it.advance.1
    have hnext := Store.next_iterator hit
    have hthis : op.advances? [.iterator ref] rt s = some ref := by
      rcases hop with rfl | rfl <;> rfl
    have hanswer : (op.run [.iterator ref] rt s).2.iterators.get? ref = some it.advance.1 ∧
        op.answered (op.run [.iterator ref] rt s) = [it.advance.2] := by
      rcases hop with rfl | rfl <;> unfold run <;> dsimp only <;> rw [hnext]
      · cases it.advance.2 <;> exact ⟨hset, rfl⟩
      · cases it.advance.2 <;> exact ⟨hset, rfl⟩
    rw [taken_eq_answered hthis, hanswer.2]
    exact givesBy_of_advance hanswer.1
  · -- Another value is advanced, or nothing, and this iterator stays where it is.
    have hother : op.advances? [v] rt s ≠ some ref := by
      rcases hop with rfl | rfl <;> cases v <;> intro h <;> cases h <;> exact hv rfl
    have hnext := Store.iterators_next_of_ne hv hit
    rw [taken_eq_nil hother]
    apply givesBy_of_keeps
    rcases hop with rfl | rfl <;> unfold run <;> dsimp only <;> split
    · exact hnext _ ‹_›
    · exact hnext _ ‹_›
    · exact hit
    · exact hnext _ ‹_›
    · exact hnext _ ‹_›
    · exact hit

theorem advances?_collect {v : Value} (h : collect.advances? [v] rt s = some ref) :
    s.iter rt v = .ok (.given (.iterator ref)) := by
  unfold advances? at h
  dsimp only at h
  split at h
  · cases h
    assumption
  · contradiction

theorem givesBy_collect (hit : s.iterators.get? ref = some it) (v : Value) :
    GivesBy ref it (collect.run [v] rt s) (collect.taken [v] ref rt s) := by
  cases hiter : s.iter rt v with
  | error e =>
    have hnone : collect.advances? [v] rt s ≠ some ref := by
      intro h
      rw [advances?_collect h] at hiter
      contradiction
    rw [taken_eq_nil hnone]
    apply givesBy_of_keeps
    unfold run Store.collect
    dsimp only
    rw [hiter]
    exact hit
  | ok sketch =>
    by_cases hsketch : sketch = .given (.iterator ref)
    · subst hsketch
      have hthis : collect.advances? [v] rt s = some ref := by
        unfold advances?
        dsimp only
        rw [hiter]
      obtain ⟨given, it', hit', hgives, hend⟩ := Store.gives_drain hit #[] (it.remaining + 1)
      have hcollect := Store.collect_of_given hiter hit
      refine ⟨given, it', ?_, hgives, fun n hn => ?_⟩
      · unfold run
        dsimp only
        rw [hcollect]
        split <;> rename_i heq <;> rw [heq] at hit' <;> exact hit'
      · obtain ⟨items, values, hitems, hvalues, rfl⟩ := hend n hn (Nat.lt_succ_self _)
        rw [taken_eq_answered hthis]
        unfold run
        dsimp only
        rw [hcollect]
        generalize s.drain (.iterator ref) #[] (it.remaining + 1) = drained at hitems
        obtain ⟨result, s'⟩ := drained
        dsimp only at hitems
        subst hitems
        -- The answer is the list that was made of what was taken.
        show values.map some ++ [none] =
          ((s'.newList items).2.listAt s'.lists.size).toList.map some ++ [none]
        rw [Store.listAt_newList, hvalues]
        rfl
    · have hother : collect.advances? [v] rt s ≠ some ref := by
        intro h
        rw [advances?_collect h] at hiter
        cases hiter
        exact hsketch rfl
      have hfresh : sketch.Fresh := s.fresh_iterWithin rt _ v sketch hiter
      have hbuilt := hfresh.keepsIterators_build s ref it hit
      have hne : (sketch.build s).1 ≠ .iterator ref := fun heq =>
        hsketch (Sketch.eq_given_of_build heq (Store.lt_size_of_iterator hit))
      have hdrain := Store.iterators_drain_of_ne hne hbuilt #[]
        ((sketch.build s).2.pending (sketch.build s).1 + 1)
      rw [taken_eq_nil hother]
      apply givesBy_of_keeps
      unfold run Store.collect
      dsimp only
      rw [hiter]
      dsimp only
      split <;> rename_i heq <;> rw [heq] at hdrain <;> exact hdrain

theorem givesBy_run (op : ObjectOp) (operands : List Value) (rt : Runtime)
    (hit : s.iterators.get? ref = some it) :
    GivesBy ref it (op.run operands rt s) (op.taken operands ref rt s) := by
  by_cases hop : op.isAdvance = true
  · match operands with
    | [v] =>
      cases op with
      | next => exact givesBy_single (Or.inl rfl) hit v
      | nextOrRaise => exact givesBy_single (Or.inr rfl) hit v
      | collect => exact givesBy_collect hit v
      | _ => contradiction
    | [] | _ :: _ :: _ =>
      -- Without just one operand it does not mean anything.
      cases op with
      | next | nextOrRaise | collect =>
        rw [taken_eq_nil (by simp [advances?])]
        exact givesBy_of_keeps (by unfold run; exact hit)
      | _ => contradiction
  · have hkeeps := keepsIterators_run (Bool.eq_false_iff.2 hop) operands rt s ref it hit
    have hnone := advances?_of_not_isAdvance (Bool.eq_false_iff.2 hop) operands rt s
    rw [taken_eq_nil (hnone ▸ (Option.some_ne_none ref).symm)]
    exact givesBy_of_keeps hkeeps

end ObjectOp

/-! ## Steps and histories -/

namespace Config

variable {c c' : Config} {ref : Ref} {it : Iterator}

theorem gives_step (hit : c.session.host.store.iterators.get? ref = some it) :
    ∃ given it', c.step.session.host.store.iterators.get? ref = some it' ∧ it.Gives given it' ∧
      ∀ n, it.At n → given = c.event?.toList.flatMap (Event.taken ref) := by
  have hready := c.keepsIterators_ready ref it hit
  rw [step_eq_advance]
  rcases c.event?_cases with ⟨op, operands, rest, hperforms, hevent⟩ | ⟨hnone, hevent⟩
  · -- The operation tells what it took, and a method that it asks for a length takes nothing.
    have htells : ∃ given it',
        (op.run operands c.ready.session).2.host.store.iterators.get? ref = some it' ∧
        it.Gives given it' ∧ ∀ n, it.At n → given = c.event?.toList.flatMap (Event.taken ref) := by
      rw [hevent]
      show ∃ given it', _ ∧ _ ∧
        ∀ n, it.At n → given = Event.taken ref (.operation op operands c.ready.session) ++ []
      rw [List.append_nil]
      cases op with
      | object op => exact op.givesBy_run operands _ hready
      | draw | declare | closure | session =>
        exact ⟨[], it, Op.keepsIterators_run (by simp) operands _ ref it hready, .nil it,
          fun _ _ => rfl⟩
    obtain ⟨given, it', hit', hgives, htaken⟩ := htells
    rcases hperforms.session_advance with heq | ⟨t, d, receiver, -, heq⟩
    · exact ⟨given, it', by rw [heq]; exact hit', hgives, htaken⟩
    · refine ⟨given, it', ?_, hgives, htaken⟩
      have hmethod := Host.editedBy_runMethod (op.run operands c.ready.session).2.host d receiver []
      rw [heq]
      exact hmethod.keepsIterators (fun _ _ hwrites => hwrites.sparesIterators) ref it' hit'
  · rw [hevent]
    exact ⟨[], it, keepsIterators_advance hnone ref it hready, .nil it, fun _ _ => rfl⟩

/-- `Event.taken` along a history are the advances of the iterator, each once and in order. -/
theorem History.gives {events : List Event} (h : c.History events c')
    (hit : c.session.host.store.iterators.get? ref = some it) :
    ∃ given it', c'.session.host.store.iterators.get? ref = some it' ∧ it.Gives given it' ∧
      ∀ n, it.At n → given = events.flatMap (Event.taken ref) := by
  induction h with
  | refl => exact ⟨[], it, hit, .nil it, fun _ _ => rfl⟩
  | @step events c' _ ih =>
    obtain ⟨given, it', hit', hgives, htaken⟩ := ih
    obtain ⟨given', it'', hit'', hgives', htaken'⟩ := gives_step hit'
    refine ⟨given ++ given', it'', hit'', hgives.append hgives', fun n hn => ?_⟩
    rw [List.flatMap_append, ← htaken n hn, ← htaken' _ (hgives.at hn)]
  | next e _ _ ih => exact ih
  -- A restart keeps the iterators, and takes nothing.
  | @restart events c' setup e _ _ ih =>
    obtain ⟨given, it', hit', hgives, htaken⟩ := ih
    refine ⟨given, it', c'.session.keepsIterators_restart setup ref it' hit', hgives, fun n hn => ?_⟩
    rw [List.flatMap_append, ← htaken n hn]
    exact (List.append_nil given).symm

end Config

end ObjectProtocol
