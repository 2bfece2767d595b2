import ObjectProtocol.Call
import ObjectProtocol.Proofs.Provenance.Operations

/-!
# Fresh iterators

An iterator begins at position 0.  `Sketch.Fresh` says of what is to be made that its iterators stand at
their beginnings, and so do all that operations and native routines answer with: what they hand out
otherwise is there already.
-/

namespace ObjectProtocol

/-- The iterators that `build` makes stand at their beginnings. -/
inductive Sketch.Fresh : Sketch → Prop
  | given (v : Value) : Fresh (.given v)
  | text (s : String) : Fresh (.text s)
  | tuple {items : List Sketch} : (∀ item ∈ items, Fresh item) → Fresh (.tuple items)
  | dict {entries : List (String × Sketch)} : (∀ entry ∈ entries, Fresh entry.2) →
    Fresh (.dict entries)
  | tupleOf (items : Array Value) : Fresh (.tupleOf items)
  | listOf (items : Array Value) : Fresh (.listOf items)
  | method (receiver : Value) (d : Descriptor) : Fresh (.method receiver d)
  | iterator {it : Iterator} : it.cursor = .active 0 → Fresh (.iterator it)
  | characters (t : TypeObject) (text : String) : Fresh (.characters t text)

theorem Sketch.Fresh.of_within {P : Realm} {sketch : Sketch} (h : sketch.Within P)
    (hnone : ∀ t, ¬ P.type t) : sketch.Fresh := by
  induction h with
  | given => exact .given _
  | text => exact .text _
  | tuple _ ih => exact .tuple ih
  | dict _ ih => exact .dict ih
  | tupleOf => exact .tupleOf _
  | listOf => exact .listOf _
  | method => exact .method _ _
  | iterator hit => exact absurd hit.type (hnone _)
  | characters => exact .characters _ _

/-- A sketch that is `Within` every realm needs no types, and so no iterators. -/
theorem Sketch.Fresh.of_forall_within {sketch : Sketch} (h : ∀ P : Realm, sketch.Within P) :
    sketch.Fresh := of_within (h { type := fun _ => False }) fun _ => id

namespace Store

theorem fresh_getAttr (s : Store) (target : Value) (name : String) :
    Yields Sketch.Fresh (s.getAttr target name) := by
  unfold getAttr
  split
  -- An instance, of a live type: a member, a method, or an attribute of its own
  · split
    · exact .error _
    · split
      · split
        · exact .ok (.given _)
        · exact .error _
      · exact .ok (.method _ _)
      · exact .ok (.given _)
      · exact .error _
  -- A type: its name, its documentation or its base
  · rename_i t
    split
    · exact .ok (.text _)
    · split
      · refine .ok ?_
        cases t.own.doc with
        | none => exact .given _
        | some doc => exact .text _
      · split
        · exact .ok (.given _)
        · exact .error _
  · exact .error _

end Store

theorem IterSlot.fresh_run (slot : IterSlot) (rt : Runtime) (i : Instance)
    {inside : Value → Except Exception Sketch} (hinside : ∀ v, Yields Sketch.Fresh (inside v)) :
    Yields Sketch.Fresh (slot.run rt i inside) := by
  cases slot with
  | positions => exact .mapError (.bind (.any _) fun bound _ => .ok (.iterator rfl))
  | ofObject => exact .bind (.any _) fun content _ => .mapError (hinside _)
  | rawObject => exact .mapError (.bind (.any _) fun content _ => .ok (.given _))
  | counter =>
    refine .mapError ?_
    split
    · exact .error _
    · exact .bind (.any _) fun bound _ => .ok (.iterator rfl)

namespace Store

variable {s : Store}

theorem fresh_iterWithin (s : Store) (rt : Runtime) (n : Nat) (v : Value) :
    Yields Sketch.Fresh (s.iterWithin rt n v) := by
  induction n using Nat.strongRecOn generalizing v with
  | ind n ih =>
    unfold iterWithin
    split
    · exact .ok (.given _)
    -- Tuples, lists, dictionaries and text
    · exact .ok (.iterator rfl)
    · exact .ok (.iterator rfl)
    · exact .ok (.iterator rfl)
    · exact .ok (.characters _ _)
    -- An instance may hand on to what it holds, which costs one of the `n` levels.
    · dsimp only
      split
      · exact .error _
      · split
        · rename_i slot _
          refine .mapError (slot.fresh_run rt _ fun inner => ?_)
          split
          · exact .error _
          · exact ih _ (Nat.lt_succ_self _) inner
        · split
          · exact .ok (.given _)
          · exact .error _
    · exact .error _

theorem fresh_add (s : Store) (v w : Value) : Yields Sketch.Fresh (s.add v w) := by
  unfold add
  split
  · split
    · exact .ok (.given _)
    · exact .error _
  · split
    · exact .ok (.given _)
    · split
      · exact .ok (.given _)
      · exact .error _
    · split
      · exact .ok (.given _)
      · exact .error _
    · exact .ok (.text _)
    · exact .ok (.tupleOf _)
    · exact .ok (.listOf _)
    · exact .error _

end Store

theorem ObjectOp.Makes.fresh {op : ObjectOp} {operands : List Value} {rt : Runtime} {s : Store}
    {sketch : Sketch} (h : op.Makes rt s operands sketch) : sketch.Fresh := by
  cases h with
  | tuple => exact .tupleOf _
  | list => exact .listOf _
  | getAttr h => exact s.fresh_getAttr _ _ _ h
  | bind => exact .method _ _
  | iter h => exact s.fresh_iterWithin rt _ _ _ h
  | add h => exact s.fresh_add _ _ _ h
  | positions | items => exact .iterator rfl
  | text text => exact .text text
  | views => exact .of_forall_within fun _ => Sketch.within_ofViews _
  | find => exact .of_forall_within fun _ => Sketch.within_ofFind _ _
  | typeInfo => exact .of_forall_within fun _ => Sketch.within_ofType _

/-! ## Routines -/

def Answer.Fresh : Answer → Prop
  | .value sketch => sketch.Fresh
  | .call .. => True

theorem StockRoutine.fresh_run (r : StockRoutine) (s : Store) (a : Args) :
    Yields Answer.Fresh (r.run s a) := by
  cases r with
  | values | narrowed => exact .ok (Sketch.Fresh.tupleOf _)
  | first => exact .mapError (.bind (.any _) fun _ _ => .ok (Sketch.Fresh.given _))
  | text => exact .mapError (.bind (.any _) fun _ _ => .ok (Sketch.Fresh.text _))
  | extract => exact .mapError (.bind (.any _) fun _ _ => .ok (Sketch.Fresh.given _))
  | fail => exact .mapError (.bind (.any _) fun _ _ => .error _)
  | raise => exact .bind (.any _) fun _ _ => .bind (.any _) fun _ _ => .error _
  | invoke => exact .bind (.any _) fun _ _ => .map fun _ _ => trivial

theorem InstanceRoutine.fresh_run (r : InstanceRoutine) (ref : Ref) (i : Instance) (a : Args) :
    Yields (fun r => r.1.Fresh) (r.run ref i a) := by
  cases r with
  | receiver => exact .ok (Sketch.Fresh.given _)
  | info =>
    refine .ok (Sketch.Fresh.tuple ?_)
    simp only [List.forall_mem_cons]
    exact ⟨.text _, .given _, .given _, by simp⟩
  | getInt | getObject =>
    exact .bind (.any _) fun _ _ => .bind (.any _) fun _ _ => .ok (Sketch.Fresh.given _)
  | setInt =>
    exact .bind (.any _) fun _ _ => .bind (.any _) fun _ _ => .bind (.any _) fun _ _ =>
      .ok (Sketch.Fresh.given _)
  | setObject =>
    exact .bind (.any _) fun _ _ => .bind (.any _) fun _ _ => .ok (Sketch.Fresh.given _)

theorem SampleFunction.fresh_run (f : SampleFunction) (h : Host) (a : Args) :
    Yields Answer.Fresh (f.run h a).1 := by
  have hid : Yields Answer.Fresh ((failing (Sample.idCheck a)).map .given) :=
    .map fun _ _ => Sketch.Fresh.given _
  cases f with
  | typ => exact .bind (.any _) fun _ _ => .bind (.any _) fun _ _ => .ok (Sketch.Fresh.given _)
  | raiseExc | forgetRaise => exact .error _
  | idCheck => exact hid
  | randomFail =>
    unfold run
    dsimp only
    split
    · exact hid
    · exact .error _
  | returnTrue | returnFalse | returnBool | returnNone => exact .ok (Sketch.Fresh.given _)
  | vsum | vsum2 => exact .map fun _ _ => Sketch.Fresh.given _

theorem FunctionRoutine.fresh_run (r : FunctionRoutine) (h : Host) (a : Args) :
    Yields Answer.Fresh (r.run h a).1 := by
  cases r with
  | stock r => exact r.fresh_run h.store a
  | sample f => exact f.fresh_run h a

theorem Record.fresh_toDict (r : Record) : r.toDict.Fresh := by
  refine .dict fun entry hentry => ?_
  obtain ⟨field, -, rfl⟩ := List.mem_map.1 hentry
  exact .given _

theorem Host.fresh_answer (h : Host) {x : Except NativeError (Answer × Change)}
    (hx : Yields (fun r => r.1.Fresh) x) : Yields Answer.Fresh (h.answer x).1 := by
  cases x with
  | ok r => exact .ok (hx r rfl)
  | error e => exact .error e

theorem BoxMethod.fresh_run (m : BoxMethod) (h : Host) (ref : Ref) (a : Args) :
    Yields Answer.Fresh (m.run h ref a).1 := by
  cases m with
  | getContents | getCounter => exact .map fun _ _ => Sketch.Fresh.given _
  | getData => exact .map fun _ _ => Sketch.Fresh.tupleOf _
  | brokenGetData =>
    refine .map fun sketch hsketch => ?_
    refine Yields.mapError (Q := Sketch.Fresh) (.bind (.any _) fun r _ => ?_) sketch hsketch
    exact .map fun _ _ => .tupleOf _
  | getDataDict => exact .map fun r _ => r.fresh_toDict
  | incr => exact h.fresh_answer (.map fun _ _ => Sketch.Fresh.given _)
  | maybeIncr =>
    unfold run Sample.Box.maybeIncr
    dsimp only
    split
    · exact .error _
    · exact .map fun _ _ => Sketch.Fresh.given _
  -- A call is answered by host code, and builds nothing here.
  | callback =>
    exact .bind (.any _) fun _ _ => .bind (.any _) fun _ _ => .bind (.any _) fun _ _ =>
      .bind (.any _) fun _ _ => .map fun _ _ => trivial

theorem MethodRoutine.fresh_run (r : MethodRoutine) (h : Host) (ref : Ref) (a : Args) :
    Yields Answer.Fresh (r.run h ref a).1 := by
  cases r with
  | stock r => exact r.fresh_run h.store a
  | onInstance r => exact h.fresh_answer (.mapError (r.fresh_run ref _ a))
  | box m => exact m.fresh_run h ref a
  | rawLength => exact .map fun _ _ => Sketch.Fresh.given _

end ObjectProtocol
