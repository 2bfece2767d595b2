import ObjectProtocol.Operation
import ObjectProtocol.Proofs.Provenance.Contents

/-!
# What operations on objects answer

`ObjectOp.run` takes a decision for each operation.  `ObjectOp.Ran` lists the answers by what becomes of
the store: it stays as it is, something is made beside what is there, or a cell is changed.  Only
`ran_run` looks at every operation; what holds of all answers follows from the cases of `ObjectOp.Ran`.
-/

namespace ObjectProtocol.ObjectOp

variable (rt : Runtime) (s : Store)

/-- The operation answers with a value that exists. -/
inductive Reads : ObjectOp → List Value → Value → Prop
  | plain {op : ObjectOp} {operands : List Value} {v : Value} : v.isPlain = true → Reads op operands v
  | item {container key v : Value} : s.getItem container key = .ok v → Reads item [container, key] v
  | typeOf {v : Value} {t : TypeObject} : rt.typeOf s v = .ok t → Reads typeOf [v] (.type t)
  | lookup {name : String} {t : TypeObject} : rt.registry.named? name = some t →
    Reads (lookup name) [] (.type t)
  | member {m : Member} {ref : Ref} {v : Value} : m.get (s.instanceAt ref) = .ok v →
    Reads (memberGet m) [.object ref] v

/-- The operation answers with what `Sketch.build` makes of the sketch. -/
inductive Makes : ObjectOp → List Value → Sketch → Prop
  | tuple {items : List Value} : Makes tuple items (.tupleOf items.toArray)
  | list {items : List Value} : Makes list items (.listOf items.toArray)
  | getAttr {name : String} {target : Value} {sketch : Sketch} : s.getAttr target name = .ok sketch →
    Makes (getAttr name) [target] sketch
  | bind {name : String} {receiver : Value} {t : TypeObject} {d : Descriptor} :
    t.findMethod? name = some d → Makes (bind name) [receiver, .type t] (.method receiver d)
  | iter {v : Value} {sketch : Sketch} : s.iter rt v = .ok sketch → Makes iter [v] sketch
  | add {v w : Value} {sketch : Sketch} : s.add v w = .ok sketch → Makes add [v, w] sketch
  | positions {bound : NativeInt} {t : TypeObject} : Makes (iterBound bound) [.type t]
    (.iterator { type := t, source := .positions bound })
  | items {t : TypeObject} {items : List Value} : Makes iterItems (.type t :: items)
    (.iterator { type := t, source := .items items.toArray })
  | text {op : ObjectOp} {operands : List Value} (text : String) : Makes op operands (.text text)
  | views {v : Value} : Makes views [v] (.ofViews v)
  | find {name : String} {t : TypeObject} : Makes (find name) [.type t] (.ofFind t name)
  | typeInfo {t : TypeObject} : Makes typeInfo [.type t] (.ofType t)

/-- The operation raises the exception of something that it asks. -/
inductive Refuses : ObjectOp → List Value → Exception → Prop
  | callMethod {name : String} {receiver : Value} {args : List Value} {e : Exception} :
    s.getAttr receiver name = .error e → Refuses (callMethod name) (receiver :: args) e
  | getAttr {name : String} {target : Value} {e : Exception} : s.getAttr target name = .error e →
    Refuses (getAttr name) [target] e
  | setAttr {name : String} {target v : Value} {e : Exception} : s.setAttr target name v = .error e →
    Refuses (setAttr name) [target, v] e
  | delAttr {name : String} {target : Value} {e : Exception} : s.delAttr target name = .error e →
    Refuses (delAttr name) [target] e
  | len {v : Value} {e : Exception} : s.measure v = .error e → Refuses len [v] e
  | contains {container v : Value} {e : Exception} : s.contains container v = .error e →
    Refuses contains [container, v] e
  | iter {v : Value} {e : Exception} : s.iter rt v = .error e → Refuses iter [v] e
  | next {v : Value} {e : Exception} : s.next v = .error e → Refuses next [v] e
  | nextOrRaise {v : Value} {e : Exception} : s.next v = .error e → Refuses nextOrRaise [v] e
  | item {container key : Value} {e : Exception} : s.getItem container key = .error e →
    Refuses item [container, key] e
  | add {v w : Value} {e : Exception} : s.add v w = .error e → Refuses add [v, w] e
  | typeOf {v : Value} {e : Exception} : rt.typeOf s v = .error e → Refuses typeOf [v] e
  | isInstance {v : Value} {t : TypeObject} {e : Exception} : rt.isInstance s v t = .error e →
    Refuses isInstance [v, .type t] e
  | memberGet {m : Member} {ref : Ref} {f : Failure} : m.get (s.instanceAt ref) = .error f →
    Refuses (memberGet m) [.object ref] f.toException
  | memberSet {m : Member} {ref : Ref} {v : Value} {f : Failure} :
    m.set s (s.instanceAt ref) v = .error f → Refuses (memberSet m) [.object ref, v] f.toException
  | memberDelete {m : Member} {ref : Ref} {f : Failure} : m.delete (s.instanceAt ref) = .error f →
    Refuses (memberDelete m) [.object ref] f.toException

/-- The operation makes the `Change`, by the name of an attribute or by a member. -/
inductive Changes : ObjectOp → List Value → Change → Prop
  | setAttr {name : String} {target v : Value} {c : Change} : s.setAttr target name v = .ok c →
    Changes (setAttr name) [target, v] c
  | delAttr {name : String} {target : Value} {c : Change} : s.delAttr target name = .ok c →
    Changes (delAttr name) [target] c
  | memberSet {m : Member} {ref : Ref} {v : Value} {i : Instance} :
    m.set s (s.instanceAt ref) v = .ok i → Changes (memberSet m) [.object ref, v] (.object ref i)
  | memberDelete {m : Member} {ref : Ref} {i : Instance} : m.delete (s.instanceAt ref) = .ok i →
    Changes (memberDelete m) [.object ref] (.object ref i)

/-- The cases of `ObjectOp.run`: its answer, beside the store that it leaves. -/
inductive Ran : ObjectOp → List Value → Request × Store → Prop
  | malformed {op : ObjectOp} {operands : List Value} : Ran op operands (.malformed, s)
  | reads {op : ObjectOp} {operands : List Value} {v : Value} : op.Reads rt s operands v →
    Ran op operands (.value v, s)
  | makes {op : ObjectOp} {operands : List Value} {sketch : Sketch} : op.Makes rt s operands sketch →
    Ran op operands (Request.ofSketch sketch s)
  | refuses {op : ObjectOp} {operands : List Value} {e : Exception} : op.Refuses rt s operands e →
    Ran op operands (.raise e, s)
  | changes {op : ObjectOp} {operands : List Value} {c : Change} : op.Changes s operands c →
    Ran op operands (.value .null, s.apply c)
  | call {target : Value} {args : List Value} : Ran call (target :: args) (.call target args, s)
  | callMethod {name : String} {receiver : Value} {args : List Value} {sketch : Sketch} :
    s.getAttr receiver name = .ok sketch →
    Ran (callMethod name) (receiver :: args) (.call (sketch.build s).1 args, (sketch.build s).2)
  | measure {v : Value} {t : TypeObject} {d : Descriptor} : s.measure v = .ok (.byMethod t d) →
    Ran len [v] (.measure t d v, s)
  | next {v w : Value} {c : Change} : s.next v = .ok (some w, c) →
    Ran next [v] (Request.made ((s.apply c).newTuple #[w]))
  | nextEnd {v : Value} {c : Change} : s.next v = .ok (none, c) →
    Ran next [v] (.value .null, s.apply c)
  | nextOrRaise {v w : Value} {c : Change} : s.next v = .ok (some w, c) →
    Ran nextOrRaise [v] (.value w, s.apply c)
  | nextOrRaiseEnd {v : Value} {c : Change} : s.next v = .ok (none, c) →
    Ran nextOrRaise [v] (.raise Failure.exhausted.toException, s.apply c)
  | collect {v : Value} {items : Array Value} {s' : Store} : s.collect rt v = (.ok items, s') →
    Ran collect [v] (Request.made (s'.newList items))
  | collectEnd {v : Value} {e : Exception} {s' : Store} : s.collect rt v = (.error e, s') →
    Ran collect [v] (.raise e, s')
  | push {ref : Ref} {v : Value} : Ran push [.list ref, v] (.value .null, s.appendItem ref v)
  | put {ref : Ref} {key v : Value} : Ran put [.dict ref, key, v]
    (.value .null, s.setDict ref ((s.dictAt ref).insert s.equal key v))

section

variable {rt : Runtime} {s : Store} {op : ObjectOp} {operands : List Value}

/-! What may fail is read or made if it succeeds, and handed on if not. -/

theorem Ran.ofResult {x : Except Exception Value} (hok : ∀ v, x = .ok v → op.Reads rt s operands v)
    (herror : ∀ e, x = .error e → op.Refuses rt s operands e) :
    op.Ran rt s operands (Request.ofResult x s) := by
  cases x with
  | ok v => exact .reads (hok v rfl)
  | error e => exact .refuses (herror e rfl)

theorem Ran.ofBool {x : Except Exception Bool}
    (herror : ∀ e, x = .error e → op.Refuses rt s operands e) :
    op.Ran rt s operands (Request.ofResult (x.map .bool) s) := by
  cases x with
  | ok b => exact .reads (.plain rfl)
  | error e => exact .refuses (herror e rfl)

theorem Ran.ofMaking {x : Except Exception Sketch}
    (hok : ∀ sketch, x = .ok sketch → op.Makes rt s operands sketch)
    (herror : ∀ e, x = .error e → op.Refuses rt s operands e) :
    op.Ran rt s operands (Request.ofMaking x s) := by
  cases x with
  | ok sketch => exact .makes (hok sketch rfl)
  | error e => exact .refuses (herror e rfl)

theorem Ran.ofChange {x : Except Exception Change} (hok : ∀ c, x = .ok c → op.Changes s operands c)
    (herror : ∀ e, x = .error e → op.Refuses rt s operands e) :
    op.Ran rt s operands (Request.ofChange x s) := by
  cases x with
  | ok c => exact .changes (hok c rfl)
  | error e => exact .refuses (herror e rfl)

theorem Ran.ofMember {x : Except Failure Instance} {ref : Ref}
    (hok : ∀ i, x = .ok i → op.Changes s operands (.object ref i))
    (herror : ∀ f, x = .error f → op.Refuses rt s operands f.toException) :
    op.Ran rt s operands
      (Request.ofChange ((x.map (.object ref)).mapError Failure.toException) s) := by
  cases x with
  | ok i => exact .changes (hok i rfl)
  | error f => exact .refuses (herror f rfl)

/-- Every `ObjectOp.run` is one of the cases of `Ran`. -/
theorem ran_run (op : ObjectOp) (operands : List Value) (rt : Runtime) (s : Store) :
    op.Ran rt s operands (op.run operands rt s) := by
  have hplain {op : ObjectOp} {operands : List Value} {v : Value} (hv : v.isPlain = true) :
      op.Ran rt s operands (.value v, s) := .reads (.plain hv)
  have htext {op : ObjectOp} {operands : List Value} (text : String) :
      op.Ran rt s operands (Request.ofSketch (.text text) s) := .makes (.text text)
  unfold run
  split
  -- Tuples and lists; calls
  · exact .makes .tuple
  · exact .makes .list
  · exact .call
  · split
    · exact .callMethod ‹_›
    · exact .refuses (.callMethod ‹_›)
  -- Attributes
  · exact .ofMaking (fun _ => .getAttr) (fun _ => .getAttr)
  · exact .ofChange (fun _ => .setAttr) (fun _ => .setAttr)
  · exact .ofChange (fun _ => .delAttr) (fun _ => .delAttr)
  -- Whether a value can be called, how deep calls are, and binding a method
  · exact hplain rfl
  · exact hplain rfl
  · split
    · exact .makes (.bind ‹_›)
    · exact .malformed
  -- Lengths, containment and iteration
  · split
    · exact hplain rfl
    · exact .measure ‹_›
    · exact .refuses (.len ‹_›)
  · exact .ofBool fun _ => .contains
  · exact .ofMaking (fun _ => .iter) (fun _ => .iter)
  · split
    · exact .next ‹_›
    · exact .nextEnd ‹_›
    · exact .refuses (.next ‹_›)
  · split
    · exact .nextOrRaise ‹_›
    · exact .nextOrRaiseEnd ‹_›
    · exact .refuses (.nextOrRaise ‹_›)
  · split
    · exact .collect ‹_›
    · exact .collectEnd ‹_›
  -- Items, sums, and iterators over positions and over items
  · exact .ofResult (fun _ => .item) (fun _ => .item)
  · exact .ofMaking (fun _ => .add) (fun _ => .add)
  · exact .makes .positions
  · exact .makes .items
  -- Comparisons, texts, truth and views
  · exact hplain rfl
  · exact hplain rfl
  · exact htext _
  · exact htext _
  · exact hplain rfl
  · exact htext _
  · exact .makes .views
  -- Changing lists and dictionaries
  · exact .push
  · exact .put
  -- Texts for debugging
  · exact htext _
  · exact htext _
  -- Types: those of values, those that are registered, and what is declared in them
  · rename_i v
    cases h : rt.typeOf s v with
    | ok t => exact .reads (.typeOf h)
    | error e => exact .refuses (.typeOf h)
  · exact .ofBool fun _ => .isInstance
  · exact hplain rfl
  · rename_i name
    cases h : rt.registry.named? name with
    | none => exact hplain rfl
    | some t => exact .reads (.lookup h)
  · exact hplain rfl
  · exact .makes .find
  · exact .makes .typeInfo
  -- Members apart from their types
  · unfold onInstance
    split
    · rename_i m _ ref
      dsimp only
      cases h : m.get (s.instanceAt ref) with
      | ok v => exact .reads (.member h)
      | error f => exact .refuses (.memberGet h)
    · exact .malformed
  · unfold onInstance
    split
    · exact .ofMember (fun _ => .memberSet) (fun _ => .memberSet)
    · exact .malformed
  · unfold onInstance
    split
    · exact .ofMember (fun _ => .memberDelete) (fun _ => .memberDelete)
    · exact .malformed
  · exact .malformed

end

end ObjectProtocol.ObjectOp
