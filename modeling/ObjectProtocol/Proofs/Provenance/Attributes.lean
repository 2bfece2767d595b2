import ObjectProtocol.Proofs.Provenance.Objects

/-!
# Sketches and attributes

What a sketch makes is within a realm if what it is made around is.  Reading, writing and deleting
attributes then stays within the realm, if the methods that instances have may be bound to them; an
instance that is written to stays sound, since a name that the chain declares never reaches the
dictionary.
-/

namespace ObjectProtocol

variable {P : Realm}

/-! ## Sketches -/

inductive Sketch.Within (P : Realm) : Sketch → Prop
  | given {v : Value} : v.Within P → Within P (.given v)
  | text (s : String) : Within P (.text s)
  | tuple {items : List Sketch} : (∀ item ∈ items, Within P item) → Within P (.tuple items)
  | dict {entries : List (String × Sketch)} : (∀ entry ∈ entries, Within P entry.2) →
    Within P (.dict entries)
  | tupleOf {items : Array Value} : (∀ v ∈ items, v.Within P) → Within P (.tupleOf items)
  | listOf {items : Array Value} : (∀ v ∈ items, v.Within P) → Within P (.listOf items)
  | method {receiver : Value} {d : Descriptor} : receiver.Within P → P.method receiver d →
    Within P (.method receiver d)
  | iterator {it : Iterator} : it.Within P → Within P (.iterator it)
  | characters {t : TypeObject} (text : String) : P.type t → Within P (.characters t text)

namespace Sketch

theorem within_count (n : Nat) : (count n).Within P := .given (Value.within_ofNative _)

theorem within_bool (b : Bool) : (bool b).Within P := .given (.plain rfl)

theorem within_optional {α : Type} {f : α → Sketch} (hf : ∀ a, (f a).Within P) (a : Option α) :
    (optional f a).Within P := by
  cases a with
  | none => exact .given (.plain rfl)
  | some a => exact hf a

variable {s : Store}

theorem within_buildAll {items : List Sketch}
    (hitems : ∀ item ∈ items, ∀ s : Store, s.Within P → Store.Made P (item.build s))
    (h : s.Within P) :
    (∀ v ∈ (buildAll items s).1, v.Within P) ∧ (buildAll items s).2.Within P := by
  induction items generalizing s with
  | nil => exact ⟨fun v hv => by contradiction, h⟩
  | cons item rest ih =>
    unfold buildAll
    have hfirst := hitems item List.mem_cons_self s h
    obtain ⟨hrest, hstore⟩ := ih (fun item hitem => hitems item (List.mem_cons_of_mem _ hitem))
      hfirst.store
    exact ⟨List.forall_mem_cons.2 ⟨hfirst.value, hrest⟩, hstore⟩

theorem within_buildEntries {entries : List (String × Sketch)} {m : Mapping}
    (hentries : ∀ entry ∈ entries, ∀ s : Store, s.Within P → Store.Made P (entry.2.build s))
    (hm : m.Within P) (h : s.Within P) :
    (buildEntries entries m s).1.Within P ∧ (buildEntries entries m s).2.Within P := by
  induction entries generalizing m s with
  | nil => exact ⟨hm, h⟩
  | cons entry rest ih =>
    obtain ⟨name, value⟩ := entry
    unfold buildEntries
    have hkey := h.newText name
    have hvalue := hentries (name, value) List.mem_cons_self _ hkey.store
    exact ih (fun entry hentry => hentries entry (List.mem_cons_of_mem _ hentry))
      (hm.insert hkey.value hvalue.value) hvalue.store

theorem Within.build {sketch : Sketch} (hsketch : sketch.Within P) (h : s.Within P) :
    Store.Made P (sketch.build s) := by
  -- The parts of a sketch are built one after another, each into the store of the one before.
  induction hsketch generalizing s with
  | given hv => exact ⟨hv, h⟩
  | text t => exact h.newText t
  | tuple _ ih =>
    unfold Sketch.build
    obtain ⟨hvalues, hstore⟩ := within_buildAll (fun item hitem s hs => ih item hitem hs) h
    exact hstore.newTuple fun v hv => hvalues v (List.mem_toArray.1 hv)
  | dict _ ih =>
    unfold Sketch.build
    obtain ⟨hm, hstore⟩ :=
      within_buildEntries (fun entry hentry s hs => ih entry hentry hs) Mapping.within_empty h
    exact hstore.newDict hm
  | tupleOf hitems => exact h.newTuple hitems
  | listOf hitems => exact h.newList hitems
  | method hreceiver hd => exact h.newMethod hreceiver hd
  | iterator hit => exact h.newIterator hit
  | characters text ht =>
    unfold Sketch.build
    obtain ⟨hitems, hstore⟩ := h.newCharacters text
    exact hstore.newIterator (Iterator.within_items ht hitems)

end Sketch

/-! ## Attributes -/

section Attributes

variable {i : Instance} {s : Store} {v target : Value} {name : String}

theorem Member.within_get (m : Member) (h : i.Within P) :
    Yields (Value.Within P) (m.get i) := by
  refine .map fun field hfield => ?_
  cases field with
  | object w =>
    exact Value.within_getD_null fun u hu => h.read _ _ hfield u (congrArg Field.object hu)
  | int n => exact Value.within_ofNative n

theorem Member.within_content (m : Member) (s : Store) (hv : v.Within P) :
    Yields (Field.Within P) (m.content s v) := by
  unfold Member.content
  split
  · exact .ok (Field.within_object hv)
  · split
    · exact .map fun n _ => Field.within_int n
    · exact .error _

theorem Member.within_set (m : Member) (s : Store) (h : i.Within P) (hv : v.Within P) :
    Yields (Instance.Within P) (m.set s i v) := by
  unfold Member.set
  split
  · exact .error _
  · split
    · exact .error _
    · rename_i content hcontent
      exact h.write _ (m.within_content s hv content hcontent)

theorem Member.within_delete (m : Member) (h : i.Within P) :
    Yields (Instance.Within P) (m.delete i) := by
  unfold Member.delete
  split
  · exact .error _
  · split
    · exact h.write _ Field.within_absent
    · exact .error _

theorem Instance.get?_of_attribute? (h : i.attribute? name = some (.entry v)) :
    i.dict.bind (·.get? name) = some v := by
  have hdeclared (a b : Option Attribute) (ha : ∀ v, a ≠ some (.entry v))
      (hb : ∀ v, b ≠ some (.entry v)) : ∀ v, a.or b ≠ some (.entry v) := by
    intro v heq
    rcases Option.or_eq_some_iff.1 heq with heq | ⟨-, heq⟩
    · exact ha v heq
    · exact hb v heq
  have hmember (m : Option Member) : ∀ v, m.map Attribute.member ≠ some (.entry v) := by
    cases m <;> simp
  have hmethod (d : Option Descriptor) : ∀ v, d.map Attribute.method ≠ some (.entry v) := by
    cases d <;> simp
  -- The own layer comes first, then the dictionary, then the base.
  unfold Instance.attribute? Instance.attributeAs? at h
  rcases Option.or_eq_some_iff.1 h with h | ⟨-, h⟩
  · rcases Option.or_eq_some_iff.1 h with h | ⟨-, h⟩
    · exact absurd h (hdeclared _ _ (hmember _) (hmethod _) v)
    · obtain ⟨w, hw, heq⟩ := Option.map_eq_some_iff.1 h
      cases heq
      exact hw
  · obtain ⟨b, -, h⟩ := Option.bind_eq_some_iff.1 h
    exact absurd h (hdeclared _ _ (hmember _) (hmethod _) v)

namespace Store

/-- The methods that instances have from their types satisfy `P.method`. -/
def Binds (P : Realm) (s : Store) : Prop :=
  ∀ ref name d, (s.instanceAt ref).attribute? name = some (.method d) → P.method (.object ref) d

theorem Within.getAttr (h : s.Within P) (hP : Hereditary P) (hbinds : s.Binds P)
    (ht : target.Within P) (name : String) : Yields (Sketch.Within P) (s.getAttr target name) := by
  unfold Store.getAttr
  split
  · -- What the name means on the instance: a member, a method, an entry or nothing
    rename_i ref
    have hi := h.instances ref
    split
    · exact .error _
    · split
      · rename_i m _
        split
        · rename_i v hv
          exact .ok (.given (m.within_get hi v hv))
        · exact .error _
      · rename_i d hd
        exact .ok (.method ht (hbinds ref name d hd))
      · rename_i v hv
        obtain ⟨table, htable, hget⟩ :=
          Option.bind_eq_some_iff.1 (Instance.get?_of_attribute? hv)
        exact .ok (.given ((hi.dict table htable).of_get? hget))
      · exact .error _
  · -- A type has its name, its text and its base.
    rename_i t
    split
    · exact .ok (.text _)
    · split
      · exact .ok (Sketch.within_optional Sketch.Within.text _)
      · split
        · refine .ok (.given ?_)
          cases hb : t.base? with
          | none => exact .plain rfl
          | some b => exact .type (hP.base t b ht.of_type hb)
        · exact .error _
  · exact .error _

theorem Within.setAttr (h : s.Within P) (target : Value) (name : String) (hv : v.Within P) :
    Yields (Change.Within P) (s.setAttr target name v) := by
  unfold Store.setAttr
  split
  · rename_i ref
    have hi := h.instances ref
    dsimp only
    split
    · exact .error _
    · rename_i t hlive
      obtain rfl := s.live_yields _ t hlive
      split
      · rename_i m _
        exact .mapError (.map (m.within_set s hi hv))
      · rename_i hmember
        split
        · exact .error _
        · rename_i hmethod
          split
          · -- No layer declares the name, so the new entry leaves the instance sound.
            rename_i table htable
            have hmethod : (s.instanceAt ref).type.findMethod? name = none := by
              simpa using hmethod
            refine .ok ⟨hi.type, hi.fields, ?_, hi.sound.insertEntry htable hmember hmethod v⟩
            intro table' heq
            cases heq
            exact (hi.dict table htable).insert hv
          · exact .error _
  · exact .error _

theorem Within.delAttr (h : s.Within P) (target : Value) (name : String) :
    Yields (Change.Within P) (s.delAttr target name) := by
  unfold Store.delAttr
  split
  · rename_i ref
    have hi := h.instances ref
    dsimp only
    split
    · exact .error _
    · split
      · rename_i m _
        exact .mapError (.map (m.within_delete hi))
      · split
        · -- Without a member of that name, the entry of the dictionary goes.
          refine .ok ⟨hi.type, hi.fields, ?_, hi.sound.eraseEntry name⟩
          intro table heq
          obtain ⟨old, hold, rfl⟩ := Option.map_eq_some_iff.1 heq
          exact (hi.dict old hold).erase
        · exact .error _
  · exact .error _

end Store

end Attributes

end ObjectProtocol
