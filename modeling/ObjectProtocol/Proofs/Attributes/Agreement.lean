import ObjectProtocol.Proofs.Attributes.Fit

/-!
# Reading, assigning and deleting agree

What was assigned under a name reads as the value that was assigned, and what was deleted reads as
absent: the three operations find the same member or the same dictionary entry.  They take the layers
of a type in different orders, though.  Assignment and deletion look for a member on the whole chain
before they ask for methods, while reading meets the own layer of the type first, members and methods.
So where a type declares a method under the name of a member of one of its bases, assignment reaches
the member and reading answers with the method.
-/

namespace ObjectProtocol

/-- The own layer declares a method under the name, and no member: `getAttr` finds it before any member of
a base. -/
def TypeObject.Hides (t : TypeObject) (name : String) (d : Descriptor) : Prop :=
  t.own.attribute? name = some (.method d)

theorem TypeObject.Hides.own {t : TypeObject} {name : String} {d : Descriptor}
    (h : t.Hides name d) :
    t.own.member? name = none ∧ t.own.descriptor? name = some d := by
  unfold Hides TypeLayer.attribute? at h
  cases hmember : t.own.member? name with
  -- A member of the own layer would come before the method.
  | some m =>
    rw [hmember] at h
    cases h
  | none =>
    refine ⟨rfl, ?_⟩
    cases hmethod : t.own.descriptor? name with
    | none =>
      rw [hmember, hmethod] at h
      cases h
    | some d' =>
      rw [hmember, hmethod] at h
      cases h
      rfl

theorem TypeObject.Hides.findMethod?_ne_none {t : TypeObject} {name : String} {d : Descriptor}
    (h : t.Hides name d) : t.findMethod? name ≠ none := by
  intro hnone
  have hmethod := own_descriptor?_of_findMethod? hnone
  rw [h.own.2] at hmethod
  contradiction

/-! ## Members -/

section Members

variable {i j : Instance} {m : Member} {s : Store} {v : Value}

theorem Instance.read_of_write {offset : Nat} {content : Field}
    (h : i.write offset content = .ok j) : j.read offset = .ok content := by
  obtain ⟨hkind, rfl⟩ := write_eq_ok_iff.1 h
  have hlt : offset < i.fields.length := by
    obtain ⟨field, hfield, -⟩ := exists_field hkind
    exact (List.getElem?_eq_some_iff.1 hfield).1
  unfold read
  rw [List.getElem?_set_self hlt]

theorem Member.write_of_set (h : m.set s i v = .ok j) :
    ∃ content, m.content s v = .ok content ∧ i.write m.offset content = .ok j := by
  unfold Member.set at h
  split at h
  · contradiction
  · split at h
    · contradiction
    · exact ⟨_, ‹_›, h⟩

/-- `Member.get` after `Member.set` of an object member is the assigned value. -/
theorem Member.get_of_set_object (h : m.set s i v = .ok j) (hkind : m.kind = .object) :
    m.get j = .ok v := by
  obtain ⟨content, hcontent, hwrite⟩ := write_of_set h
  unfold Member.content at hcontent
  rw [hkind] at hcontent
  cases hcontent
  unfold Member.get
  rw [Instance.read_of_write hwrite]
  rfl

/-- For an int member it is the integer `asInt?` of the assigned value. -/
theorem Member.get_of_set_int (h : m.set s i v = .ok j) (hkind : m.kind = .int) :
    ∃ k, v.asInt? = some k ∧ m.get j = .ok (.int k) := by
  obtain ⟨content, hcontent, hwrite⟩ := write_of_set h
  unfold Member.content at hcontent
  rw [hkind] at hcontent
  dsimp only at hcontent
  split at hcontent
  · -- The value is an integer, and one that a field can hold.
    unfold Store.toNative at hcontent
    cases hint : v.asInt? with
    | none =>
      rw [hint] at hcontent
      contradiction
    | some k =>
      rw [hint] at hcontent
      dsimp only at hcontent
      cases hnative : k.toNative? with
      | none =>
        rw [hnative] at hcontent
        contradiction
      | some n =>
        rw [hnative] at hcontent
        cases hcontent
        have hk : n.toHost = k := HostInt.ext (HostInt.toNative?_eq_some_iff.1 hnative)
        refine ⟨k, rfl, ?_⟩
        unfold Member.get
        rw [Instance.read_of_write hwrite, ← hk]
        rfl
  · contradiction

theorem Member.write_of_delete (h : m.delete i = .ok j) :
    m.kind = .object ∧ i.write m.offset (.object none) = .ok j := by
  unfold Member.delete at h
  split at h
  · contradiction
  · split at h
    · exact ⟨‹_›, h⟩
    · contradiction

theorem Member.get_of_delete (h : m.delete i = .ok j) : m.get j = .ok .null := by
  unfold Member.get
  rw [Instance.read_of_write (write_of_delete h).2]
  rfl

/-! Where there is no object, there is neither a member nor a dictionary. -/

theorem Instance.ne_default_of_findMember? {name : String}
    (h : i.type.findMember? name = some m) : i ≠ default := by
  intro hdefault
  rw [hdefault] at h
  contradiction

theorem Instance.ne_default_of_dict {table : Table Value} (h : i.dict = some table) :
    i ≠ default := by
  intro hdefault
  rw [hdefault] at h
  contradiction

end Members

/-! ## What a successful change was -/

namespace Store

variable {s : Store} {ref : Ref} {name : String} {v : Value} {change : Change}

/-- A `setAttr` that succeeds has written a member, or an entry under an undeclared name. -/
theorem cases_of_setAttr (h : s.setAttr (.object ref) name v = .ok change) :
    (∃ m j, (s.instanceAt ref).type.findMember? name = some m ∧
        m.set s (s.instanceAt ref) v = .ok j ∧ change = .object ref j) ∨
      ∃ table, (s.instanceAt ref).type.findMember? name = none ∧
        (s.instanceAt ref).type.findMethod? name = none ∧ (s.instanceAt ref).dict = some table ∧
        change = .object ref { s.instanceAt ref with dict := some (table.insert name v) } := by
  unfold setAttr at h
  dsimp only at h
  split at h
  · contradiction
  · rename_i t hlive
    obtain rfl := s.live_yields _ t hlive
    split at h
    · -- A declared member takes the value.
      rename_i m hm
      cases hset : m.set s (s.instanceAt ref) v with
      | error f =>
        rw [hset] at h
        contradiction
      | ok j =>
        rw [hset] at h
        cases h
        exact Or.inl ⟨m, j, hm, hset, rfl⟩
    · -- No member: a method refuses the assignment, and else only a dictionary can take it.
      rename_i hmember
      split at h
      · contradiction
      · rename_i hmethod
        split at h
        · rename_i table htable
          cases h
          exact Or.inr ⟨table, hmember, by simpa using hmethod, htable, rfl⟩
        · contradiction

theorem cases_of_delAttr (h : s.delAttr (.object ref) name = .ok change) :
    (∃ m j, (s.instanceAt ref).type.findMember? name = some m ∧
        m.delete (s.instanceAt ref) = .ok j ∧ change = .object ref j) ∨
      ∃ table w, (s.instanceAt ref).type.findMember? name = none ∧
        (s.instanceAt ref).dict = some table ∧ table.get? name = some w ∧
        change = .object ref { s.instanceAt ref with dict := some (table.erase name) } := by
  unfold delAttr at h
  dsimp only at h
  split at h
  · contradiction
  · rename_i t hlive
    obtain rfl := s.live_yields _ t hlive
    split at h
    · -- A declared member is deleted.
      rename_i m hm
      cases hdelete : m.delete (s.instanceAt ref) with
      | error f =>
        rw [hdelete] at h
        contradiction
      | ok j =>
        rw [hdelete] at h
        cases h
        exact Or.inl ⟨m, j, hm, hdelete, rfl⟩
    · -- No member: only an entry that is there can go.
      rename_i hmember
      split at h
      · rename_i w hw
        obtain ⟨table, htable, hget⟩ := Option.bind_eq_some_iff.1 hw
        rw [htable] at h
        cases h
        exact Or.inr ⟨table, w, hmember, htable, hget, rfl⟩
      · contradiction

/-! ## Reading afterwards -/

theorem lt_size_of_instanceAt_ne (h : s.instanceAt ref ≠ default) : ref < s.instances.size := by
  apply Nat.lt_of_not_le
  intro hle
  have hnone : s.instances.get? ref = none := Array.getElem?_eq_none hle
  apply h
  unfold instanceAt
  rw [hnone]
  rfl

theorem instanceAt_apply_object (h : s.instanceAt ref ≠ default) (i : Instance) :
    (s.apply (.object ref i)).instanceAt ref = i := by
  have hget : (s.instances.set ref i).get? ref = some i := by
    rw [Heap.get?_set, if_pos rfl, if_pos (lt_size_of_instanceAt_ne h)]
  show ((s.instances.set ref i).get? ref).getD default = i
  rw [hget]
  rfl

variable {t : TypeObject} {m : Member} {d : Descriptor}

theorem getAttr_of_method (hlive : s.live (s.instanceAt ref).type = .ok t)
    (h : (s.instanceAt ref).attribute? name = some (.method d)) :
    s.getAttr (.object ref) name = .ok (.method (.object ref) d) := by
  unfold getAttr
  dsimp only
  rw [hlive, h]

theorem getAttr_of_member (hlive : s.live (s.instanceAt ref).type = .ok t)
    (h : (s.instanceAt ref).attribute? name = some (.member m))
    (hget : m.get (s.instanceAt ref) = .ok v) :
    s.getAttr (.object ref) name = .ok (.given v) := by
  unfold getAttr
  dsimp only
  rw [hlive, h]
  dsimp only
  rw [hget]

theorem getAttr_of_entry (hlive : s.live (s.instanceAt ref).type = .ok t)
    (h : (s.instanceAt ref).attribute? name = some (.entry v)) :
    s.getAttr (.object ref) name = .ok (.given v) := by
  unfold getAttr
  dsimp only
  rw [hlive, h]

theorem getAttr_of_none (hlive : s.live (s.instanceAt ref).type = .ok t)
    (h : (s.instanceAt ref).attribute? name = none) :
    s.getAttr (.object ref) name = .error (s.noAttribute (.object ref) name) := by
  unfold getAttr
  dsimp only
  rw [hlive, h]

theorem getAttr_of_findMember? (hlive : s.live (s.instanceAt ref).type = .ok t)
    (hsound : (s.instanceAt ref).Sound)
    (hm : (s.instanceAt ref).type.findMember? name = some m)
    (hget : m.get (s.instanceAt ref) = .ok v)
    (hvisible : ∀ d, ¬ (s.instanceAt ref).type.Hides name d) :
    s.getAttr (.object ref) name = .ok (.given v) :=
  getAttr_of_member hlive (hsound.attribute?_of_findMember? hm hvisible) hget

/-! ## Agreement -/

/-- What `getAttr` answers after the value was assigned under the name, depending on whether the type
`Hides` it. -/
structure ReadsBack (s : Store) (ref : Ref) (t : TypeObject) (name : String) (v : Value) :
    Prop where
  /-- A method that hides the name is read whatever was assigned. -/
  hidden : ∀ d, t.Hides name d → s.getAttr (.object ref) name = .ok (.method (.object ref) d)
  int : (∀ d, ¬ t.Hides name d) → ∀ m, t.findMember? name = some m → m.kind = .int →
    ∃ k, v.asInt? = some k ∧ s.getAttr (.object ref) name = .ok (.given (.int k))
  same : (∀ d, ¬ t.Hides name d) → (∀ m, t.findMember? name = some m → m.kind = .object) →
    s.getAttr (.object ref) name = .ok (.given v)

/-- The same after `delAttr` of the name. -/
structure ReadsDeleted (s : Store) (ref : Ref) (t : TypeObject) (name : String) : Prop where
  hidden : ∀ d, t.Hides name d → s.getAttr (.object ref) name = .ok (.method (.object ref) d)
  member : (∀ d, ¬ t.Hides name d) → ∀ m, t.findMember? name = some m →
    m.kind = .object ∧ s.getAttr (.object ref) name = .ok (.given .null)
  entry : t.findMember? name = none →
    s.getAttr (.object ref) name = .error (s.noAttribute (.object ref) name)

theorem getAttr_of_hides {u : TypeObject} (hlive : s.live (s.instanceAt ref).type = .ok u)
    (h : (s.instanceAt ref).type.Hides name d) :
    s.getAttr (.object ref) name = .ok (.method (.object ref) d) := by
  obtain ⟨hmember, hmethod⟩ := h.own
  exact getAttr_of_method hlive (Instance.attribute?_of_method hmember hmethod)

variable {s' : Store}

theorem readsBack_of_setAttr (hsound : (s.instanceAt ref).Sound)
    (hset : s.setAttr (.object ref) name v = .ok change)
    (hsame : s'.instanceAt ref = (s.apply change).instanceAt ref)
    (hlive : s'.live (s.instanceAt ref).type = .ok (s.instanceAt ref).type) :
    s'.ReadsBack ref (s.instanceAt ref).type name v := by
  rcases cases_of_setAttr hset with ⟨m, j, hm, hj, rfl⟩ | ⟨table, hmember, hmethod, htable, rfl⟩
  · -- The member that was written is the one that is read.
    rw [instanceAt_apply_object (Instance.ne_default_of_findMember? hm)] at hsame
    obtain ⟨content, -, hwrite⟩ := Member.write_of_set hj
    have hjsound := hsound.write _ _ j hwrite
    subst hsame
    rw [← Instance.type_write _ _ _ _ hwrite] at hm hlive ⊢
    refine ⟨fun d hd => getAttr_of_hides hlive hd, ?_, ?_⟩
    · intro hvisible m' hm' hkind
      rw [hm] at hm'
      cases hm'
      obtain ⟨k, hk, hget⟩ := Member.get_of_set_int hj hkind
      exact ⟨k, hk, getAttr_of_findMember? hlive hjsound hm hget hvisible⟩
    · intro hvisible hkind
      exact getAttr_of_findMember? hlive hjsound hm (Member.get_of_set_object hj (hkind m hm))
        hvisible
  · -- The name is declared nowhere, so the entry is what is read.
    rw [instanceAt_apply_object (Instance.ne_default_of_dict htable)] at hsame
    have htype : (s'.instanceAt ref).type = (s.instanceAt ref).type := by
      rw [hsame]
    have hdict : (s'.instanceAt ref).dict = some (table.insert name v) := by
      rw [hsame]
    rw [← htype] at hmember hmethod hlive ⊢
    refine ⟨fun d hd => absurd hmethod hd.findMethod?_ne_none, fun _ m hm => ?_, fun _ _ => ?_⟩
    · rw [hmember] at hm
      contradiction
    · have hattribute : (s'.instanceAt ref).attribute? name = some (.entry v) := by
        rw [Instance.attribute?_of_undeclared hmember hmethod, hdict, Option.bind_some,
          Table.get?_insert, if_pos rfl]
        rfl
      exact getAttr_of_entry hlive hattribute

theorem readsDeleted_of_delAttr (hsound : (s.instanceAt ref).Sound)
    (hdelete : s.delAttr (.object ref) name = .ok change)
    (hsame : s'.instanceAt ref = (s.apply change).instanceAt ref)
    (hlive : s'.live (s.instanceAt ref).type = .ok (s.instanceAt ref).type) :
    s'.ReadsDeleted ref (s.instanceAt ref).type name := by
  rcases cases_of_delAttr hdelete with
    ⟨m, j, hm, hj, rfl⟩ | ⟨table, w, hmember, htable, hw, rfl⟩
  · -- The member that was deleted is the one that is read.
    rw [instanceAt_apply_object (Instance.ne_default_of_findMember? hm)] at hsame
    obtain ⟨hkind, hwrite⟩ := Member.write_of_delete hj
    have hjsound := hsound.write _ _ j hwrite
    subst hsame
    rw [← Instance.type_write _ _ _ _ hwrite] at hm hlive ⊢
    refine ⟨fun d hd => getAttr_of_hides hlive hd, ?_, fun hnone => ?_⟩
    · intro hvisible m' hm'
      rw [hm] at hm'
      cases hm'
      exact ⟨hkind, getAttr_of_findMember? hlive hjsound hm (Member.get_of_delete hj) hvisible⟩
    · rw [hm] at hnone
      contradiction
  · rw [instanceAt_apply_object (Instance.ne_default_of_dict htable)] at hsame
    -- The entry was there, so no layer declares its name.
    obtain ⟨-, hmethod⟩ := hsound.undeclared name w (by rw [htable, Option.bind_some, hw])
    have htype : (s'.instanceAt ref).type = (s.instanceAt ref).type := by
      rw [hsame]
    have hdict : (s'.instanceAt ref).dict = some (table.erase name) := by
      rw [hsame]
    rw [← htype] at hmember hmethod hlive ⊢
    refine ⟨fun d hd => absurd hmethod hd.findMethod?_ne_none, fun _ m hm => ?_, fun _ => ?_⟩
    · rw [hmember] at hm
      contradiction
    · have hattribute : (s'.instanceAt ref).attribute? name = none := by
        rw [Instance.attribute?_of_undeclared hmember hmethod, hdict, Option.bind_some,
          Table.get?_erase, if_pos rfl]
        rfl
      exact getAttr_of_none hlive hattribute

end Store

/-! ## Main result -/

namespace Config

/-- In every `Reachable` configuration, whichever types are released: what `setAttr` assigned is what
`getAttr` reads, and after `delAttr` the name reads as `null` or not at all, as long as the type of the
instance is `live`. The exception are members of a base under a name that the own layer `Hides`: there
`getAttr` gives the method. -/
theorem attributes_agree {c : Config} (h : c.Reachable) (released : List Identity) (ref : Ref)
    (name : String) :
    let s := { c.session.host.store with released }
    let t := (s.instanceAt ref).type
    (∀ v change, s.setAttr (.object ref) name v = .ok change →
      ∀ s' : Store, s'.instanceAt ref = (s.apply change).instanceAt ref → s'.live t = .ok t →
        s'.ReadsBack ref t name v) ∧
      ∀ change, s.delAttr (.object ref) name = .ok change →
        ∀ s' : Store, s'.instanceAt ref = (s.apply change).instanceAt ref → s'.live t = .ok t →
          s'.ReadsDeleted ref t name := by
  intro s t
  have hsound : (s.instanceAt ref).Sound :=
    ((h.within.session.host.store.with _ released).instances ref).sound
  constructor
  · intro v change hset s' hsame hlive
    exact Store.readsBack_of_setAttr hsound hset hsame hlive
  · intro change hdelete s' hsame hlive
    exact Store.readsDeleted_of_delAttr hsound hdelete hsame hlive

/-- A class with a method under the name of the member that `cellDecl` declares. -/
def hidingDecl : TypeDecl Code :=
  { name := "Hiding", kind := .host, methods := [⟨"content", .empty, .host [.null]⟩] }

def makeHiding : Config :=
  { control := .eval
      (.apply (.object .call) [.apply (.declare hidingDecl) [.apply (.declare cellDecl) []]])
    session := .ofSetup { sample := false } }

def hidingMade : Config := makeHiding.after 8

theorem reachable_hidingMade : hidingMade.Reachable := (Reachable.start _ _).after 8

/-- `setAttr` writes the member of the base, and `getAttr` answers with the method. -/
theorem attributes_agree_hidingMade :
    let s := hidingMade.session.host.store
    hidingMade.Reachable ∧ ∃ change d,
      s.setAttr (.object 0) "content" (.bool true) = .ok change ∧
        (s.apply change).getAttr (.object 0) "content" = .ok (.method (.object 0) d) := by
  intro s
  obtain ⟨change, hset⟩ : ∃ change, s.setAttr (.object 0) "content" (.bool true) = .ok change :=
    ⟨_, rfl⟩
  obtain ⟨d, hd⟩ : ∃ d, (s.instanceAt 0).type.Hides "content" d := ⟨_, rfl⟩
  have hlive : (s.apply change).live (s.instanceAt 0).type = .ok (s.instanceAt 0).type := by
    unfold Store.live
    rw [Store.released_apply]
    rfl
  obtain ⟨hassign, -⟩ := attributes_agree reachable_hidingMade s.released 0 "content"
  exact ⟨reachable_hidingMade, change, d, hset, (hassign _ change hset _ rfl hlive).hidden d hd⟩

end Config

end ObjectProtocol
