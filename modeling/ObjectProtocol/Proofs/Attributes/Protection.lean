import ObjectProtocol.Proofs.Attributes.Writing

/-!
# Fields that no name lets write to

Whether a field is read-only is not a property of the field but of the members over it: the access is
that of the member which a name finds, and a type may declare a member of its own over a field that it
inherits.  A type opens a field if one of its names lets write to it.  A field that is not opened stays
as it is under all assignments and deletions; one that is opened can be changed.  A type whose bases
only have read-only members over a field opens it exactly when it declares, or a base between declares,
a member over the field that is not read-only.
-/

namespace ObjectProtocol

namespace TypeObject

/-- Some name of the type lets `setAttr` and `delAttr` write to the field at `offset`. -/
def Opens (t : TypeObject) (offset : Nat) : Prop :=
  ∃ name, t.cell? name = some (.field offset)

variable {t : TypeObject} {offset : Nat}

theorem Opens.exists_member (h : t.Opens offset) :
    ∃ name m, t.findMember? name = some m ∧ m.offset = offset ∧ m.access = .readWrite := by
  obtain ⟨name, hname⟩ := h
  unfold cell? at hname
  split at hname
  · rename_i m hm
    exact ⟨name, m, hm, Member.writes?_eq_some_iff.1 hname⟩
  · cases hname

theorem Opens.exists_layer (h : t.Opens offset) :
    ∃ layer ∈ t.chain, ∃ m ∈ layer.members, m.offset = offset ∧ m.access = .readWrite := by
  obtain ⟨name, m, hm, hwritable⟩ := h.exists_member
  obtain ⟨layer, hlayer, hmem⟩ := exists_layer_of_findMember? hm
  exact ⟨layer, hlayer, m, hmem, hwritable⟩

end TypeObject

def Store.fieldAt (s : Store) (ref : Ref) (offset : Nat) : Option Field :=
  (s.instanceAt ref).fields[offset]?

/-- The session after a row of `Writing`s to one target, each of which may be refused. -/
def Session.afterWritings (s : Session) (target : Value) (ws : List Writing) : Session :=
  ws.foldl (fun s w => (w.run target s).2) s

/-! ## What is not opened stays -/

namespace Writing

variable {w : Writing} {ref : Ref} {offset : Nat} {s : Session}

theorem cell?_ne_of_not_opens {t : TypeObject} (hnamed : w.isNamed = true)
    (hclosed : ¬ t.Opens offset) : w.cell? t ≠ some (.field offset) := by
  intro hcell
  cases w with
  | assign name v => exact hclosed ⟨name, hcell⟩
  | delete name => exact hclosed ⟨name, hcell⟩
  | assignMember m v => contradiction
  | deleteMember m => contradiction

/-- A `Writing` by name leaves the type of its target as it is, and every field that the type does not
open. -/
theorem keeps_field (hnamed : w.isNamed = true)
    (hclosed : ¬ (s.host.store.instanceAt ref).type.Opens offset) :
    ((w.run (.object ref) s).2.host.store.instanceAt ref).type =
        (s.host.store.instanceAt ref).type ∧
      (w.run (.object ref) s).2.host.store.fieldAt ref offset =
        s.host.store.fieldAt ref offset := by
  rcases w.refused_or_done_of_isNamed (.object ref) s hnamed with
    ⟨e, hrun⟩ | ⟨_, i, cell, j, htarget, hi, hcell, hdiffers, hrun⟩
  · rw [hrun]
    exact ⟨rfl, rfl⟩
  · cases htarget
    have hat : s.host.store.instanceAt ref = i := Store.instanceAt_eq hi
    have hafter : (s.host.store.setInstance ref j).instanceAt ref = j :=
      Store.instanceAt_apply_object (hat ▸ hdiffers.ne_default) j
    -- The cell that is written to is one that its name opens, and `offset` is not.
    have hother : cell ≠ .field offset := by
      intro heq
      rw [heq, ← hat] at hcell
      exact cell?_ne_of_not_opens hnamed hclosed hcell
    rw [hrun]
    unfold Store.fieldAt
    show ((s.host.store.setInstance ref j).instanceAt ref).type = _ ∧
      ((s.host.store.setInstance ref j).instanceAt ref).fields[offset]? = _
    rw [hafter, hat]
    exact ⟨hdiffers.type_eq, hdiffers.field_eq hother⟩

end Writing

theorem Session.fieldAt_afterWritings {ref : Ref} {offset : Nat} {ws : List Writing}
    (hnamed : ∀ w ∈ ws, w.isNamed = true) (s : Session)
    (hclosed : ¬ (s.host.store.instanceAt ref).type.Opens offset) :
    (s.afterWritings (.object ref) ws).host.store.fieldAt ref offset =
      s.host.store.fieldAt ref offset := by
  -- The type of the target stays, so that what is not opened stays unopened.
  induction ws generalizing s with
  | nil => rfl
  | cons w ws ih =>
    obtain ⟨hw, hws⟩ := List.forall_mem_cons.1 hnamed
    obtain ⟨htype, hfield⟩ := Writing.keeps_field hw hclosed
    have hrest := ih hws (w.run (.object ref) s).2 (by rw [htype]; exact hclosed)
    exact hrest.trans hfield

/-! ## What is opened can be changed -/

/-- Whatever a field holds, `content` has a value that is kept as something else. -/
theorem Member.exists_content_ne (m : Member) (s : Store) (f : Field) :
    ∃ v content, m.content s v = .ok content ∧ content ≠ f := by
  unfold Member.content
  cases m.kind with
  | object =>
    -- There are two values to choose from, and the field cannot hold both.
    by_cases hnull : f = .object (some .null)
    · refine ⟨.bool true, _, rfl, ?_⟩
      rw [hnull]
      intro heq
      cases heq
    · exact ⟨.null, _, rfl, Ne.symm hnull⟩
  | int =>
    have hcontent (n : NativeInt) : (s.toNative (.ofNative n)).map Field.int = .ok (.int n) := by
      unfold Store.toNative Value.ofNative
      dsimp only [Value.asInt?]
      rw [HostInt.toNative?_toHost]
      rfl
    by_cases hzero : f = .int 0
    · refine ⟨.ofNative 1, _, hcontent 1, ?_⟩
      rw [hzero]
      intro heq
      have hval := congrArg NativeInt.val (Field.int.inj heq)
      simp at hval
    · exact ⟨.ofNative 0, _, hcontent 0, Ne.symm hzero⟩

theorem Store.setAttr_of_content {s : Store} {ref : Ref} {name : String} {m : Member} {v : Value}
    {content : Field}
    (hlive : s.live (s.instanceAt ref).type = .ok (s.instanceAt ref).type)
    (hm : (s.instanceAt ref).type.findMember? name = some m) (haccess : m.access = .readWrite)
    (hfit : (s.instanceAt ref).kinds[m.offset]? = some m.kind)
    (hcontent : m.content s v = .ok content) :
    s.setAttr (.object ref) name v =
      .ok (.object ref { s.instanceAt ref with
        fields := (s.instanceAt ref).fields.set m.offset content }) := by
  have hset : m.set s (s.instanceAt ref) v =
      .ok { s.instanceAt ref with fields := (s.instanceAt ref).fields.set m.offset content } := by
    unfold Member.set
    rw [haccess, hcontent]
    exact Instance.write_eq m.offset (Member.kind_of_content hcontent ▸ hfit)
  unfold setAttr
  dsimp only
  rw [hlive]
  dsimp only
  rw [hm]
  dsimp only
  rw [hset]
  rfl

theorem Session.exists_writing_of_opens {s : Session} {ref : Ref} {offset : Nat}
    (hwithin : (s.host.store.instanceAt ref).Within TypeObject.Built)
    (hlive : s.host.store.live (s.host.store.instanceAt ref).type =
      .ok (s.host.store.instanceAt ref).type)
    (hopens : (s.host.store.instanceAt ref).type.Opens offset) :
    ∃ w : Writing, w.isNamed = true ∧
      (s.afterWritings (.object ref) [w]).host.store.fieldAt ref offset ≠
        s.host.store.fieldAt ref offset := by
  obtain ⟨name, m, hm, rfl, haccess⟩ := hopens.exists_member
  have hfit : (s.host.store.instanceAt ref).kinds[m.offset]? = some m.kind := by
    rw [hwithin.sound.kinds_eq]
    exact hwithin.type.fits.of_findMember? hm
  obtain ⟨f, hf, -⟩ := Instance.exists_field hfit
  -- Whatever the field holds, there is a value that differs from it.
  obtain ⟨v, content, hcontent, hne⟩ := m.exists_content_ne s.host.store f
  have hset := Store.setAttr_of_content hlive hm haccess hfit hcontent
  refine ⟨.assign name v, rfl, ?_⟩
  have hrun : s.afterWritings (.object ref) [.assign name v] =
      s.setStore (Request.ofChange (s.host.store.setAttr (.object ref) name v) s.host.store).2 := rfl
  have hlt : m.offset < (s.host.store.instanceAt ref).fields.length :=
    (List.getElem?_eq_some_iff.1 hf).1
  have hafter (j : Instance) : (s.host.store.apply (.object ref j)).instanceAt ref = j :=
    Store.instanceAt_apply_object (Instance.ne_default_of_findMember? hm) j
  rw [hrun, hset]
  unfold Store.fieldAt
  show ((s.host.store.apply (.object ref _)).instanceAt ref).fields[m.offset]? ≠ _
  rw [hafter, hf]
  show ((s.host.store.instanceAt ref).fields.set m.offset content)[m.offset]? ≠ some f
  rw [List.getElem?_set_self hlt]
  intro heq
  exact hne (Option.some.inj heq)

/-! ## Main result -/

namespace Config

/-- In every `Reachable` configuration, whichever types are released: let the type of an instance derive
from `b` through the layers `above`, and let `b` declare a member at `m.offset` over which neither `b` nor
a base of `b` has a `readWrite` one. Then the field exists and only a member of a layer above opens it.
Unless the type `Opens` it, every row of assignments and deletions leaves it as it is; if it does and the
type is `live`, some assignment changes it. -/
theorem protection_unless_opened {c : Config} (h : c.Reachable) (released : List Identity)
    {ref : Ref} {i : Instance} (hi : c.session.host.store.instances.get? ref = some i)
    {above : List TypeLayer} {b : TypeObject} (hchain : i.type.chain = above ++ b.chain)
    {offset : Nat} {m : Member} (hm : m ∈ b.own.members) (hoffset : m.offset = offset)
    (honly : ∀ layer ∈ b.chain, ∀ m' ∈ layer.members, m'.offset = offset → m'.access = .readOnly) :
    let s := c.session.setStore { c.session.host.store with released }
    (∃ f, s.host.store.fieldAt ref offset = some f) ∧
      (i.type.Opens offset →
        ∃ layer ∈ above, ∃ m' ∈ layer.members, m'.offset = offset ∧ m'.access = .readWrite) ∧
      (¬ i.type.Opens offset → ∀ ws : List Writing, (∀ w ∈ ws, w.isNamed = true) →
        (s.afterWritings (.object ref) ws).host.store.fieldAt ref offset =
          s.host.store.fieldAt ref offset) ∧
      (i.type.Opens offset → s.host.store.live i.type = .ok i.type →
        ∃ w : Writing, w.isNamed = true ∧
          (s.afterWritings (.object ref) [w]).host.store.fieldAt ref offset ≠
            s.host.store.fieldAt ref offset) := by
  intro s
  have hat : s.host.store.instanceAt ref = i := Store.instanceAt_eq hi
  have hwithin : (s.host.store.instanceAt ref).Within TypeObject.Built :=
    (h.within.session.host.store.with _ released).instances ref
  refine ⟨?_, fun hopens => ?_, fun hclosed ws hnamed => ?_, fun hopens hlive => ?_⟩
  · -- The member of `b` fits the layout of the instance.
    have hlayer : b.own ∈ i.type.chain := by
      rw [hchain]
      exact List.mem_append_right above List.mem_cons_self
    have hfit : i.kinds[offset]? = some m.kind := by
      rw [hat] at hwithin
      rw [hwithin.sound.kinds_eq, ← hoffset]
      exact hwithin.type.fits b.own hlayer m hm
    obtain ⟨f, hf, -⟩ := Instance.exists_field hfit
    exact ⟨f, by unfold Store.fieldAt; rw [hat]; exact hf⟩
  · obtain ⟨layer, hlayer, m', hm', hm'offset, haccess⟩ := hopens.exists_layer
    rw [hchain] at hlayer
    rcases List.mem_append.1 hlayer with habove | hbelow
    · exact ⟨layer, habove, m', hm', hm'offset, haccess⟩
    · rw [honly layer hbelow m' hm' hm'offset] at haccess
      contradiction
  · exact s.fieldAt_afterWritings hnamed (hat ▸ hclosed)
  · subst hat
    exact Session.exists_writing_of_opens hwithin hlive hopens

def guardedMember : Member :=
  { name := "content", offset := 0, kind := .object, access := .readOnly }

/-- A class with a field and the read-only `guardedMember` over it. -/
def guardedDecl : TypeDecl Code :=
  { name := "Guarded", kind := .host, layout := [.object], members := [guardedMember] }

/-- A class with a read-write member over the field it inherits. -/
def openingDecl : TypeDecl Code :=
  { name := "Opening", kind := .host, members := [{ name := "open", offset := 0, kind := .object }] }

def makeGuarded (d : TypeDecl Code) : Config :=
  { control := .eval
      (.apply (.object .call) [.apply (.declare d) [.apply (.declare guardedDecl) []]])
    session := .ofSetup { sample := false } }

def guardedMade (d : TypeDecl Code) : Config := (makeGuarded d).after 8

theorem reachable_guardedMade (d : TypeDecl Code) : (guardedMade d).Reachable :=
  (Reachable.start _ _).after 8

def guarded (d : TypeDecl Code) : Instance := (guardedMade d).session.host.store.instanceAt 0

def guardedBase (d : TypeDecl Code) : TypeObject := ((guarded d).type.base?).getD default

/-- Derived by `plainDecl`, the field is protected. -/
theorem protection_unless_opened_plain :
    let s := (guardedMade plainDecl).session
    (guardedMade plainDecl).Reachable ∧ s.host.store.fieldAt 0 0 = some (.object none) ∧
      (s.afterWritings (.object 0)
        [.assign "content" (.bool true), .delete "content", .assign "open" (.bool true)]).host.store.fieldAt
          0 0 = some (.object none) := by
  intro s
  have hi : (guardedMade plainDecl).session.host.store.instances.get? 0 = some (guarded plainDecl) :=
    rfl
  have hchain : (guarded plainDecl).type.chain =
      [(guarded plainDecl).type.own] ++ (guardedBase plainDecl).chain := rfl
  have hm : guardedMember ∈ (guardedBase plainDecl).own.members := List.mem_cons_self
  have honly : ∀ layer ∈ (guardedBase plainDecl).chain, ∀ m ∈ layer.members,
      m.offset = 0 → m.access = .readOnly := by
    decide
  obtain ⟨-, habove, hprotected, -⟩ := protection_unless_opened (reachable_guardedMade plainDecl)
    s.host.store.released hi hchain hm rfl honly
  -- The only layer above the guarded base is that of `plainDecl`, which has no members.
  have hclosed : ¬ (guarded plainDecl).type.Opens 0 := by
    intro hopens
    obtain ⟨layer, hlayer, m, hm, -⟩ := habove hopens
    obtain rfl := List.mem_singleton.1 hlayer
    contradiction
  refine ⟨reachable_guardedMade plainDecl, rfl, ?_⟩
  exact hprotected hclosed _ (by decide)

/-- Derived by `openingDecl` it is not: what its base declares `readOnly` is changed under another name.
-/
theorem protection_lost_by_opening :
    let s := (guardedMade openingDecl).session
    (guardedMade openingDecl).Reachable ∧
      s.host.store.instances.get? 0 = some (guarded openingDecl) ∧
      (guarded openingDecl).type.chain =
        [(guarded openingDecl).type.own] ++ (guardedBase openingDecl).chain ∧
      guardedMember ∈ (guardedBase openingDecl).own.members ∧
      (∀ layer ∈ (guardedBase openingDecl).chain, ∀ m ∈ layer.members,
        m.offset = 0 → m.access = .readOnly) ∧
      (s.afterWritings (.object 0) [.assign "open" (.bool true)]).host.store.fieldAt 0 0 ≠
        s.host.store.fieldAt 0 0 := by
  intro s
  refine ⟨reachable_guardedMade openingDecl, rfl, rfl, List.mem_cons_self, by decide, ?_⟩
  have hbefore : s.host.store.fieldAt 0 0 = some (.object none) := rfl
  have hafter : (s.afterWritings (.object 0) [.assign "open" (.bool true)]).host.store.fieldAt 0 0 =
      some (.object (some (.bool true))) := rfl
  rw [hbefore, hafter]
  intro heq
  cases heq

end Config

end ObjectProtocol
