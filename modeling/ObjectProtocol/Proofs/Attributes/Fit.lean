import ObjectProtocol.Proofs.Attributes.Resolution
import ObjectProtocol.Proofs.Provenance.Machine

/-!
# Members fit their instances

The fields of a sound instance are those of its type's layout, and the members on the chain of a type
that was built fit that layout.  So a member that a look-up finds always reads, and what it stores is
of the kind of its field: no attribute operation on a live instance runs into a broken invariant.
-/

namespace ObjectProtocol

def NoSystemError {α : Type} (x : Except Exception α) : Prop :=
  ∀ e, x = .error e → e.kind ≠ .systemError

/-! ## Members -/

section Members

variable {i : Instance} {m : Member} {s : Store} {v : Value}

/-- With a reason, only `invariantBroken` becomes a `systemError`. -/
theorem Failure.kind_because {code : FailureCode} (h : code ≠ .invariantBroken) (reason : String) :
    (because code reason).toException.kind ≠ .systemError := by
  cases code <;> first | contradiction | exact fun heq => by cases heq

theorem Instance.exists_field {offset : Nat} {kind : FieldKind}
    (h : i.kinds[offset]? = some kind) :
    ∃ field, i.fields[offset]? = some field ∧ field.kind = kind := by
  unfold kinds at h
  rw [List.getElem?_map] at h
  exact Option.map_eq_some_iff.1 h

theorem Member.exists_get (hfit : i.kinds[m.offset]? = some m.kind) : ∃ v, m.get i = .ok v := by
  obtain ⟨field, hfield, -⟩ := Instance.exists_field hfit
  unfold Member.get Instance.read
  rw [hfield]
  exact ⟨_, rfl⟩

theorem Member.kind_of_content {content : Field} (h : m.content s v = .ok content) :
    content.kind = m.kind := by
  unfold Member.content at h
  split at h
  · rename_i hkind
    cases h
    exact hkind.symm
  · -- An int member stores what converts to a native integer, and nothing else.
    rename_i hkind
    rw [hkind]
    split at h
    · cases hn : s.toNative v with
      | error f =>
        rw [hn] at h
        contradiction
      | ok n =>
        rw [hn] at h
        cases h
        rfl
    · contradiction

theorem Instance.write_eq (offset : Nat) {content : Field}
    (h : i.kinds[offset]? = some content.kind) :
    i.write offset content = .ok { i with fields := i.fields.set offset content } :=
  write_eq_ok_iff.2 ⟨h, rfl⟩

theorem Store.toNative_error {f : Failure} (h : s.toNative v = .error f) :
    f.toException.kind ≠ .systemError := by
  unfold toNative at h
  split at h
  · split at h
    · contradiction
    · cases h
      exact Failure.kind_because (by decide) _
  · cases h
    exact Failure.kind_because (by decide) _

theorem Member.content_error {f : Failure} (h : m.content s v = .error f) :
    f.toException.kind ≠ .systemError := by
  unfold Member.content at h
  split at h
  · contradiction
  · split at h
    · cases hn : s.toNative v with
      | error g =>
        rw [hn] at h
        cases h
        exact Store.toNative_error hn
      | ok n =>
        rw [hn] at h
        contradiction
    · cases h
      exact Failure.kind_because (by decide) _

theorem Member.set_error (hfit : i.kinds[m.offset]? = some m.kind) {f : Failure}
    (h : m.set s i v = .error f) : f.toException.kind ≠ .systemError := by
  unfold Member.set at h
  split at h
  · cases h
    decide
  · split at h
    · rename_i g hcontent
      cases h
      exact Member.content_error hcontent
    · -- The content is of the member's kind, so the field takes it.
      rename_i content hcontent
      rw [Instance.write_eq _ (hfit.trans (congrArg some (kind_of_content hcontent).symm))] at h
      contradiction

theorem Member.delete_error (hfit : i.kinds[m.offset]? = some m.kind) {f : Failure}
    (h : m.delete i = .error f) : f.toException.kind ≠ .systemError := by
  unfold Member.delete at h
  split at h
  · cases h
    decide
  · split at h
    · rename_i hkind
      rw [hkind] at hfit
      rw [Instance.write_eq _ hfit] at h
      contradiction
    · cases h
      decide

end Members

/-! ## Attribute operations -/

/-- Every member that `findMember?` gives is over a field of its kind. -/
def Instance.Fitted (i : Instance) : Prop :=
  ∀ name m, i.type.findMember? name = some m → i.kinds[m.offset]? = some m.kind

theorem Instance.Within.fitted {i : Instance} (h : i.Within TypeObject.Built) : i.Fitted := by
  intro name m hm
  rw [h.sound.kinds_eq]
  exact h.type.fits.of_findMember? hm

namespace Store

variable {s : Store} {target : Value}

/-- How an operation on attributes fails: by an `Ordinary` exception, or on an instance, because its type
is not live or because `run` fails on the member that the look-up finds. -/
def AttributeFails {α : Type} (s : Store) (target : Value) (name : String)
    (run : Member → Instance → Except Failure α) (e : Exception) : Prop :=
  e.kind ≠ .systemError ∨ ∃ ref, target = .object ref ∧
    (s.live (s.instanceAt ref).type = .error e ∨
      ∃ m f, (s.instanceAt ref).type.findMember? name = some m ∧
        run m (s.instanceAt ref) = .error f ∧ e = f.toException)

theorem AttributeFails.elim {α : Type} {name : String} {run : Member → Instance → Except Failure α}
    {e : Exception} {Q : Exception → Prop} (h : s.AttributeFails target name run e)
    (hQ : ∀ e, e.kind ≠ .systemError → Q e)
    (hlive : ∀ ref, target = .object ref → ∃ t, s.live (s.instanceAt ref).type = .ok t)
    (hrun : ∀ ref m, target = .object ref → (s.instanceAt ref).type.findMember? name = some m →
      ∀ f, run m (s.instanceAt ref) = .error f → Q f.toException) : Q e := by
  rcases h with hkind | ⟨ref, rfl, hdead | ⟨m, f, hm, hf, rfl⟩⟩
  · exact hQ e hkind
  · obtain ⟨t, ht⟩ := hlive ref rfl
    rw [ht] at hdead
    contradiction
  · exact hrun ref m rfl hm f hf

theorem getAttr_fails {name : String} {e : Exception} (h : s.getAttr target name = .error e) :
    s.AttributeFails target name Member.get e := by
  unfold getAttr at h
  split at h
  · rename_i ref
    split at h
    · -- The type of the instance is not live.
      rename_i e' hlive
      cases h
      exact Or.inr ⟨ref, rfl, Or.inl hlive⟩
    · split at h
      · -- A member is found, and its field cannot be read; methods and entries never fail.
        rename_i m hm
        split at h
        · contradiction
        · rename_i f hf
          cases h
          exact Or.inr ⟨ref, rfl, Or.inr ⟨m, f, Instance.findMember?_of_attribute? hm, hf, rfl⟩⟩
      · contradiction
      · contradiction
      · cases h
        exact Or.inl fun hkind => by cases hkind
  · -- A type has its three attributes, and every other name is missing.
    split at h
    · contradiction
    · split at h
      · contradiction
      · split at h
        · contradiction
        · cases h
          exact Or.inl fun hkind => by cases hkind
  · cases h
    exact Or.inl fun hkind => by cases hkind

theorem exists_of_mapError {α β : Type} {x : Except Failure α} {f : α → β} {e : Exception}
    (h : (x.map f).mapError Failure.toException = .error e) :
    ∃ failure, x = .error failure ∧ e = failure.toException := by
  cases x with
  | ok a => contradiction
  | error failure =>
    cases h
    exact ⟨failure, rfl, rfl⟩

theorem AttributeFails.of_member {α β : Type} {name : String} {run : Member → Instance → Except Failure α}
    {f : α → β} {e : Exception} {ref : Ref} {m : Member}
    (hm : (s.instanceAt ref).type.findMember? name = some m)
    (h : ((run m (s.instanceAt ref)).map f).mapError Failure.toException = .error e) :
    s.AttributeFails (.object ref) name run e := by
  obtain ⟨failure, hrun, rfl⟩ := exists_of_mapError h
  exact Or.inr ⟨ref, rfl, Or.inr ⟨m, failure, hm, hrun, rfl⟩⟩

theorem setAttr_fails {name : String} {v : Value} {e : Exception}
    (h : s.setAttr target name v = .error e) :
    s.AttributeFails target name (fun m i => m.set s i v) e := by
  unfold setAttr at h
  split at h
  · rename_i ref
    dsimp only at h
    split at h
    · -- The type of the instance is not live.
      rename_i e' hlive
      cases h
      exact Or.inr ⟨ref, rfl, Or.inl hlive⟩
    · rename_i t hlive
      obtain rfl := s.live_yields _ t hlive
      split at h
      · rename_i m hm
        exact .of_member hm h
      · -- No member: a method is read-only, and without a dictionary there is no attribute.
        split at h
        · cases h
          exact Or.inl fun hkind => by cases hkind
        · split at h
          · contradiction
          · cases h
            exact Or.inl fun hkind => by cases hkind
  · cases h
    exact Or.inl fun hkind => by cases hkind

theorem delAttr_fails {name : String} {e : Exception} (h : s.delAttr target name = .error e) :
    s.AttributeFails target name Member.delete e := by
  unfold delAttr at h
  split at h
  · rename_i ref
    dsimp only at h
    split at h
    · -- The type of the instance is not live.
      rename_i e' hlive
      cases h
      exact Or.inr ⟨ref, rfl, Or.inl hlive⟩
    · rename_i t hlive
      obtain rfl := s.live_yields _ t hlive
      split at h
      · rename_i m hm
        exact .of_member hm h
      · -- No member: the entry is missing.
        split at h
        · contradiction
        · cases h
          exact Or.inl fun hkind => by cases hkind
  · cases h
    exact Or.inl fun hkind => by cases hkind

/-- The type of the value is `live`, and if it is an instance, it is `Fitted`. -/
structure Ready (s : Store) (target : Value) : Prop where
  live : ∀ ref, target = .object ref → ∃ t, s.live (s.instanceAt ref).type = .ok t
  fitted : ∀ ref, target = .object ref → (s.instanceAt ref).Fitted

theorem noSystemError_getAttr (h : s.Ready target) (name : String) :
    NoSystemError (s.getAttr target name) := by
  intro e he
  refine (getAttr_fails he).elim (fun e he => he) h.live fun ref m href hm f hf => ?_
  -- A member reads, for it fits.
  obtain ⟨v, hv⟩ := Member.exists_get (h.fitted ref href name m hm)
  rw [hv] at hf
  contradiction

theorem noSystemError_setAttr (h : s.Ready target) (name : String) (v : Value) :
    NoSystemError (s.setAttr target name v) := by
  intro e he
  refine (setAttr_fails he).elim (fun e he => he) h.live fun ref m href hm f hf => ?_
  exact Member.set_error (h.fitted ref href name m hm) hf

theorem noSystemError_delAttr (h : s.Ready target) (name : String) :
    NoSystemError (s.delAttr target name) := by
  intro e he
  refine (delAttr_fails he).elim (fun e he => he) h.live fun ref m href hm f hf => ?_
  exact Member.delete_error (h.fitted ref href name m hm) hf

end Store

/-! ## Main result -/

namespace Config

/-- In every `Reachable` configuration, whichever types are released: an instance has the fields of its
type's `layout`, and every member of the chain is over a field of its kind. So `getAttr`, `setAttr` and
`delAttr` on a value whose type is `live` raise no `systemError`. -/
theorem members_fit {c : Config} (h : c.Reachable) (released : List Identity) :
    let s := { c.session.host.store with released }
    (∀ ref i, s.instances.get? ref = some i →
      i.kinds = i.type.own.layout ∧
        (∀ layer ∈ i.type.chain, ∀ m ∈ layer.members,
          i.type.own.layout[m.offset]? = some m.kind) ∧
        ∀ name m, i.type.findMember? name = some m →
          i.type.own.layout[m.offset]? = some m.kind) ∧
      ∀ v t, c.session.host.runtime.typeOf s v = .ok t → ∀ name,
        NoSystemError (s.getAttr v name) ∧ (∀ w, NoSystemError (s.setAttr v name w)) ∧
          NoSystemError (s.delAttr v name) := by
  intro s
  have hstore : s.Within TypeObject.Built := h.within.session.host.store.with _ released
  refine ⟨?_, ?_⟩
  · -- The instance is the one that the store reads at its place.
    intro ref i hi
    have hwithin : i.Within TypeObject.Built := by
      have hat := hstore.instances ref
      unfold Store.instanceAt at hat
      rw [hi] at hat
      exact hat
    exact ⟨hwithin.sound.kinds_eq, hwithin.type.fits,
      fun name m hm => hwithin.type.fits.of_findMember? hm⟩
  · intro v t ht name
    -- An instance that has a type has a live one.
    have hready : s.Ready v := by
      refine ⟨fun ref hv => ?_, fun ref _ => (hstore.instances ref).fitted⟩
      subst hv
      exact ⟨t, ht⟩
    exact ⟨Store.noSystemError_getAttr hready name, Store.noSystemError_setAttr hready name,
      Store.noSystemError_delAttr hready name⟩

def cellDecl : TypeDecl Code :=
  { name := "Cell", kind := .host, layout := [.object]
    members := [{ name := "content", offset := 0, kind := .object }] }

def plainDecl : TypeDecl Code := { name := "Plain", kind := .host }

def makeCell : Config :=
  { control := .eval
      (.apply (.object .call) [.apply (.declare plainDecl) [.apply (.declare cellDecl) []]])
    session := .ofSetup { sample := false } }

def cellMade : Config := makeCell.after 8

theorem reachable_cellMade : cellMade.Reachable := (Reachable.start _ _).after 8

def cell : Instance := cellMade.session.host.store.instanceAt 0

/-- The member of `cellDecl` fits an instance of the class derived from it. -/
theorem members_fit_cellMade :
    cellMade.Reachable ∧ cellMade.session.host.store.instances.get? 0 = some cell ∧
      cell.type.own.members = [] ∧
      (∀ m, cell.type.findMember? "content" = some m →
        cell.type.own.layout[m.offset]? = some m.kind) ∧
      NoSystemError (cellMade.session.host.store.getAttr (.object 0) "content") := by
  have hcell : cellMade.session.host.store.instances.get? 0 = some cell := rfl
  obtain ⟨hinstances, hattributes⟩ :=
    members_fit reachable_cellMade cellMade.session.host.store.released
  have hlive : cellMade.session.host.runtime.typeOf cellMade.session.host.store (.object 0) =
      .ok cell.type := rfl
  exact ⟨reachable_cellMade, hcell, rfl, (hinstances 0 cell hcell).2.2 "content",
    (hattributes (.object 0) cell.type hlive "content").1⟩

end Config

end ObjectProtocol
