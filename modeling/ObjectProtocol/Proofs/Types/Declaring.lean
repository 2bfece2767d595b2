import ObjectProtocol.Proofs.BuiltTypes
import ObjectProtocol.Sample.Module

/-!
# Declarations that are accepted

A declaration describes a type over a base exactly if the two are consistent: the base may be derived
from, one of them at most says what the fields are, members name fields that are there, and no name is
declared twice.  A base that may not be derived from is a type mismatch; whatever else is wrong breaks an
invariant.
-/

namespace ObjectProtocol

/-! ## Names that are declared twice -/

theorem firstRepeated.go_eq_none_iff {seen names : List String} :
    firstRepeated.go seen names = none ↔ names.Nodup ∧ ∀ name ∈ names, name ∉ seen := by
  -- A name goes from the ones still to come to those seen, so both conditions are carried along.
  induction names generalizing seen with
  | nil => simp [firstRepeated.go]
  | cons name rest ih =>
    unfold firstRepeated.go
    by_cases hseen : name ∈ seen
    · simp [hseen]
    · rw [if_neg hseen, ih]
      simp only [List.nodup_cons, List.mem_cons, forall_eq_or_imp, not_or]
      constructor
      · rintro ⟨hdistinct, hrest⟩
        exact ⟨⟨fun hmem => (hrest name hmem).1 rfl, hdistinct⟩, hseen, fun m hm => (hrest m hm).2⟩
      · rintro ⟨⟨hfresh, hdistinct⟩, -, hrest⟩
        exact ⟨hdistinct, fun m hm => ⟨fun heq => hfresh (heq ▸ hm), hrest m hm⟩⟩

theorem firstRepeated_eq_none_iff {names : List String} :
    firstRepeated names = none ↔ names.Nodup := by
  cases names with
  | nil => simp [firstRepeated]
  | cons name rest => simp [firstRepeated, firstRepeated.go_eq_none_iff]

namespace TypeDecl

variable {d : TypeDecl Code} {id : Identity} {base : Option TypeObject} {t : TypeObject} {f : Failure}

/-! ## Consistency -/

def prescribed (base : Option TypeObject) : List FieldKind := base.elim [] (·.own.layout)

/-- The fields of the instances: those `prescribed` by the base, else those declared. -/
def fields (d : TypeDecl Code) (base : Option TypeObject) : List FieldKind :=
  if prescribed base = [] then d.layout else prescribed base

/-- What a declaration has to satisfy for `TypeDecl.build` over the base. -/
structure Consistent (d : TypeDecl Code) (base : Option TypeObject) : Prop where
  accepted : ¬ Refused base
  /-- The base says what the fields are, or the declaration does, but not both. -/
  oneLayout : prescribed base = [] ∨ d.layout = []
  membersFit : ∀ m ∈ d.members, ∃ h : m.offset < (d.fields base).length,
    (d.fields base)[m.offset] = m.kind
  distinctMembers : (d.members.map (·.name)).Nodup
  distinctMethods : (d.methods.map (·.name)).Nodup

theorem layoutOver_eq_fields (d : TypeDecl Code) (base : Option TypeObject) :
    d.layoutOver base = d.fields base := by
  cases base with
  | none => rfl
  | some b => by_cases hnone : b.own.layout = [] <;> simp [layoutOver, fields, prescribed, hnone]

theorem baseFault?_eq_none_iff :
    d.baseFault? base = none ↔ ¬ Refused base ∧ (prescribed base = [] ∨ d.layout = []) := by
  unfold baseFault? Refused prescribed
  cases base with
  | none => simp
  | some b => cases hb : b.own.basetype <;> simp [hb]; grind

theorem misfit?_eq_none_iff :
    d.misfit? base = none ↔ ∀ m ∈ d.members, ∃ h : m.offset < (d.fields base).length,
      (d.fields base)[m.offset] = m.kind := by
  simp [misfit?, layoutOver_eq_fields, List.find?_eq_none, List.getElem?_eq_some_iff]

theorem repeated_eq_none_iff {names : List String} :
    fault?.repeated d names = none ↔ names.Nodup := by
  rw [fault?.repeated, Option.map_eq_none_iff, firstRepeated_eq_none_iff]

theorem fault?_eq_none_iff : d.fault? base = none ↔ d.Consistent base := by
  rw [fault?_eq, Option.or_eq_none_iff, Option.or_eq_none_iff, Option.or_eq_none_iff,
    Option.map_eq_none_iff, baseFault?_eq_none_iff, misfit?_eq_none_iff, repeated_eq_none_iff,
    repeated_eq_none_iff]
  constructor
  · rintro ⟨⟨⟨⟨haccepted, hlayout⟩, hmembers⟩, hnames⟩, hmethods⟩
    exact ⟨haccepted, hlayout, hmembers, hnames, hmethods⟩
  · rintro ⟨haccepted, hlayout, hmembers, hnames, hmethods⟩
    exact ⟨⟨⟨⟨haccepted, hlayout⟩, hmembers⟩, hnames⟩, hmethods⟩

/-! ## What is told -/

/-- The code of any fault of a declaration over the base. -/
def blame (base : Option TypeObject) : FailureCode :=
  if Refused base then .typeMismatch else .invariantBroken

theorem blame_eq_typeMismatch_iff : blame base = .typeMismatch ↔ Refused base := by
  unfold blame
  split <;> simp_all

theorem Fault.code_eq (h : d.Fault base f) : f.code = blame base := by
  cases h with
  | refused hbase hrefused => exact (if_pos ⟨_, hbase, hrefused⟩).symm
  | redeclared haccepted | misfit _ haccepted | repeated _ haccepted => exact (if_neg haccepted).symm

/-! ## Main result -/

theorem exists_build_iff : (∃ t, d.build id base = .ok t) ↔ d.Consistent base := by
  rw [← fault?_eq_none_iff]
  refine ⟨fun ⟨t, ht⟩ => fault?_of_build ht, fun hnone => ?_⟩
  unfold build
  rw [hnone]
  exact ⟨_, rfl⟩

theorem code_of_build (h : d.build id base = .error f) : f.code = blame base := by
  unfold build at h
  split at h
  · cases h
    exact (fault_of_fault? ‹_›).code_eq
  · contradiction

theorem build_of_refused (h : Refused base) : ∃ f, d.build id base = .error f := by
  cases hbuild : d.build id base with
  | ok t => exact absurd h (exists_build_iff.1 ⟨t, hbuild⟩).accepted
  | error f => exact ⟨f, rfl⟩

/-- For every declaration over every base that is `Built`, or over none: `TypeDecl.build` succeeds iff the
declaration is `Consistent` with the base; it fails with `typeMismatch` iff the base is `Refused`, and
with `invariantBroken` whenever anything else is wrong. The type derives from the base, has the layout
`fields`, and its instances have a dictionary iff it or a layer of the base is a host class. -/
theorem builds_exactly_consistent (d : TypeDecl Code) (id : Identity) (base : Option TypeObject)
    (hbase : ∀ b, base = some b → b.Built) :
    ((∃ t, d.build id base = .ok t) ↔ d.Consistent base) ∧
    ((∃ f, d.build id base = .error f ∧ f.code = .typeMismatch) ↔ Refused base) ∧
    (∀ f, d.build id base = .error f → ¬ Refused base → f.code = .invariantBroken) ∧
    ∀ t, d.build id base = .ok t →
      t.base? = base ∧ t.own.layout = d.fields base ∧
      (t.own.hasDict = true ↔
        d.kind = .host ∨ ∃ b, base = some b ∧ ∃ layer ∈ b.chain, layer.kind = .host) := by
  refine ⟨exists_build_iff, ⟨fun ⟨f, hf, hcode⟩ => ?_, fun hrefused => ?_⟩, fun f hf hnot => ?_,
    fun t ht => ⟨base?_of_build ht, ?_, ?_⟩⟩
  · -- The code tells the two reasons for rejection apart.
    exact blame_eq_typeMismatch_iff.1 ((code_of_build hf).symm.trans hcode)
  · obtain ⟨f, hf⟩ : ∃ f, d.build id base = .error f := build_of_refused hrefused
    exact ⟨f, hf, (code_of_build hf).trans (blame_eq_typeMismatch_iff.2 hrefused)⟩
  · exact (code_of_build hf).trans (if_neg hnot)
  · rw [layout_of_build ht, layoutOver_eq_fields]
  · have hown : t.own.kind = d.kind := by rw [eq_of_build ht]
    rw [(TypeObject.Built.declared hbase ht).hasDict_iff, chain_of_build ht]
    cases base <;> simp [hown]

def tallyDecl : TypeDecl Code :=
  { name := "Tally", kind := .host, members := [{ name := "tally", offset := 1, kind := .int }] }

/-- `tallyDecl` is `Consistent` with the box, and refused without a base. -/
theorem builds_exactly_consistent_tally :
    ∃ box, Sample.boxDecl.build 5 none = .ok box ∧ box.Built ∧ tallyDecl.Consistent (some box) ∧
      ¬ tallyDecl.Consistent none ∧
      ∃ t, tallyDecl.build 6 (some box) = .ok t ∧ t.own.layout = [.object, .int] ∧
        t.own.hasDict = true := by
  have hbox (box : TypeObject) (h : Sample.boxDecl.build 5 none = .ok box) : box.Built :=
    .declared (fun b hb => by contradiction) h
  refine ⟨_, rfl, hbox _ rfl, ?_, ?_, _, rfl, ?_, ?_⟩
  · exact (builds_exactly_consistent tallyDecl 6 _ fun b hb => by cases hb; exact hbox _ rfl).1.1
      ⟨_, rfl⟩
  · intro h
    obtain ⟨t, ht⟩ := (builds_exactly_consistent tallyDecl 6 none fun b hb => by contradiction).1.2 h
    contradiction
  · rfl
  · rfl

end TypeDecl

end ObjectProtocol
