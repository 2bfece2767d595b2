import ObjectProtocol.Proofs.Attributes.Agreement
import ObjectProtocol.Proofs.Growth.Runs

/-!
# Descriptors stay what they are

Reading an attribute asks the dictionary before it asks the bases, and still a dictionary never hides
what a base declares: no entry has a declared name.  So the dictionary might as well come last, and what
a name means on an instance, if it is a member or a method, is decided by the type alone.  As instances
keep their types, the name means the same from then on.
-/

namespace ObjectProtocol

def Attribute.isDescriptor : Attribute → Bool
  | member _ | method _ => true
  | entry _ => false

/-! ## The dictionary last -/

/-- The own layer before all others, and from the base on members before methods, as in `attribute?`. -/
def TypeObject.declared? (t : TypeObject) (name : String) : Option Attribute :=
  (t.own.attribute? name).or (t.base?.bind (·.attribute? name))

/-- `Instance.attribute?` with the dictionary asked after the bases. -/
def Instance.attributeDictLast? (i : Instance) (name : String) : Option Attribute :=
  (i.type.declared? name).or ((i.dict.bind (·.get? name)).map .entry)

namespace TypeObject

variable {t : TypeObject} {name : String}

theorem declared?_eq_none (hmember : t.findMember? name = none)
    (hmethod : t.findMethod? name = none) : t.declared? name = none := by
  have hown := own_member?_of_findMember? hmember
  have hown' := own_descriptor?_of_findMethod? hmethod
  unfold declared? TypeLayer.attribute?
  rw [hown, hown', attribute?_of_own_none hown hown']
  unfold attribute?
  rw [hmember, hmethod]
  rfl

theorem undeclared_of_find (hmember : t.findMember? name = none)
    (hmethod : t.findMethod? name = none) {layer : TypeLayer} (hlayer : layer ∈ t.chain) :
    (∀ m ∈ layer.members, m.name ≠ name) ∧ ∀ m ∈ layer.methods, m.name ≠ name := by
  have hmember := List.findSome?_eq_none_iff.1 hmember layer hlayer
  have hmethod := List.findSome?_eq_none_iff.1 hmethod layer hlayer
  unfold TypeLayer.member? at hmember
  unfold TypeLayer.descriptor? at hmethod
  rw [Option.map_eq_none_iff] at hmethod
  constructor
  · intro m hm
    simpa using List.find?_eq_none.1 hmember m hm
  · intro m hm
    simpa using List.find?_eq_none.1 hmethod m hm

end TypeObject

theorem Table.exists_get?_of_mem_names {α : Type} {t : Table α} {name : String}
    (h : name ∈ t.names) : ∃ a, t.get? name = some a := by
  obtain ⟨entry, hentry, rfl⟩ := List.mem_map.1 h
  have hfound : (t.entries.find? (·.1 = entry.1)).isSome := by
    rw [List.find?_isSome]
    exact ⟨entry, hentry, by simp⟩
  obtain ⟨found, hfound⟩ := Option.isSome_iff_exists.1 hfound
  refine ⟨found.2, ?_⟩
  unfold get?
  rw [hfound]
  rfl

namespace Instance

variable {i j : Instance} {name : String} {a : Attribute}

theorem declared?_of_attribute? (h : i.attribute? name = some a) (ha : a.isDescriptor = true) :
    i.type.declared? name = some a := by
  unfold attribute? attributeAs? at h
  unfold TypeObject.declared?
  cases hown : i.type.own.attribute? name with
  | some own =>
    rw [hown] at h
    exact h
  | none =>
    rw [hown, Option.none_or] at h
    rw [Option.none_or]
    cases hentry : i.dict.bind (·.get? name) with
    | some v =>
      -- An entry is no descriptor.
      rw [hentry] at h
      cases h
      contradiction
    | none =>
      rw [hentry] at h
      exact h

namespace Sound

/-- On a `Sound` instance either the dictionary or the type is silent about a name. -/
theorem attribute?_eq_dictLast (h : i.Sound) (name : String) :
    i.attribute? name = i.attributeDictLast? name := by
  unfold attributeDictLast?
  cases hentry : i.dict.bind (·.get? name) with
  | none =>
    unfold attribute? attributeAs? TypeObject.declared?
    rw [hentry]
    simp only [Option.map_none, Option.or_none]
  | some v =>
    obtain ⟨hmember, hmethod⟩ := h.undeclared name v hentry
    rw [attribute?_of_undeclared hmember hmethod,
      TypeObject.declared?_eq_none hmember hmethod, hentry, Option.none_or]

theorem attribute?_of_declared? (h : i.Sound) (hd : i.type.declared? name = some a) :
    i.attribute? name = some a := by
  rw [h.attribute?_eq_dictLast]
  unfold attributeDictLast?
  rw [hd, Option.some_or]

theorem attribute?_of_type_eq (hj : j.Sound) (htype : j.type = i.type)
    (h : i.attribute? name = some a) (ha : a.isDescriptor = true) :
    j.attribute? name = some a := by
  have hd := declared?_of_attribute? h ha
  rw [← htype] at hd
  exact hj.attribute?_of_declared? hd

theorem undeclared_of_mem_names (h : i.Sound) {table : Table Value} (hdict : i.dict = some table)
    (hname : name ∈ table.names) {layer : TypeLayer} (hlayer : layer ∈ i.type.chain) :
    (∀ m ∈ layer.members, m.name ≠ name) ∧ ∀ m ∈ layer.methods, m.name ≠ name := by
  obtain ⟨v, hv⟩ := Table.exists_get?_of_mem_names hname
  obtain ⟨hmember, hmethod⟩ := h.undeclared name v (by rw [hdict, Option.bind_some, hv])
  exact TypeObject.undeclared_of_find hmember hmethod hlayer

end Sound

end Instance

/-! ## Reading -/

namespace Store

/-- `Store.getAttr` with `resolve` in place of `Instance.attribute?`. -/
def getAttrBy (resolve : Instance → String → Option Attribute) (s : Store) (target : Value)
    (name : String) : Except Exception Sketch :=
  match target with
  | .object ref =>
    match s.live (s.instanceAt ref).type with
    | .error e => .error e
    | .ok _ =>
      match resolve (s.instanceAt ref) name with
      | some (.member m) =>
        match m.get (s.instanceAt ref) with
        | .ok v => .ok (.given v)
        | .error f => .error f.toException
      | some (.method d) => .ok (.method target d)
      | some (.entry v) => .ok (.given v)
      | none => .error (s.noAttribute target name)
  | target => s.getAttr target name

theorem getAttr_eq_getAttrBy (s : Store) (target : Value) (name : String) :
    s.getAttr target name = s.getAttrBy Instance.attribute? target name := by
  cases target <;> rfl

theorem getAttrBy_congr {s : Store} {resolve resolve' : Instance → String → Option Attribute}
    {name : String}
    (h : ∀ ref, resolve (s.instanceAt ref) name = resolve' (s.instanceAt ref) name)
    (target : Value) : s.getAttrBy resolve target name = s.getAttrBy resolve' target name := by
  cases target with
  | object ref =>
    unfold getAttrBy
    dsimp only
    rw [h ref]
  | _ => rfl

/-- What `getAttr` answers, by what the name means on the instance. -/
def ReadsAs (s : Store) (ref : Ref) (name : String) : Option Attribute → Prop
  | some (.member m) =>
    ∃ v, m.get (s.instanceAt ref) = .ok v ∧ s.getAttr (.object ref) name = .ok (.given v)
  | some (.method d) => s.getAttr (.object ref) name = .ok (.method (.object ref) d)
  | some (.entry v) => s.getAttr (.object ref) name = .ok (.given v)
  | none => s.getAttr (.object ref) name = .error (s.noAttribute (.object ref) name)

theorem readsAs_attribute? {s : Store} {ref : Ref} {t : TypeObject}
    (hlive : s.live (s.instanceAt ref).type = .ok t) (hfitted : (s.instanceAt ref).Fitted)
    (name : String) : s.ReadsAs ref name ((s.instanceAt ref).attribute? name) := by
  cases h : (s.instanceAt ref).attribute? name with
  | none => exact getAttr_of_none hlive h
  | some a =>
    cases a with
    | member m =>
      have hfit := hfitted name m (Instance.findMember?_of_attribute? h)
      obtain ⟨v, hv⟩ := Member.exists_get hfit
      exact ⟨v, hv, getAttr_of_member hlive h hv⟩
    | method d => exact getAttr_of_method hlive h
    | entry v => exact getAttr_of_entry hlive h

end Store

/-! ## Main result -/

namespace Config

/-- In every `Reachable` configuration, whichever types are released: no layer of an instance's type
declares the name of a dictionary entry, so `getAttr` answers the same with `attributeDictLast?`. A name
that means a member or a method means the same one in every later configuration, where `getAttr` goes by
it as long as the type is `live`. -/
theorem descriptors_stable {c : Config} (h : c.Reachable) (released : List Identity) :
    let s := { c.session.host.store with released }
    (∀ ref i table, s.instances.get? ref = some i → i.dict = some table →
      ∀ name ∈ table.names, ∀ layer ∈ i.type.chain,
        (∀ m ∈ layer.members, m.name ≠ name) ∧ ∀ m ∈ layer.methods, m.name ≠ name) ∧
      (∀ v name, s.getAttr v name = s.getAttrBy Instance.attributeDictLast? v name) ∧
      ∀ c', c.LeadsTo c' → ∀ released' : List Identity,
        let s' := { c'.session.host.store with released := released' }
        ∀ ref i, s.instances.get? ref = some i → ∃ j, s'.instances.get? ref = some j ∧
          j.type = i.type ∧
          ∀ name a, i.attribute? name = some a → a.isDescriptor = true →
            j.attribute? name = some a ∧
              (s'.live j.type = .ok j.type → s'.ReadsAs ref name (some a)) := by
  intro s
  have hstore : s.Within TypeObject.Built := h.within.session.host.store.with _ released
  refine ⟨?_, ?_, ?_⟩
  · intro ref i table hi hdict name hname layer hlayer
    have hsound := (hstore.instances ref).sound
    rw [Store.instanceAt_eq hi] at hsound
    exact hsound.undeclared_of_mem_names hdict hname hlayer
  · intro v name
    rw [Store.getAttr_eq_getAttrBy]
    refine Store.getAttrBy_congr (fun ref => ?_) v
    exact (hstore.instances ref).sound.attribute?_eq_dictLast name
  · intro c' hc' released' s' ref i hi
    have hstore' : s'.Within TypeObject.Built :=
      (h.leadsTo hc').within.session.host.store.with _ released'
    -- The instance is still there, with its type.
    obtain ⟨j, hj, htype⟩ := hc'.keepsTypes ref i hi
    have hat : s'.instanceAt ref = j := Store.instanceAt_eq hj
    have hwithin := hstore'.instances ref
    rw [hat] at hwithin
    refine ⟨j, hj, htype, fun name a ha hdescriptor => ?_⟩
    have hattribute := hwithin.sound.attribute?_of_type_eq htype ha hdescriptor
    refine ⟨hattribute, fun hlive => ?_⟩
    rw [← hat] at hattribute hlive hwithin
    have hreads := Store.readsAs_attribute? hlive hwithin.fitted name
    rw [hattribute] at hreads
    exact hreads

def makeNoted : Config :=
  { control := .eval (.apply (.object (.setAttr "note"))
      [.apply (.object .call) [.apply (.declare plainDecl) [.apply (.declare cellDecl) []]], .null])
    session := .ofSetup { sample := false } }

def unnoted : Config := makeNoted.after 7

def noted : Config := unnoted.after 5

theorem reachable_unnoted : unnoted.Reachable := (Reachable.start _ _).after 7

/-- Between `unnoted` and `noted` the member stays what it was, and the name of the new entry is not
declared. -/
theorem descriptors_stable_noted :
    unnoted.Reachable ∧ unnoted.LeadsTo noted ∧
      ∃ i j table m, unnoted.session.host.store.instances.get? 0 = some i ∧
        i.attribute? "content" = some (.member m) ∧
        noted.session.host.store.instances.get? 0 = some j ∧ j.dict = some table ∧
        table.names = ["note"] ∧ (∀ m ∈ j.type.own.members, m.name ≠ "note") ∧
        j.attribute? "content" = some (.member m) ∧
        noted.session.host.store.ReadsAs 0 "content" (some (.member m)) := by
  have hleads : unnoted.LeadsTo noted := LeadsTo.refl.after 5
  obtain ⟨i, hi⟩ : ∃ i, unnoted.session.host.store.instances.get? 0 = some i := ⟨_, rfl⟩
  obtain ⟨m, hm⟩ : ∃ m, i.attribute? "content" = some (.member m) := by
    cases hi
    exact ⟨_, rfl⟩
  obtain ⟨table, hdict⟩ :
      ∃ table, (noted.session.host.store.instanceAt 0).dict = some table := ⟨_, rfl⟩
  have hnames : table.names = ["note"] := by
    cases hdict
    rfl
  -- The theorem is used twice: before the assignment for the member, and after it for the entry.
  obtain ⟨-, -, hstable⟩ := descriptors_stable reachable_unnoted []
  obtain ⟨j, hj, htype, hdescriptors⟩ := hstable noted hleads [] 0 i hi
  obtain ⟨hattribute, hreads⟩ := hdescriptors "content" (.member m) hm rfl
  have hat : noted.session.host.store.instanceAt 0 = j := Store.instanceAt_eq hj
  rw [hat] at hdict
  obtain ⟨hundeclared, -⟩ := descriptors_stable (reachable_unnoted.leadsTo hleads) []
  obtain ⟨hmembers, -⟩ := hundeclared 0 j table hj hdict "note" (by rw [hnames]; decide) j.type.own
    List.mem_cons_self
  exact ⟨reachable_unnoted, hleads, i, j, table, m, hi, hm, hj, hdict, hnames, hmembers, hattribute,
    hreads rfl⟩

end Config

end ObjectProtocol
