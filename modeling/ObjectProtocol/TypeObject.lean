import ObjectProtocol.Expr

/-!
# Types

A type is a chain of layers: its own layer, then that of its base, and so on.  Look-ups take the
first layer that has what is asked for, so they are searches of a list, and a type derives from every
type whose layer is in its chain.  `TypeDecl.build` checks a declaration against the base it derives
from; the layers of a type that was built agree on the layout of its instances.
-/

namespace ObjectProtocol

/-- A number that tells types, and everything else that has an identity, apart. -/
abbrev Identity := Nat

structure TypeLayer where
  id : Identity
  name : String
  doc : Option String := none
  kind : TypeKind
  /-- The fields of every instance, including those the base prescribes. -/
  layout : List FieldKind := []
  members : List Member := []
  methods : List (Method Code) := []
  slots : Slots := {}
  basetype : Bool := false
  hasDict : Bool := false

/-- A type: its own layer, followed by those of its bases, nearest first. -/
structure TypeObject where
  own : TypeLayer
  bases : List TypeLayer := []

/-- A method as it is found on a type, with the type that declares it. -/
structure Descriptor where
  owner : Identity
  method : Method Code

namespace Descriptor

def same (d e : Descriptor) : Bool := d.owner = e.owner && d.method.name = e.method.name

end Descriptor

namespace TypeLayer

def member? (layer : TypeLayer) (name : String) : Option Member :=
  layer.members.find? (·.name = name)

def descriptor? (layer : TypeLayer) (name : String) : Option Descriptor :=
  (layer.methods.find? (·.name = name)).map fun m => ⟨layer.id, m⟩

end TypeLayer

namespace TypeObject

instance : Inhabited TypeObject := ⟨⟨{ id := 0, name := "", kind := .builtin }, []⟩⟩

def id (t : TypeObject) : Identity := t.own.id

def name (t : TypeObject) : String := t.own.name

def chain (t : TypeObject) : List TypeLayer := t.own :: t.bases

def base? (t : TypeObject) : Option TypeObject :=
  match t.bases with
  | [] => none
  | layer :: rest => some ⟨layer, rest⟩

def findMember? (t : TypeObject) (name : String) : Option Member :=
  t.chain.findSome? (·.member? name)

def findMethod? (t : TypeObject) (name : String) : Option Descriptor :=
  t.chain.findSome? (·.descriptor? name)

def findSlot? {α : Type} (t : TypeObject) (pick : Slots → Option α) : Option α :=
  t.chain.findSome? fun layer => pick layer.slots

/-- Whether `t` is the type `u` or derives from it. -/
def isSubtype (t u : TypeObject) : Bool := t.chain.any (·.id = u.id)

def builtin (id : Identity) (name : String) : TypeObject := ⟨{ id, name, kind := .builtin }, []⟩

@[simp] theorem base?_mk_nil (layer : TypeLayer) : (TypeObject.mk layer []).base? = none := rfl

@[simp] theorem base?_mk_cons (layer first : TypeLayer) (rest : List TypeLayer) :
    (TypeObject.mk layer (first :: rest)).base? = some ⟨first, rest⟩ := rfl

/-- What the own layer does not declare, `findMember?` takes from the base. -/
theorem findMember?_eq (t : TypeObject) (name : String) :
    t.findMember? name =
      (t.own.member? name).or (t.base?.bind fun b => b.findMember? name) := by
  obtain ⟨own, bases⟩ := t
  cases bases <;> cases h : own.member? name <;> simp [findMember?, chain, base?, h]

theorem findMethod?_eq (t : TypeObject) (name : String) :
    t.findMethod? name =
      (t.own.descriptor? name).or (t.base?.bind fun b => b.findMethod? name) := by
  obtain ⟨own, bases⟩ := t
  cases bases <;> cases h : own.descriptor? name <;> simp [findMethod?, chain, base?, h]

theorem isSubtype_refl (t : TypeObject) : t.isSubtype t = true := by
  simp [isSubtype, chain, id]

end TypeObject

/-! ## Building types -/

def firstRepeated : List String → Option String
  | [] => none
  | names => go [] names
where
  go (seen : List String) : List String → Option String
    | [] => none
    | name :: rest => if name ∈ seen then some name else go (name :: seen) rest

namespace TypeDecl

def layoutOver (d : TypeDecl Code) (base : Option TypeObject) : List FieldKind :=
  match base with
  | some b => if b.own.layout.isEmpty then d.layout else b.own.layout
  | none => d.layout

/-- Instances carry an attribute dictionary iff the type or one that it derives from is a `host` class. -/
def hasDictOver (d : TypeDecl Code) (base : Option TypeObject) : Bool :=
  d.kind = .host || base.any (·.own.hasDict)

/-- The first fault of the declaration over the given base: the base must be a `basetype`, at most one of
both may have fields, members must fit the layout, and names may not repeat. -/
def fault? (d : TypeDecl Code) (base : Option TypeObject) : Option Failure :=
  (base.bind fun b =>
    if !b.own.basetype then
      some (.because .typeMismatch ("type '" ++ b.name ++ "' is not an acceptable base type"))
    else if !b.own.layout.isEmpty && !d.layout.isEmpty then
      some (.because .invariantBroken
        ("'" ++ d.name ++ "' redeclares the layout inherited from '" ++ b.name ++ "'"))
    else none)
  |>.or ((d.members.find? fun m => (d.layoutOver base)[m.offset]? ≠ some m.kind).map fun m =>
    .because .invariantBroken
      ("member '" ++ m.name ++ "' of '" ++ d.name ++ "' does not match field "
        ++ toString m.offset ++ " of the layout"))
  |>.or (repeated (d.members.map (·.name)))
  |>.or (repeated (d.methods.map (·.name)))
where
  repeated (names : List String) : Option Failure :=
    (firstRepeated names).map fun name =>
      .because .invariantBroken ("'" ++ d.name ++ "' declares '" ++ name ++ "' twice")

/-- The type with the given identity that the declaration describes, unless `fault?` finds one. -/
def build (d : TypeDecl Code) (id : Identity) (base : Option TypeObject) :
    Except Failure TypeObject :=
  match d.fault? base with
  | some f => .error f
  | none => .ok
      { own :=
          { id, name := d.name, doc := d.doc, kind := d.kind, layout := d.layoutOver base,
            members := d.members, methods := d.methods, slots := d.slots,
            basetype := d.isBasetype, hasDict := d.hasDictOver base }
        bases := base.elim [] (·.chain) }

end TypeDecl

end ObjectProtocol
