import ObjectProtocol.Sketch

/-!
# Attributes

What a name means on an instance is decided by `Instance.attribute?`: first what the exact type
declares, then the instance's dictionary, then what the bases declare, members before methods.
Assignment and deletion look at the members of the whole chain first.  Reading answers with a sketch
and the other two with a change of the one instance; what raises has changed nothing.
-/

namespace ObjectProtocol

/-! ## Members -/

namespace Member

/-- The value of the field at `m.offset`; an absent reference reads as `null`. -/
def get (m : Member) (i : Instance) : Except Failure Value :=
  (i.read m.offset).map fun
    | .object value => value.getD .null
    | .int n => .ofNative n

/-- The content that assigning `v` would store in a field of the member's kind. -/
def content (m : Member) (s : Store) (v : Value) : Except Failure Field :=
  match m.kind with
  | .object => .ok (.object (some v))
  | .int =>
    if v.isInt then (s.toNative v).map .int
    else
      .error (.because .typeMismatch
        ("attribute '" ++ m.name ++ "' must be int, not " ++ s.typeName v))

def readOnlyFailure : Failure := .because .readOnlyWrite "readonly attribute"

def set (m : Member) (s : Store) (i : Instance) (v : Value) : Except Failure Instance :=
  match m.access with
  | .readOnly => .error readOnlyFailure
  | .readWrite =>
    match m.content s v with
    | .error f => .error f
    | .ok content => i.write m.offset content

def delete (m : Member) (i : Instance) : Except Failure Instance :=
  match m.access with
  | .readOnly => .error readOnlyFailure
  | .readWrite =>
    match m.kind with
    | .object => i.write m.offset (.object none)
    | .int => .error (.because .typeMismatch "can't delete numeric/char attribute")

end Member

/-! ## Look-up -/

inductive Attribute
  | member (m : Member)
  | method (d : Descriptor)
  | entry (v : Value)

/-- What the whole chain declares under the name: all members, by `findMember?`, before all methods. -/
def TypeObject.attribute? (t : TypeObject) (name : String) : Option Attribute :=
  ((t.findMember? name).map .member).or ((t.findMethod? name).map .method)

def TypeLayer.attribute? (layer : TypeLayer) (name : String) : Option Attribute :=
  ((layer.member? name).map .member).or ((layer.descriptor? name).map .method)

/-- What the name means on the instance, were it of type `t`: the own layer of `t`, the dictionary, then
the bases of `t`. -/
def Instance.attributeAs? (i : Instance) (t : TypeObject) (name : String) : Option Attribute :=
  (t.own.attribute? name)
  |>.or ((i.dict.bind (·.get? name)).map .entry)
  |>.or (t.base?.bind (·.attribute? name))

def Instance.attribute? (i : Instance) (name : String) : Option Attribute :=
  i.attributeAs? i.type name

namespace Store

def noAttribute (s : Store) (target : Value) (name : String) : Exception :=
  ⟨.attributeError, "'" ++ s.typeName target ++ "' object has no attribute '" ++ name ++ "'"⟩

def getAttr (s : Store) (target : Value) (name : String) : Except Exception Sketch :=
  match target with
  | .object ref =>
    match s.live (s.instanceAt ref).type with
    | .error e => .error e
    | .ok _ =>
      match (s.instanceAt ref).attribute? name with
      | some (.member m) =>
        match m.get (s.instanceAt ref) with
        | .ok v => .ok (.given v)
        | .error f => .error f.toException
      | some (.method d) => .ok (.method target d)
      | some (.entry v) => .ok (.given v)
      | none => .error (s.noAttribute target name)
  | .type t =>
    if name = "__name__" then .ok (.text t.name)
    else if name = "__doc__" then .ok (.optional .text t.own.doc)
    else if name = "__base__" then .ok (.given (t.base?.elim .null .type))
    else
      .error ⟨.attributeError,
        "type object '" ++ t.name ++ "' has no attribute '" ++ name ++ "'"⟩
  | target => .error (s.noAttribute target name)

def setAttr (s : Store) (target : Value) (name : String) (v : Value) : Except Exception Change :=
  match target with
  | .object ref =>
    let i := s.instanceAt ref
    match s.live i.type with
    | .error e => .error e
    | .ok t =>
      -- A declared name never reaches the dictionary, so an entry cannot hide what a base declares.
      match t.findMember? name with
      | some m => ((m.set s i v).map (.object ref)).mapError Failure.toException
      | none =>
        if (t.findMethod? name).isSome then
          .error ⟨.attributeError,
            "'" ++ t.name ++ "' object attribute '" ++ name ++ "' is read-only"⟩
        else
          match i.dict with
          | some dict => .ok (.object ref { i with dict := some (dict.insert name v) })
          | none => .error (s.noAttribute target name)
  | target => .error (s.noAttribute target name)

/-- `Member.delete` for a declared member; otherwise the entry of the dictionary goes. -/
def delAttr (s : Store) (target : Value) (name : String) : Except Exception Change :=
  match target with
  | .object ref =>
    let i := s.instanceAt ref
    match s.live i.type with
    | .error e => .error e
    | .ok t =>
      match t.findMember? name with
      | some m => ((m.delete i).map (.object ref)).mapError Failure.toException
      | none =>
        match i.dict.bind (·.get? name) with
        | some _ => .ok (.object ref { i with dict := i.dict.map (·.erase name) })
        | none => .error (s.noAttribute target name)
  | target => .error (s.noAttribute target name)

end Store

end ObjectProtocol
