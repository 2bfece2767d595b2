import ObjectProtocol.Debug
import ObjectProtocol.Module
import ObjectProtocol.Sketch

/-!
# Descriptions

What values, types and modules tell about themselves, as tuples and dictionaries of plain values.
-/

namespace ObjectProtocol

namespace Sketch

def ofViews (v : Value) : Sketch :=
  tuple
    [bool v.isNull, bool v.isInt, optional bool v.asBool?, optional (fun i => given (.int i)) v.asInt?,
      optional text v.asText?, optional (fun items => count items.size) v.asTuple?,
      bool v.isObject, bool v.asType?.isSome]

def ofFieldKind : FieldKind → Sketch
  | .object => text "object"
  | .int => text "int"

def ofMember (m : Member) : Sketch :=
  tuple
    [text m.name, count m.offset, ofFieldKind m.kind,
      text (match m.access with
        | .readWrite => "ReadWrite"
        | .readOnly => "ReadOnly")]

def ofMethod (m : Method Code) : Sketch :=
  tuple [text m.name, count m.spec.min, optional count m.spec.max, bool m.isNative]

def ofTypeKind : TypeKind → Sketch
  | .builtin => text "Builtin"
  | .native => text "Native"
  | .host => text "Host"

def ofType (t : TypeObject) : Sketch :=
  dict
    [("name", text t.name),
      ("doc", optional text t.own.doc),
      ("kind", ofTypeKind t.own.kind),
      ("base", optional (fun b => text b.name) t.base?),
      ("layout", tuple (t.own.layout.map ofFieldKind)),
      ("members", tuple (t.own.members.map ofMember)),
      ("methods", tuple (t.own.methods.map ofMethod)),
      ("slots", text (Debug.slots t.own.slots)),
      ("basetype", bool t.own.basetype),
      ("has_dict", bool t.own.hasDict)]

def ofFind (t : TypeObject) (name : String) : Sketch :=
  tuple
    [bool (t.own.member? name).isSome, bool (t.findMember? name).isSome,
      bool (t.own.descriptor? name).isSome, bool (t.findMethod? name).isSome]

def ofModule (m : Module) (name : String) : Sketch :=
  tuple
    [text m.name, text m.version, tuple (m.names.map text), count m.size, bool m.isEmpty,
      bool (m.has name)]

end Sketch

end ObjectProtocol
