import ObjectProtocol.Host
import ObjectProtocol.Text
import ObjectProtocol.View

/-!
# Debug texts

The structured form of functions, instances, method declarations and the runtime: a word, and the
fields by name between braces.
-/

namespace ObjectProtocol.Debug

def record (word : String) (fields : List (String × String)) : String :=
  let written := fields.map fun (name, value) => name ++ ": " ++ value
  word ++ " \x7b " ++ ", ".intercalate written ++ " \x7d"

def list (items : List String) : String := "[" ++ ", ".intercalate items ++ "]"

def option (x : Option String) : String :=
  match x with
  | some text => "Some(" ++ text ++ ")"
  | none => "None"

def bool (b : Bool) : String := if b then "true" else "false"

def function (f : Function) : String :=
  record "Function"
    [("name", Text.quoted f.name), ("kind", Text.quoted (if f.isNative then "native" else "host"))]

def param : Param → String
  | .any => "Any"
  | .int => "Int"
  | .str => "Str"

def argSpec (spec : ArgSpec) : String :=
  record "ArgSpec"
    [("name", option (spec.name.map Text.quoted)),
      ("params", list (spec.params.map param)),
      ("min", toString spec.min),
      ("max", option (spec.max.map toString))]

def method (m : Method Code) : String :=
  record "MethodDescriptor"
    [("name", Text.quoted m.name), ("spec", argSpec m.spec), ("native", bool m.isNative)]

def field (s : Store) : Field → String
  | .object value => "Object(" ++ option (value.map s.repr) ++ ")"
  | .int n => "Int(" ++ toString n.val ++ ")"

def object (s : Store) (i : Instance) : String :=
  record "Instance"
    [("id", "ObjectId(N)"), ("type", Text.quoted i.type.name),
      ("fields", list (i.fields.map (field s)))]

/-- Functions, instances and bound methods in their structured form, all else as `Store.repr` writes it.
-/
def value (s : Store) : Value → String
  | .function f => function f
  | .object ref => object s (s.instanceAt ref)
  | .method _ _ d => method d.method
  | v => s.repr v

def options (o : Options) : String :=
  record "RuntimeOptions"
    [("limits", record "ResourceLimits" [("max_call_depth", toString o.maxCallDepth)]),
      ("mutation_policy", o.mutationPolicy.debugWord),
      ("seed", toString o.seed.toNat),
      ("fault_probability", NumberStyle.exact.write o.faultProbability)]

def runtime (rt : Runtime) : String :=
  record "Runtime"
    [("options", options rt.options), ("types", toString rt.registry.size),
      ("depth", toString rt.depth)]

def slots (s : Slots) : String := list (s.names.map Text.quoted)

end ObjectProtocol.Debug
