import ObjectProtocol.Module
import ObjectProtocol.Host
import ObjectProtocol.Sample.Bound

/-!
# The sample module

The sample module exports the box, the counter, and a handful of functions; loading it registers its
three types anew, so that names stand for the newest of them.
-/

namespace ObjectProtocol.Sample

def boxDecl : TypeDecl Code :=
  let native (name : String) (spec : ArgSpec) (m : BoxMethod) : Method Code :=
    ⟨name, spec, .native (.box m)⟩
  { name := "basic.Cbox"
    kind := .native
    doc := some "Custom native box"
    layout := [.object, .int]
    basetype := some true
    slots := { new := some .box, init := some .box }
    members :=
      [{ name := "counter", offset := 1, kind := .int },
        { name := "contents", offset := 0, kind := .object, access := .readOnly }]
    methods :=
      [native "getcontents" .empty .getContents,
        native "getcounter" .empty .getCounter,
        native "getdata" .empty .getData,
        native "brokengetdata" .empty .brokenGetData,
        native "getdatadict" .empty .getDataDict,
        native "incr" .empty .incr,
        native "maybe_incr" .empty .maybeIncr,
        native "maybe_incr2" .empty .maybeIncr,
        native "callback" (ArgSpec.empty.required .any) .callback] }

def counterIteratorDecl : TypeDecl Code :=
  { name := counterIteratorName
    kind := .native
    doc := some "Iterator over the positions of a Counter" }

def counterDecl : TypeDecl Code :=
  { name := "basic.Counter"
    kind := .native
    doc := some "Sequence of the integers below a bound"
    layout := [.int]
    basetype := some true
    slots :=
      { init := some .counter
        length := some (.int 0)
        contains := some .counter
        iter := some .counter }
    methods := [⟨"__len__", .empty, .native .rawLength⟩] }

def vsumSpec : ArgSpec :=
  (((ArgSpec.empty.required .int).optional .int).optional .int).optional .int

def functions : List (String × ArgSpec × SampleFunction) :=
  [("typ", ArgSpec.empty.required .any, .typ),
    ("raise_exc", .varargs, .raiseExc),
    ("forget_raise", .varargs, .forgetRaise),
    ("id_check", .varargs, .idCheck),
    ("random_fail", .varargs, .randomFail),
    ("return_true", .varargs, .returnTrue),
    ("return_false", .varargs, .returnFalse),
    ("return_bool", .varargs, .returnBool),
    ("return_none", .varargs, .returnNone),
    ("vsum", vsumSpec, .vsum),
    ("vsum2", .unpack 1 3, .vsum2)]

def addFunctions (m : Module) (h : Host) :
    List (String × ArgSpec × SampleFunction) → Module × Host
  | [] => (m, h)
  | (name, spec, f) :: rest =>
    let (v, h) := h.newNative name spec (.sample f)
    addFunctions (m.add name v) h rest

/-- Registers the types of the module and makes its `Module`. -/
def load (h : Host) : Except Failure (Module × Host) :=
  match h.register boxDecl none with
  | .error f => .error f
  | .ok (box, h) =>
    match h.register counterIteratorDecl none with
    | .error f => .error f
    | .ok (_, h) =>
      match h.register counterDecl none with
      | .error f => .error f
      | .ok (counter, h) =>
        let m : Module := { name := "basic", version := "0.1.0" }
        let m := (m.add "Cbox" (.type box)).add "Counter" (.type counter)
        .ok (addFunctions (m.add "version" (.int 0)) h functions)

end ObjectProtocol.Sample
