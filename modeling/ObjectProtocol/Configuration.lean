import ObjectProtocol.Options
import ObjectProtocol.Toml.Document

/-!
# Configuration files

Options are read from a document with the keys `seed`, `fault_probability`, `mutation_policy` and
`limits`.  Keys that are left out keep their defaults and other keys are refused; the ranges of the
values are checked afterwards.
-/

namespace ObjectProtocol

namespace Toml.Item

def natural? : Item → Option Nat
  | int n => if 0 ≤ n.val then some n.val.toNat else none
  | _ => none

def float? : Item → Option Float
  | float x => some x
  | int n => some n.toHost.toFloat
  | _ => none

def isEmpty : Item → Bool
  | table _ entries => entries.isEmpty
  | array items => items.isEmpty
  | tables rows => rows.isEmpty
  | _ => false

end Toml.Item

namespace Options

open Toml

/-- A policy by its `word`, or as a table that has the word as its only key and nothing under it. -/
def policyOf? : Item → Option MutationPolicy
  | .str word => MutationPolicy.ofWord? word
  | .table _ [(word, content)] => if content.isEmpty then MutationPolicy.ofWord? word else none
  | _ => none

/-- The limits as a table, or as an array of which the first item is `maxCallDepth`. -/
def limitsOf? (item : Item) (default : Nat) : Option Nat :=
  match item with
  | .table _ [] => some default
  | .table _ [(name, depth)] => if name = "max_call_depth" then depth.natural? else none
  | .array [] => some default
  | .array (depth :: _) => depth.natural?
  | _ => none

def withEntry? (o : Options) (name : String) (item : Item) : Option Options :=
  match name with
  | "seed" => item.natural?.map fun n => { o with seed := UInt64.ofNat n }
  | "fault_probability" => item.float?.map fun x => { o with faultProbability := x }
  | "mutation_policy" => (policyOf? item).map fun p => { o with mutationPolicy := p }
  | "limits" => (limitsOf? item o.maxCallDepth).map fun n => { o with maxCallDepth := n }
  | _ => none

/-- The options that a text describes, if `Options.validate` accepts them. -/
def ofToml (text : String) : Except ConfigError Options :=
  let read : Option Options := do
    (← read? text).foldlM (fun o (name, item) => withEntry? o name item) {}
  match read with
  | some o => o.validate
  | none => .error .parse

/-- The options in a file with these bytes; a missing file and one that is not UTF-8 are `ConfigError.io`.
-/
def ofFile (bytes : Option ByteArray) : Except ConfigError Options :=
  match bytes.bind String.fromUTF8? with
  | some text => ofToml text
  | none => .error .io

end Options

end ObjectProtocol
