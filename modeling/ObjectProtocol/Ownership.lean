import ObjectProtocol.Store
import Std.Data.HashMap
import Std.Data.HashSet

/-!
# Ownership

What is inside an owner is owned while the owner is owned itself, so ownership is followed from the
values that something holds.  `Search` goes that way, and looks for types.  Owners that nobody reaches
go, unless they own each other in a circle; `Clearance` tells which do.  An instance or an iterator
refers to its type without owning it.

Values share their parts, and there are far more ways to a part than parts.  So both go by owners, of
which each one is looked at once.
-/

namespace ObjectProtocol

/-- What owns other values: an immutable object by its `Identity`, or a cell of the store. -/
inductive Owner
  | fixed (id : Identity)
  | list (ref : Ref)
  | dict (ref : Ref)
  | object (ref : Ref)
  | iterator (ref : Ref)
deriving DecidableEq, Repr

instance : Hashable Owner where
  hash
    | .fixed id => hash (5 * id)
    | .list ref => hash (5 * ref + 1)
    | .dict ref => hash (5 * ref + 2)
    | .object ref => hash (5 * ref + 3)
    | .iterator ref => hash (5 * ref + 4)

/-- The owner that a value stands for; a derived type owns its base. -/
def Value.owner? : Value → Option Owner
  | .tuple id _ => some (.fixed id)
  | .method id _ _ => some (.fixed id)
  | .type t => some (.fixed t.id)
  | .list ref => some (.list ref)
  | .dict ref => some (.dict ref)
  | .object ref => some (.object ref)
  | .iterator ref => some (.iterator ref)
  | _ => none

namespace Store

def parts (s : Store) : Value → List Value
  | .tuple _ items => items.toList
  | .method _ receiver _ => [receiver]
  | .type t => (t.base?.map .type).toList
  | .list ref => (s.listAt ref).toList
  | .dict ref => (s.dictAt ref).entries.toList.flatMap fun entry => [entry.1, entry.2]
  | .object ref =>
    let i := s.instanceAt ref
    let stored := i.fields.filterMap fun
      | .object value => value
      | .int _ => none
    stored ++ i.dict.elim [] (·.values)
  | .iterator ref =>
    match (s.iteratorAt ref).source with
    | .items snapshot => snapshot.toList
    | .positions _ => []
  | _ => []

def cells (s : Store) : List Value :=
  (List.range s.lists.size).map .list ++ (List.range s.dicts.size).map .dict
    ++ (List.range s.instances.size).map .object ++ (List.range s.iterators.size).map .iterator

def ownerLimit (s : Store) : Nat :=
  s.nextId + s.lists.size + s.dicts.size + s.instances.size + s.iterators.size

end Store

/-- Takes a `step` for each value of a row that the steps may lengthen, in order from the given place on,
until the row is at its end or `enough` says so; at most the given number of steps. -/
def follow {σ : Type} (row : σ → Array Value) (enough : σ → Bool) (step : σ → Value → σ) :
    Nat → Nat → σ → σ
  | 0, _, state => state
  | n + 1, i, state =>
    if enough state then state
    else
      match (row state)[i]? with
      | none => state
      | some v => follow row enough step n (i + 1) (step state v)

/-! ## What is owned -/

structure Search where
  /-- The types to look for, from the first one on that has not been met. -/
  wanted : List Identity
  met : Std.HashSet Owner := {}
  /-- The owners that have been met, in order. -/
  row : Array Value := #[]

namespace Search

def hasMet (f : Search) (id : Identity) : Bool := f.met.contains (.fixed id)

def meet (f : Search) (v : Value) : Search :=
  match v.owner? with
  | none => f
  | some owner =>
    if f.met.contains owner then f
    else { f with met := f.met.insert owner, row := f.row.push v }

def meetAll (f : Search) (values : List Value) : Search :=
  let f := values.foldl meet f
  { f with wanted := f.wanted.dropWhile f.hasMet }

/-- Goes on among what the values own, until no type is `wanted` any more. -/
def extend (f : Search) (s : Store) (values : List Value) : Search :=
  follow (·.row) (·.wanted.isEmpty) (fun f v => f.meetAll (s.parts v)) s.ownerLimit f.row.size
    (f.meetAll values)

end Search

/-! ## What goes -/

/-- Owners that nobody reaches, and how often each is referred to by one that has not gone. -/
structure Clearance where
  references : Std.HashMap Owner Nat := {}
  row : Array Value := #[]

namespace Clearance

/-- Counts a reference to a value, unless its owner is `reached`. An owner outside the store joins the row
with the first reference to it. -/
def refer (reached : Std.HashSet Owner) (c : Clearance) (v : Value) : Clearance :=
  match v.owner? with
  | none => c
  | some owner =>
    if reached.contains owner then c
    else
      let count := c.references.getD owner 0
      { references := c.references.insert owner (count + 1)
        row :=
          match owner, count with
          | .fixed _, 0 => c.row.push v
          | _, _ => c.row }

/-- Takes a reference to a value away; with the last one its owner goes, and joins the row. -/
def drop (c : Clearance) (v : Value) : Clearance :=
  match v.owner? with
  | none => c
  | some owner =>
    match c.references.getD owner 0 with
    | 0 => c
    | 1 => { references := c.references.erase owner, row := c.row.push v }
    | count + 2 => { c with references := c.references.insert owner (count + 1) }

/-- What the cells that are not `reached` refer to, when those that nobody refers to have gone: the owners
that are left are kept by circles. -/
def run (s : Store) (reached : Std.HashSet Owner) : Clearance :=
  let unreached := s.cells.filter fun v => v.owner?.any (!reached.contains ·)
  let full : Clearance :=
    follow (·.row) (fun _ => false) (fun c v => (s.parts v).foldl (refer reached) c) s.ownerLimit 0
      { row := unreached.toArray }
  let loose := full.row.filter fun v => v.owner?.any (!full.references.contains ·)
  follow (·.row) (fun _ => false) (fun c v => (s.parts v).foldl drop c) s.ownerLimit 0
    { full with row := loose }

end Clearance

end ObjectProtocol
