import ObjectProtocol.Integer

/-!
# Documents as trees

A document is a table of items.  Tables come about in four ways, and which of them a later line may
still add to depends on the way: a header may open a table that so far only stood on the way to
another one, and a dotted key may go on in tables that were not opened by a header or written inline.
-/

namespace ObjectProtocol.Toml

inductive TableForm
  /-- On the way of a header. -/
  | implicit
  /-- On the way of a dotted key. -/
  | dotted
  /-- Opened by a header, or the whole document. -/
  | explicit
  /-- Written between braces. -/
  | inline
deriving DecidableEq, Repr

inductive Item
  | str (s : String)
  | int (n : NativeInt)
  | float (x : Float)
  | bool (b : Bool)
  /-- A date, a time, or both; nothing asks which. -/
  | datetime
  | array (items : List Item)
  | table (form : TableForm) (entries : List (String × Item))
  /-- Tables opened one after the other under the same name, earliest first. -/
  | tables (rows : List (List (String × Item)))

/-- The entries of a table, in the order in which they were first named. -/
abbrev Entries := List (String × Item)

namespace Entries

def get? (entries : Entries) (name : String) : Option Item :=
  (entries.find? (·.1 = name)).map (·.2)

def put (entries : Entries) (name : String) (item : Item) : Entries :=
  if entries.any (·.1 = name) then
    entries.map fun entry => if entry.1 = name then (name, item) else entry
  else entries ++ [(name, item)]

def add? (entries : Entries) (name : String) (item : Item) : Option Entries :=
  if entries.any (·.1 = name) then none else some (entries ++ [(name, item)])

/-- Adds an entry under a dotted name. The tables on the way must be open to dotted names, and the last
one must have been made by one. -/
def addDotted? (entries : Entries) (name : String) (item : Item) : List String → Option Entries
  | [] => entries.add? name item
  | first :: rest =>
    match entries.get? first with
    | none => do
      let inner ← addDotted? [] name item rest
      return entries.put first (.table .dotted inner)
    | some (.table form inner) =>
      if form = .explicit ∨ form = .inline ∨ (rest.isEmpty ∧ form ≠ .dotted) then none
      else do
        let inner ← addDotted? inner name item rest
        return entries.put first (.table form inner)
    | some (.tables rows) =>
      if rest.isEmpty then none
      else do
        let last ← addDotted? (rows.getLastD []) name item rest
        return entries.put first (.tables (rows.dropLast ++ [last]))
    | some _ => none

/-- Changes the table at a path of headers, making the tables on the way that are not there yet. -/
def changeAt? (change : Entries → Option Entries) (entries : Entries) :
    List String → Option Entries
  | [] => change entries
  | first :: rest =>
    match entries.get? first with
    | none => do
      let inner ← changeAt? change [] rest
      return entries.put first (.table .implicit inner)
    | some (.table form inner) =>
      if form = .inline then none
      else do
        let inner ← changeAt? change inner rest
        return entries.put first (.table form inner)
    | some (.tables rows) => do
      let last ← changeAt? change (rows.getLastD []) rest
      return entries.put first (.tables (rows.dropLast ++ [last]))
    | some _ => none

/-- Opens the table of a header, which may have stood on the way to another one before. -/
def openTable? (entries : Entries) (name : String) : Option Entries :=
  match entries.get? name with
  | none => some (entries.put name (.table .explicit []))
  | some (.table .implicit inner) => some (entries.put name (.table .explicit inner))
  | some _ => none

def openRow? (entries : Entries) (name : String) : Option Entries :=
  match entries.get? name with
  | none => some (entries.put name (.tables [[]]))
  | some (.tables rows) => some (entries.put name (.tables (rows ++ [[]])))
  | some _ => none

end Entries

end ObjectProtocol.Toml
