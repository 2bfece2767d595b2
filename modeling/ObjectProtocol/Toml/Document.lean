import ObjectProtocol.Toml.Scalar

/-!
# Reading documents

A document is read line by line: blank lines, headers, and keys with values.  Arrays and inline tables
may be nested below a fixed depth; below it the reading of values is by recursion on the levels that
are left, and every list of things is read within as many rounds as there are characters.
-/

namespace ObjectProtocol.Toml

open Reader

/-- How deeply `arrayItems` and `inlineEntries` may be nested, and keys dotted. -/
def maxNesting : Nat := 79

/-! ## Keys -/

def isBareKeyChar (c : Char) : Bool := c.isAlphanum || c = '_' || c = '-'

def keyPart : Reader String := do
  match ← peek? with
  | some '"' | some '\x27' => Quoted.line
  | _ => String.ofList <$> spanSome isBareKeyChar

def keyParts : Nat → Reader (List String)
  | 0 => failure
  | n + 1 => do
    blanks
    let part ← keyPart
    blanks
    if (← peek?) = some '.' then
      char '.'
      return part :: (← keyParts n)
    else return [part]

def key : Reader (List String × String) := do
  let parts ← keyParts ((← rest).length + 1)
  match parts.getLast? with
  | some last => if parts.length ≤ maxNesting then return (parts.dropLast, last) else failure
  | none => failure

/-! ## Values -/

def arrayItems (item : Reader Item) : Nat → Reader (List Item)
  | 0 => failure
  | n + 1 => do
    trivia
    if (← peek?) = some ']' then
      char ']'
      return []
    else
      let first ← item
      trivia
      if (← peek?) = some ',' then
        char ','
        return first :: (← arrayItems item n)
      else
        char ']'
        return [first]

def inlineEntry (item : Reader Item) (entries : Entries) : Reader Entries := do
  let (path, name) ← key
  char '='
  blanks
  let value ← item
  blanks
  match entries.addDotted? name value path with
  | some entries => return entries
  | none => failure

/-- The entries of an inline table up to the closing brace; no comma may follow the last one. -/
def inlineEntries (item : Reader Item) : Nat → Entries → Reader Entries
  | 0, _ => failure
  | n + 1, entries => do
    let entries ← inlineEntry item entries
    if (← peek?) = some ',' then
      char ','
      inlineEntries item n entries
    else
      char '\x7d'
      return entries

def inlineTable (item : Reader Item) : Reader Item := do
  blanks
  if (← peek?) = some '\x7d' then
    char '\x7d'
    return .table .inline []
  else return .table .inline (← inlineEntries item ((← rest).length + 1) [])

/-- A value, with as many levels of nesting as the number says, see `maxNesting`. -/
def value : Nat → Reader Item
  | 0 => scalar
  | levels + 1 => do
    match ← peek? with
    | some '[' =>
      char '['
      .array <$> arrayItems (value levels) ((← rest).length + 1)
    | some '\x7b' =>
      char '\x7b'
      inlineTable (value levels)
    | _ => scalar

/-! ## Lines -/

/-- What has been read: the whole document, and the path of the header that is in force. -/
structure Document where
  root : Entries := []
  header : List String := []

namespace Document

def entryLine (doc : Document) : Reader Document := do
  let (path, name) ← key
  char '='
  blanks
  let item ← value maxNesting
  lineTail
  match doc.root.changeAt? (·.addDotted? name item path) doc.header with
  | some root => return { doc with root }
  | none => failure

def tableLine (doc : Document) : Reader Document := do
  let (path, name) ← key
  char ']'
  lineTail
  match doc.root.changeAt? (·.openTable? name) path with
  | some root => return { root, header := path ++ [name] }
  | none => failure

/-- A line with a header in double brackets; `tableLine` has single ones. -/
def rowLine (doc : Document) : Reader Document := do
  let (path, name) ← key
  word [']', ']']
  lineTail
  match doc.root.changeAt? (·.openRow? name) path with
  | some root => return { root, header := path ++ [name] }
  | none => failure

def line (doc : Document) : Reader Document := do
  match ← rest with
  -- Two brackets side by side are one sign; with a blank between them they are none.
  | '[' :: '[' :: cs =>
    set cs
    doc.rowLine
  | '[' :: cs =>
    set cs
    doc.tableLine
  | '#' :: _ | '\n' :: _ | '\r' :: _ =>
    lineTail
    return doc
  | _ => doc.entryLine

def lines : Nat → Document → Reader Document
  | 0, _ => failure
  | n + 1, doc => do
    blanks
    if (← rest).isEmpty then return doc
    else lines n (← doc.line)

end Document

def byteOrderMark : Char := '\ufeff'

/-- The entries of a document, past a `byteOrderMark` if there is one. -/
def read? (text : String) : Option Entries :=
  let cs := match text.toList with
    | c :: cs => if c = byteOrderMark then cs else c :: cs
    | [] => []
  ((Document.lines (cs.length + 1) {}).run cs).map fun (doc, _) => doc.root

end ObjectProtocol.Toml
