import ObjectProtocol.Decimal.Style
import ObjectProtocol.Store

/-!
# Views

A view is a value with everything it refers to filled in, as it stands at one moment: what an answer
shows.  The text of a value is a printing of its view.  Object numbers mean nothing outside a run, so
the text of an instance has the letter `N` in their place.
-/

namespace ObjectProtocol

inductive View
  | null
  | bool (b : Bool)
  | int (i : HostInt)
  | float (x : Float)
  | str (text : String)
  | tuple (items : List View)
  | list (items : List View)
  | dict (entries : List (View × View))
  | object (typeName : String)
  | type (name : String)
  | function (name : String) (native : Bool)
  | method (name : String) (receiver : View)
  | iterator (typeName : String) (bound : NativeInt) (cursor : Cursor) (remaining : Nat)

namespace View

mutual

/-- Adds the text of a value to what is written already: texts in quotes, containers in brackets. -/
def write (out : String) : View → String
  | null => out ++ "None"
  | bool b => out ++ (if b then "True" else "False")
  | int i => out ++ i.text
  | float x => out ++ NumberStyle.exact.write x
  | str text => out ++ "'" ++ text ++ "'"
  | tuple items => writeItems (out ++ "(") items ++ (if items.length = 1 then ",)" else ")")
  | list items => writeItems (out ++ "[") items ++ "]"
  | dict entries => writeEntries (out ++ "\x7b") entries ++ "\x7d"
  | object typeName => out ++ "<" ++ typeName ++ " object #N>"
  | type name => out ++ "<class '" ++ name ++ "'>"
  | function name _ => out ++ "<function " ++ name ++ ">"
  | method name receiver => write (out ++ "<bound method " ++ name ++ " of ") receiver ++ ">"
  | iterator typeName .. => out ++ "<" ++ typeName ++ " object>"

def writeItems (out : String) : List View → String
  | [] => out
  | [item] => write out item
  | item :: rest => writeItems (write out item ++ ", ") rest

def writeEntries (out : String) : List (View × View) → String
  | [] => out
  | [(key, value)] => write (write out key ++ ": ") value
  | (key, value) :: rest => writeEntries (write (write out key ++ ": ") value ++ ", ") rest

end

def repr (v : View) : String := v.write ""

/-- The text of a value as plain output: a text stands for itself, all else is its `repr`. -/
def display : View → String
  | str text => text
  | v => v.repr

end View

namespace Value

mutual

def viewWith (s : Store) (lists : Ref → List View) (dicts : Ref → List (View × View)) :
    Value → View
  | null => .null
  | bool b => .bool b
  | int i => .int i
  | float x => .float x
  | str _ text => .str text
  | tuple _ items => .tuple (viewRowWith s lists dicts items)
  | list ref => .list (lists ref)
  | dict ref => .dict (dicts ref)
  | object ref => .object (s.instanceAt ref).type.name
  | type t => .type t.name
  | function f => .function f.name f.isNative
  | method _ receiver d => .method d.method.name (viewWith s lists dicts receiver)
  | iterator ref =>
    let it := s.iteratorAt ref
    .iterator it.type.name it.bound it.cursor it.remaining

def viewRowWith (s : Store) (lists : Ref → List View) (dicts : Ref → List (View × View)) :
    Array Value → List View
  | ⟨vs⟩ => viewAllWith s lists dicts vs

def viewAllWith (s : Store) (lists : Ref → List View) (dicts : Ref → List (View × View)) :
    List Value → List View
  | [] => []
  | v :: vs => viewWith s lists dicts v :: viewAllWith s lists dicts vs

end

end Value

namespace Store

/-- `viewWith` after at most the given number of look-ups along any path. -/
def viewWithin (s : Store) : Nat → Value → View
  | 0, v => v.viewWith s (fun _ => []) (fun _ => [])
  | n + 1, v =>
    v.viewWith s (fun ref => (s.listAt ref).toList.map (s.viewWithin n))
      (fun ref =>
        (s.dictAt ref).entries.toList.map fun entry => (s.viewWithin n entry.1, s.viewWithin n entry.2))

def view (s : Store) (v : Value) : View := s.viewWithin (s.lists.size + s.dicts.size) v

def repr (s : Store) (v : Value) : String := (s.view v).repr

def display (s : Store) (v : Value) : String := (s.view v).display

end Store

end ObjectProtocol
