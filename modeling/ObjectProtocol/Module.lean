import ObjectProtocol.Table
import ObjectProtocol.Value

/-!
# Modules

A module is a named table of functions, types, constants and other values.
-/

namespace ObjectProtocol

structure Module where
  name : String
  version : String
  exported : Table Value := {}

namespace Module

instance : Inhabited Module := ⟨{ name := "", version := "" }⟩

/-- Exports a value; an earlier one of the same name is replaced. -/
def add (m : Module) (name : String) (v : Value) : Module :=
  { m with exported := m.exported.insert name v }

def get? (m : Module) (name : String) : Option Value := m.exported.get? name

def attr (m : Module) (name : String) : Except Exception Value :=
  match m.get? name with
  | some v => .ok v
  | none =>
    .error ⟨.attributeError, "module '" ++ m.name ++ "' has no attribute '" ++ name ++ "'"⟩

def has (m : Module) (name : String) : Bool := m.exported.contains name

def names (m : Module) : List String := m.exported.names

def size (m : Module) : Nat := m.exported.size

def isEmpty (m : Module) : Bool := m.exported.entries.isEmpty

end Module

end ObjectProtocol
