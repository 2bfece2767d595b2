import ObjectProtocol.Declaration
import ObjectProtocol.Integer

/-!
# Expressions

What scripts and the bodies of host functions are made of.  An operation takes its operands evaluated,
from left to right; everything that decides what is evaluated at all has an expression form of its
own.  Operations fall into groups by what they can change: objects, random draws, the type registry,
or the variables and modules of the session.
-/

namespace ObjectProtocol

/-- Operations on values and objects. A type operand is an operand that evaluates to a `Value.type`. -/
inductive ObjectOp
  | tuple
  | list
  /-- Calls the first operand with the rest. -/
  | call
  /-- Looks the name up on the first operand and calls what it finds with the rest. -/
  | callMethod (name : String)
  | getAttr (name : String)
  | setAttr (name : String)
  | delAttr (name : String)
  | callable
  | depth
  /-- Binds the method that a type has under the name to any receiver. -/
  | bind (name : String)
  | len
  | contains
  | iter
  | next
  | nextOrRaise
  | collect
  | item
  | add
  /-- An iterator of the given type over the positions below a bound. -/
  | iterBound (bound : NativeInt)
  /-- An iterator of the type in the first operand over the remaining operands. -/
  | iterItems
  | eq
  | is
  | repr
  | str
  | truthy
  | typeName
  | views
  | push
  | put
  | debug
  | debugRuntime
  | typeOf
  | isInstance
  | subtype
  | lookup (name : String)
  | typeCount
  | find (name : String)
  | typeInfo
  | memberGet (m : Member)
  | memberSet (m : Member)
  | memberDelete (m : Member)
deriving DecidableEq, Repr

inductive DrawOp
  | coin
  | injectFault
deriving DecidableEq, Repr

/-- What a module exports. Types and objects are taken from the operands, in order. -/
inductive ExportDecl
  | function (name : String) (spec : ArgSpec) (routine : FunctionRoutine)
  | type (name : String)
  | int (name : String) (value : NativeInt)
  | object (name : String)
deriving DecidableEq, Repr

inductive SessionOp
  | getVariable (name : String)
  | setVariable (name : String)
  | dropVariable (name : String)
  | moduleAttr (module name : String)
  | moduleGet (module name : String)
  | moduleInfo (module name : String)
  | makeModule (name version : String) (exported : List ExportDecl)
  /-- Loads the sample module, again if it is already there. -/
  | loadSample
deriving DecidableEq, Repr

inductive Op (Code : Type)
  | object (op : ObjectOp)
  | draw (op : DrawOp)
  /-- Registers a type; an operand, if there is one, is its base. -/
  | declare (d : TypeDecl Code)
  /-- Makes a host function. -/
  | closure (name : String) (body : Code)
  | session (op : SessionOp)

inductive Expr
  | null
  | bool (b : Bool)
  | int (i : HostInt)
  | float (x : Float)
  | str (s : String)
  /-- Pairs of keys and values, evaluated and inserted one by one. -/
  | dict (pairs : List (Expr × Expr))
  | apply (op : Op (List Expr)) (operands : List Expr)
  /-- An argument of the innermost host function; null when it is missing. -/
  | arg (i : Nat)
  /-- All arguments of the innermost host function. -/
  | args
  /-- The value of the last expression. -/
  | seq (body : List Expr)
  | ite (condition yes no : Expr)
  /-- The list of the values of repeated evaluations. -/
  | repeat (count : Nat) (body : Expr)
  /-- Turns the outcome, value or exception, into a tuple. -/
  | attempt (body : Expr)
  | raise (e : Exception)

/-- The body of a host function or method: its value is that of the last expression, `null` if there is
none. -/
abbrev Code := List Expr

end ObjectProtocol
