/-!
# Native routines by name

Native code is not written by the host: a declaration refers to it by name.  These types list the
routines that exist, one type for each place where a routine can stand.  What a routine does is
defined where the objects it works on are known.
-/

namespace ObjectProtocol

/-- Routines that serve functions and methods alike; they look at the parsed `Args` only. -/
inductive StockRoutine
  /-- All arguments as a tuple. -/
  | values
  /-- The narrowed integers, place by place. -/
  | narrowed
  | first
  | text
  | extract
  /-- Fails with a given code and perhaps a reason. -/
  | fail
  /-- Raises an exception of the host. -/
  | raise
  /-- Calls the first argument with the remaining ones. -/
  | invoke
deriving DecidableEq, Repr

inductive InstanceRoutine
  | receiver
  /-- Type name, number of fields, and whether there is an attribute dictionary. -/
  | info
  | getInt
  | setInt
  | getObject
  | setObject
deriving DecidableEq, Repr

inductive SampleFunction
  | typ
  | raiseExc
  | forgetRaise
  | idCheck
  | randomFail
  | returnTrue
  | returnFalse
  | returnBool
  | returnNone
  | vsum
  | vsum2
deriving DecidableEq, Repr

inductive BoxMethod
  | getContents
  | getCounter
  | getData
  | brokenGetData
  | getDataDict
  | incr
  | maybeIncr
  | callback
deriving DecidableEq, Repr

inductive FunctionRoutine
  | stock (r : StockRoutine)
  | sample (f : SampleFunction)
deriving DecidableEq, Repr

inductive MethodRoutine
  | stock (r : StockRoutine)
  | onInstance (r : InstanceRoutine)
  | box (m : BoxMethod)
  /-- The bound of a counter as it is stored, refused while it is uninitialized. -/
  | rawLength
deriving DecidableEq, Repr

inductive NewSlot
  | alloc
  /-- Allocates when there are no arguments. -/
  | noArguments
  | failSilently
  | fail
  /-- Checks the arguments of the sample box. -/
  | box
deriving DecidableEq, Repr

inductive InitSlot
  /-- Stores the arguments in the fields, in order. -/
  | store
  /-- Stores the arguments as object fields, in order. -/
  | storeObjects
  | ignore
  | fail
  | box
  | counter
deriving DecidableEq, Repr

inductive LengthSlot
  | int (offset : Nat)
  | fail
deriving DecidableEq, Repr

inductive ContainsSlot
  | equalsObject
  | equalsInt
  /-- Asks the object in field 0. -/
  | inObject
  | counter
deriving DecidableEq, Repr

inductive IterSlot
  | positions
  /-- An iterator of the object in field 0. -/
  | ofObject
  /-- The object in field 0 itself. -/
  | rawObject
  | counter
deriving DecidableEq, Repr

inductive NextSlot
  | countdown
  | exhausted
  /-- Signals the end and gives a reason. -/
  | drained
deriving DecidableEq, Repr

/-- The protocol hooks of a type. -/
structure Slots where
  new : Option NewSlot := none
  init : Option InitSlot := none
  length : Option LengthSlot := none
  contains : Option ContainsSlot := none
  iter : Option IterSlot := none
  next : Option NextSlot := none
deriving DecidableEq, Repr

def Slots.names (s : Slots) : List String :=
  [("new", s.new.isSome), ("init", s.init.isSome), ("length", s.length.isSome),
    ("contains", s.contains.isSome), ("iter", s.iter.isSome), ("next", s.next.isSome)].filterMap
      fun (name, present) => if present then some name else none

end ObjectProtocol
