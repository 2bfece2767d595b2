import ObjectProtocol.Machine

/-!
# Scripts

A script is a row of steps on one session: expressions, each with an outcome of its own, and restarts
between them.
-/

namespace ObjectProtocol

/-- What a session is started with: options, and whether `loadSample` is run. -/
structure Setup where
  options : Options := {}
  sample : Bool := true

inductive Step
  | eval (e : Expr)
  | restart (setup : Setup)

namespace Session

def equip (s : Session) (setup : Setup) : Session :=
  if setup.sample then s.loadSample.2 else s

def ofSetup (setup : Setup) : Session := (start setup.options).equip setup

/-- Takes one step. `Step.restart` keeps the variables and answers with `null`. -/
def take (s : Session) : Step → Outcome × Session
  | .eval e => s.evaluate e
  | .restart setup => (.value .null, (s.restart setup.options).equip setup)

def registerIn (s : Session) (r : Registry) (d : TypeDecl Code) (base : Option TypeObject) :
    Except Failure (TypeObject × Registry × Session) :=
  match r.register s.host.store.nextId d base with
  | .error f => .error f
  | .ok (t, r) => .ok (t, r, s.setStore s.host.store.fresh.2)

def setVariable (s : Session) (name : String) (v : Value) : Session :=
  { s with globals := s.globals.insert name v }

end Session

end ObjectProtocol
