import ObjectProtocol.Ownership
import ObjectProtocol.Session

/-!
# Liveness of types

A type lives as long as something owns it: the runtime it was registered with, a value that is the
type or one derived from it, or a module that exports such a value.  A type that has lost its last
owner is released, and stays released.
-/

namespace ObjectProtocol

namespace Session

/-- Releases the `lingering` types that nothing owns: neither variables and modules, nor the given values,
nor a type of the present runtime that derives from them, nor a circle. -/
def sweep (s : Session) (others : Unit → List Value) : Session :=
  let store := s.host.store
  -- The present runtime owns its types, and through them the bases they derive from.
  let registered := s.host.runtime.registry.log.map Value.type
  let search : Search := { wanted := s.lingering.map (·.id) }
  let search := search.extend store (s.held ++ registered)
  let search := if search.wanted.isEmpty then search else search.extend store (others ())
  if search.wanted.isEmpty then s
  else
    let (lingering, missing) := s.lingering.partition fun t => search.hasMet t.id
    -- What a circle keeps is out of reach, so it stays for good.
    let left := Clearance.run store search.met
    let gone := missing.filter fun t => !left.references.contains (.fixed t.id)
    { s.setStore { store with released := gone.map (·.id) ++ store.released } with lingering }

/-- Ends the runtime and drops all modules, and starts anew with the given options. -/
def restart (s : Session) (options : Options) : Session :=
  let store := s.host.store
  let first := store.nextId
  let store := { store with nextId := first + Builtin.all.length }
  Session.sweep
    { s with
      host := { runtime := .start options first, store }
      modules := {}
      lingering := s.host.runtime.registry.log ++ s.lingering } fun () => []

def start (options : Options) : Session :=
  { host :=
      { runtime := .start options 0
        store := { nextId := Builtin.all.length } } }

end Session

end ObjectProtocol
