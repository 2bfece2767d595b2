import ObjectProtocol.Module
import ObjectProtocol.Host

/-!
# Sessions

A session is a host with variables and loaded modules.  Variables outlive the runtime: after a restart
they may still hold objects of the runtime before, whose types linger until nothing owns them.
-/

namespace ObjectProtocol

structure Session where
  host : Host
  globals : Table Value := {}
  modules : Table Module := {}
  /-- Types of earlier runtimes that were still owned when last looked at. -/
  lingering : List TypeObject := []

namespace Session

instance : Inhabited Session := ⟨{ host := default }⟩

def held (s : Session) : List Value :=
  s.globals.values ++ s.modules.values.flatMap (·.exported.values)

@[inline] def onHost {α : Type} (s : Session) (f : Host → α × Host) : α × Session :=
  match s with
  | ⟨host, globals, modules, lingering⟩ =>
    let (a, host) := f host
    (a, ⟨host, globals, modules, lingering⟩)

@[inline] def onStore {α : Type} (s : Session) (f : Runtime → Store → α × Store) : α × Session :=
  match s with
  | ⟨⟨runtime, store⟩, globals, modules, lingering⟩ =>
    let (a, store) := f runtime store
    (a, ⟨⟨runtime, store⟩, globals, modules, lingering⟩)

def setStore (s : Session) (store : Store) : Session := { s with host := { s.host with store } }

end Session

end ObjectProtocol
