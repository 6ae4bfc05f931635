import NavState.Session.World

namespace NavState.Session

/-!
# Actions

Actions run on the world and may fail; what an action did before it failed
stays done.
-/

/-- An action on the world that may fail. -/
abbrev Act := ExceptT Fault (StateM World)

namespace Act

/-- Give a value that has to be there. -/
def require {α : Type} (fault : Fault) : Option α → Act α
  | some value => pure value
  | none => throw fault

/-- Give the value of a result. -/
def ofExcept {α : Type} : Except Fault α → Act α
  | .ok value => pure value
  | .error fault => throw fault

/-- The reply of an action, and the world after it. -/
def reply (act : Act Reply) (world : World) : Reply × World :=
  match act.run.run world with
  | (.ok reply, world) => (reply, world)
  | (.error fault, world) => (.fault fault, world)

end Act

end NavState.Session
