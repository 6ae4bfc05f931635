import NavState.Session.Act
import NavState.Session.Engine

namespace NavState.Session

/-!
# Commands on attempts

The resolver of an attempt is taken away before its callbacks run, so it is used
at most once.
-/

/-- The diagnostic text of an attempt. -/
def describeAttempt (attempt : Attempt Callback) : String :=
  let outcome :=
    match attempt.outcome? with
    | some outcome => "Some(" ++ outcome.label ++ ")"
    | none => "None"
  Text.record "ManualTransition" [
    ("id", toString attempt.id),
    ("outcome", outcome)]

/-- The diagnostic text of a resolver. -/
def describeResolver (resolver : Resolver) : String :=
  Text.record "Settler" [("settled", Text.truth resolver.settled)]

/-- The slot of an attempt. -/
def slotOf (index : Nat) : Act Slot := do
  Act.require .inapplicable (← get).slots[index]?

/-- Open an attempt. -/
def openAttempt (id : UInt64) : Act Reply := do
  let world ← get
  set
    { world with
      slots := world.slots ++ [Slot.mk (Attempt.start id) (some {})] }
  return .attempt world.slots.length id

/-- Take the resolver of an attempt away. -/
def takeResolver (index : Nat) : Act Resolver := do
  let (resolver, world) ← Act.require .noResolver ((← get).takeResolver index)
  set world
  return resolver

/-- Perform a command on an attempt. -/
def performAttempt
    (client : Client)
    (index : Nat)
    (command : AttemptCommand) :
    Act Reply := do
  match command with
  | .settle outcome =>
      let resolver ← takeResolver index
      modify (World.settleAttempt client index resolver outcome)
      return .nothing
  | .drop =>
      let resolver ← takeResolver index
      modify (World.dropResolver client index resolver)
      return .nothing
  | .outcome =>
      match (← slotOf index).attempt.outcome? with
      | some outcome => return .outcome outcome
      | none => return .nothing
  | .id => return .number (← slotOf index).attempt.id.toNat
  | .describe => return .text (describeAttempt (← slotOf index).attempt)
  | .describeResolver =>
      let (resolver, _) ← Act.require .noResolver ((← get).takeResolver index)
      return .text (describeResolver resolver)

end NavState.Session
