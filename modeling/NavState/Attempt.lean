namespace NavState

/-!
# Navigation attempts

An attempt waits until its resolver is used, and then has one outcome for good.
Callbacks registered while it waits are kept in order and handed to whoever
settles it; a callback registered later is handed back at once.  A resolver that
is dropped unused aborts its attempt.

Callbacks are data of an arbitrary type.  Running them is left to the caller,
so an attempt never holds client code.
-/

/-- How an attempt ended. -/
inductive Outcome where
  | succeeded
  | failed
  | aborted
  deriving Repr, DecidableEq

namespace Outcome

/-- The name of an outcome. -/
def label : Outcome → String
  | succeeded => "Succeeded"
  | failed => "Failed"
  | aborted => "Aborted"

/-- Only a succeeded attempt commits what was written during it. -/
def isSuccess : Outcome → Bool
  | succeeded => true
  | failed => false
  | aborted => false

end Outcome

/-- Whether an attempt has ended, and the callbacks waiting for that. -/
inductive Progress (γ : Type) where
  | waiting (callbacks : List γ)
  | settled (outcome : Outcome)
  deriving Repr, DecidableEq

/-- One attempted navigation. -/
structure Attempt (γ : Type) where
  id : UInt64
  progress : Progress γ
  deriving Repr, DecidableEq

/-- The handle that settles one attempt. -/
structure Resolver where
  settled : Bool := false
  deriving Repr, DecidableEq

namespace Attempt

variable {γ : Type}

/-- A new attempt that nobody waits for. -/
def start (id : UInt64) : Attempt γ where
  id := id
  progress := .waiting []

/-- The outcome, once there is one. -/
def outcome? (attempt : Attempt γ) : Option Outcome :=
  match attempt.progress with
  | .waiting _ => none
  | .settled outcome => some outcome

/-- The callbacks that wait for the attempt to settle. -/
def callbacks (attempt : Attempt γ) : List γ :=
  match attempt.progress with
  | .waiting callbacks => callbacks
  | .settled _ => []

/--
Register a callback.  A settled attempt keeps nothing and gives the outcome with
which the callback is due now.
-/
def onSettle
    (callback : γ)
    (attempt : Attempt γ) :
    Attempt γ × Option Outcome :=
  match attempt.progress with
  | .waiting callbacks =>
      ({ attempt with progress := .waiting (callbacks ++ [callback]) }, none)
  | .settled outcome =>
      (attempt, some outcome)

/-- Nobody has settled a new attempt. -/
@[simp] theorem outcome?_start (id : UInt64) :
    (start id : Attempt γ).outcome? = none :=
  rfl

/-- Registering a callback settles nothing. -/
@[simp] theorem outcome?_onSettle (callback : γ) (attempt : Attempt γ) :
    (attempt.onSettle callback).1.outcome? = attempt.outcome? := by
  obtain ⟨id, progress⟩ := attempt
  cases progress <;> rfl

/-- Callbacks wait only as long as there is no outcome. -/
theorem outcome?_of_mem_callbacks
    {callback : γ}
    {attempt : Attempt γ}
    (waits : callback ∈ attempt.callbacks) :
    attempt.outcome? = none := by
  obtain ⟨id, progress⟩ := attempt
  cases progress with
  | waiting callbacks =>
      rfl
  | settled outcome =>
      cases waits

/-- Where there is no outcome yet, a callback waits behind those that wait. -/
theorem callbacks_onSettle
    {attempt : Attempt γ}
    (unsettled : attempt.outcome? = none)
    (callback : γ) :
    (attempt.onSettle callback).1.callbacks = attempt.callbacks ++ [callback] := by
  obtain ⟨id, progress⟩ := attempt
  cases progress with
  | waiting callbacks =>
      rfl
  | settled outcome =>
      cases unsettled

/-- A settled attempt keeps no callback. -/
theorem onSettle_of_settled
    {attempt : Attempt γ}
    {outcome : Outcome}
    (settled : attempt.outcome? = some outcome)
    (callback : γ) :
    attempt.onSettle callback = (attempt, some outcome) := by
  obtain ⟨id, progress⟩ := attempt
  cases progress with
  | waiting callbacks =>
      cases settled
  | settled other =>
      cases settled
      rfl

/-- A callback is due at once with the outcome, if there is one already. -/
theorem onSettle_due (callback : γ) (attempt : Attempt γ) :
    (attempt.onSettle callback).2 = attempt.outcome? := by
  obtain ⟨id, progress⟩ := attempt
  cases progress <;> rfl

end Attempt

namespace Resolver

variable {γ : Type}

/--
Use the resolver.  The first use fixes the outcome and gives the callbacks that
are due; any further use does nothing.
-/
def settle
    (outcome : Outcome)
    (resolver : Resolver)
    (attempt : Attempt γ) :
    Resolver × Attempt γ × List γ :=
  if resolver.settled then
    (resolver, attempt, [])
  else
    ({ settled := true },
      { attempt with progress := .settled outcome },
      attempt.callbacks)

/-- Let go of the resolver, which aborts an attempt that has not settled. -/
def drop
    (resolver : Resolver)
    (attempt : Attempt γ) :
    Resolver × Attempt γ × List γ :=
  resolver.settle .aborted attempt

/-- Once a resolver was asked to settle, it has been used. -/
@[simp] theorem settled_settle
    (outcome : Outcome)
    (resolver : Resolver)
    (attempt : Attempt γ) :
    (resolver.settle outcome attempt).1.settled = true := by
  simp only [settle]
  split
  · assumption
  · rfl

/-- A fresh resolver fixes the outcome and hands the waiting callbacks over. -/
theorem settle_of_unsettled
    {resolver : Resolver}
    (fresh : resolver.settled = false)
    (outcome : Outcome)
    (attempt : Attempt γ) :
    (resolver.settle outcome attempt).2.1.outcome? = some outcome ∧
      (resolver.settle outcome attempt).2.2 = attempt.callbacks := by
  simp [settle, fresh, Attempt.outcome?]

/-- A used resolver does nothing. -/
theorem settle_of_settled
    {resolver : Resolver}
    (used : resolver.settled = true)
    (outcome : Outcome)
    (attempt : Attempt γ) :
    resolver.settle outcome attempt = (resolver, attempt, []) := by
  simp [settle, used]

end Resolver

end NavState
