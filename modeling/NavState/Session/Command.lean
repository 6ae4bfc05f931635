import NavState.Host
import NavState.Attempt
import NavState.Task
import NavState.Metric.Vector

namespace NavState.Session

/-!
# Commands of a session

A session drives hosts, caches, attempts, tasks and metrics by commands.  It
refers to each object by its index among the objects of its sort.  Some commands
carry scripts: commands that run later, from inside a callback.
-/

/-- Moves and readings of one host. -/
inductive HostCommand where
  | direct (page : PageId)
  | push
  | replace
  | back
  | forward
  | go (delta : Int)
  | size
  | isEmpty
  | describe
  | shown
  deriving Repr, DecidableEq

/-- Operations and readings of one cache. -/
inductive CacheCommand where
  | get (key : String)
  | set (key value : String)
  | delete (key : String)
  | binds (key : String)
  | clear
  | isHistoric
  | isTransitioning
  | isEmpty
  | size
  | capacity
  | current
  | observed
  | name
  | describe
  | retains (page : PageId)
  /-- A copy of a committed store, edited before it is shown. -/
  | entry
      (page : PageId)
      (removals : List String)
      (insertions : List (String × String))
  deriving Repr, DecidableEq

/-- Operations and readings of one attempt. -/
inductive AttemptCommand where
  | settle (outcome : Outcome)
  | drop
  | outcome
  | id
  | describe
  | describeResolver
  deriving Repr, DecidableEq

/-- Operations and readings of one task. -/
inductive TaskCommand where
  | send (outcome : Outcome)
  | hangUp
  | abort
  | join
  deriving Repr, DecidableEq

/-- How a registry of metrics is made. -/
inductive RegistryRequest where
  | silent
  | recording
  /-- A catalogue before an exporter of its own. -/
  | exporting
  /-- The same registry again. -/
  | clone (registry : Nat)
  /-- A catalogue of its own before the exporter of another registry. -/
  | over (registry : Nat)
  deriving Repr, DecidableEq

/-- Operations on metrics. -/
inductive MetricCommand where
  | create (request : RegistryRequest)
  | register
      (registry : Nat)
      (kind : Metric.Kind)
      (definition : Metric.Definition)
      (values : List String)
  | change (kind : Metric.Kind) (meter : Nat) (change : Metric.Change)
  /--
  Publish metrics past the catalogue, unless they could not be made as their
  label values are not as many as the labels.
  -/
  | publish (registry : Nat) (collector? : Option Metric.Collector)
  | gather (registry : Nat)
  | exposition (registry : Nat)
  deriving Repr, DecidableEq

/-- The scripts of a listener, one for each reason of a departure. -/
structure Scripts (σ : Type) where
  evict : List σ := []
  replace : List σ := []
  clear : List σ := []
  discard : List σ := []

/-- The script for one reason. -/
def Scripts.on {σ : Type} (scripts : Scripts σ) : Reason → List σ
  | .evict => scripts.evict
  | .replace => scripts.replace
  | .clear => scripts.clear
  | .discard => scripts.discard

/-- What a cache is built from. -/
structure BuildRequest (σ : Type) where
  capacity : Nat
  name : String
  /-- The text of a configuration, which takes the place of the capacity. -/
  config : Option String
  listener : Option (Scripts σ)
  registry : Option Nat

/-- The commands of a session. -/
inductive Command where
  /-- A command that cannot be made out. -/
  | unreadable
  | openHost (page : Option PageId)
  | host (host : Nat) (command : HostCommand)
  | build
      (host : Nat)
      (request : BuildRequest (String × Command))
  | describeBuilder (request : BuildRequest (String × Command))
  | cloneCache (cache : Nat)
  | cache (cache : Nat) (command : CacheCommand)
  /-- Announce an attempt to a cache. -/
  | announce (cache attempt : Nat)
  /--
  Announce an attempt of the host itself, which runs a script when the cache
  registers with it and then settles at once or never.
  -/
  | announceHosted
      (cache : Nat)
      (id : UInt64)
      (outcome : Option Outcome)
      (script : List (String × Command))
  | openAttempt (id : UInt64)
  /-- Open an attempt with the next number of the sequencer. -/
  | beginAttempt
  | resetSequencer
  | describeSequencer
  | attempt (attempt : Nat) (command : AttemptCommand)
  | onSettle
      (attempt : Nat)
      (label : String)
      (script : List (String × Command))
  | spawn
      (attempt : Nat)
      (future : Option Future)
      (pushes : Option Nat)
      (outside : Bool)
  | drain
  | task (task : Nat) (command : TaskCommand)
  | metric (command : MetricCommand)

/-- A command under the label it is logged by. -/
abbrev Step := String × Command

/-- Steps that run one after the other. -/
abbrev Script := List Step

end NavState.Session
