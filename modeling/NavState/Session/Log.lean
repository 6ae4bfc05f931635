import NavState.PageId
import NavState.Cache.Report
import NavState.Config.Basic
import NavState.Metric.Exposition

namespace NavState.Session

/-!
# Replies and the log of a session

Every command has a reply.  What happens while it runs, departures, callbacks,
steps of scripts, calls of a recording registry and traces, goes to the log in
the order in which it happens.
-/

/-- Why a command did not do what it was asked to. -/
inductive Fault where
  /-- The command names nothing that exists, or does not apply to what it names. -/
  | inapplicable
  /-- The resolver of the attempt was used before. -/
  | noResolver
  /-- The task has no sender left. -/
  | noSender
  /-- A cache of capacity zero was asked for. -/
  | zeroCapacity
  | unreadableConfig (error : Config.ReadError)
  | registration (error : Metric.RegistrationError)
  /-- The number of label values differs from that of the labels. -/
  | labelMismatch
  /-- The runner of tasks was asked for where it is not at hand. -/
  | noRunner
  | taskCancelled
  | taskFaulted
  deriving Repr, DecidableEq

/-- The message of a configuration fault with its reason. -/
def configMessage (reason : String) : String :=
  "config error: " ++ reason

/-- The message of a fault, for the faults that have one. -/
def Fault.message? : Fault → Option String
  | zeroCapacity =>
      some (configMessage "capacity must be positive, given: 0")
  | unreadableConfig (.mismatch cause) => some cause.message
  | registration error => some error.message
  | _ => none

/-- The answer to one command. -/
inductive Reply where
  | nothing
  | flag (value : Bool)
  | number (value : Nat)
  | text (value : String)
  | page (page : PageId)
  | store (store : Store String String)
  | outcome (outcome : Outcome)
  /-- A new attempt under its index. -/
  | attempt (index : Nat) (id : UInt64)
  | families (families : List Metric.Family)
  | stillRunning
  | fault (fault : Fault)
  deriving Repr, DecidableEq

/-- A text as a reply, if there is one. -/
def Reply.ofText? : Option String → Reply
  | some value => .text value
  | none => .nothing

/-- A store as a reply, if there is one. -/
def Reply.ofStore? : Option (Store String String) → Reply
  | some copy => .store copy
  | none => .nothing

/-- A call received by a recording registry. -/
inductive MetricCall where
  | vector (kind : Metric.Kind) (definition : Metric.Definition)
  | child (name : String) (values : List String)
  | change (name : String) (values : List String) (change : Metric.Change)
  deriving Repr, DecidableEq

/-- How much a trace event matters. -/
inductive Level where
  | trace
  | debug
  | warn
  deriving Repr, DecidableEq

/-- The name of a level. -/
def Level.label : Level → String
  | trace => "TRACE"
  | debug => "DEBUG"
  | warn => "WARN"

/-- An event of the trace. -/
inductive TraceEvent where
  | built (name : String) (capacity : Nat) (current : PageId)
  | noted (note : Note PageId)
  | resolved (outcome : Outcome)
  | refused (name : String)
  deriving Repr, DecidableEq

namespace TraceEvent

/-- How much an event matters. -/
def level : TraceEvent → Level
  | built .. => .debug
  | noted (.ignored _) => .trace
  | noted _ => .debug
  | resolved _ => .trace
  | refused _ => .warn

/-- The message of an event. -/
def message : TraceEvent → String
  | built .. => "[navstore]: build navigation cache"
  | noted (.ignored _) => "[navstore]: ignore handled transition"
  | noted (.started ..) => "[navstore]: start transition"
  | noted (.superseded _) =>
      "[navstore]: discard pending store of superseded transition"
  | noted (.stale ..) => "[navstore]: ignore stale transition settlement"
  | noted (.committed ..) => "[navstore]: commit pending store"
  | noted (.unsuccessful ..) =>
      "[navstore]: discard pending store of unsuccessful transition"
  | noted (.evicted _) => "[table]: evict least recently touched entry"
  | resolved _ => "[settle]: transition future resolved"
  | refused _ => "[prometheus]: register metric vector failed"

/-- The fields of an event, each under its name. -/
def fields : TraceEvent → List (String × String)
  | built name capacity current =>
      [("name", name),
        ("capacity", toString capacity),
        ("current", current.describe)]
  | noted (.ignored attempt) =>
      [("id", toString attempt)]
  | noted (.started attempt generation movement current observed) =>
      [("id", toString attempt),
        ("generation", toString generation),
        ("kind", movement.label),
        ("current", current.describe),
        ("observed", observed.describe)]
  | noted (.superseded generation) =>
      [("generation", toString generation)]
  | noted (.stale generation outcome) =>
      [("generation", toString generation), ("outcome", outcome.label)]
  | noted (.committed generation movement page) =>
      [("generation", toString generation),
        ("kind", movement.label),
        ("id", page.describe)]
  | noted (.unsuccessful generation outcome) =>
      [("generation", toString generation), ("outcome", outcome.label)]
  | noted (.evicted page) =>
      [("id", page.describe)]
  | resolved outcome =>
      [("outcome", outcome.label)]
  | refused name =>
      [("name", Text.quote name)]

end TraceEvent

/-- One entry of the log. -/
inductive LogEntry where
  /-- A departure announced to the listener of a cache. -/
  | departed (departure : Departure PageId) (cache : Nat)
  /-- A cache registers with an attempt of the host. -/
  | registering (id : UInt64)
  /-- A callback runs. -/
  | settled (label : String) (outcome : Outcome)
  /-- A step of a script ran. -/
  | performed (label : String) (reply : Reply)
  | metric (call : MetricCall)
  | trace (event : TraceEvent)
  deriving Repr, DecidableEq

end NavState.Session
