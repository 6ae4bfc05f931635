import NavState.Cache.Describe
import NavState.Config.Reader
import NavState.Session.Engine
import NavState.Session.Meters

namespace NavState.Session

/-!
# Commands on caches

A cache is built on a host from a request.  The configuration is read first, then
host and registry are looked up.  Only then is the capacity looked at, and only
then are the metrics set up.
-/

/-- The cell of a cache and its index. -/
def cellOf (cache : Nat) : Act (Nat × Cell) := do
  let world ← get
  let index ← Act.require .inapplicable world.caches[cache]?
  let cell ← Act.require .inapplicable world.cells[index]?
  return (index, cell)

/-- The configuration that a request asks for. -/
def BuildRequest.config?
    {σ : Type}
    (request : BuildRequest σ) :
    Except Fault Config :=
  match request.config with
  | none => .ok { capacity := request.capacity }
  | some text => (Config.read text).mapError .unreadableConfig

/-- The registry that a request names. -/
def BuildRequest.registry?
    {σ : Type}
    (request : BuildRequest σ) :
    Act Registry := do
  match request.registry with
  | none => return .silent
  | some index => Act.require .inapplicable (← get).registries[index]?

/-- Build a cache on a host. -/
def build (host : Nat) (request : BuildRequest Step) : Act Reply := do
  let config ← Act.ofExcept request.config?
  let shown ← Act.require .inapplicable (← get).hosts[host]?
  let registry ← request.registry?
  let cache ← Act.require .zeroCapacity
    (Cache.empty? config.capacity shown.shown)
  let meters ← Meters.setUp request.name registry
  modify (World.trace (.built request.name config.capacity shown.shown))
  let world ← get
  let index := world.caches.length
  let cell : Cell :=
    { name := request.name
      host := host
      cache := cache
      listener := request.listener.map (Listener.mk index)
      meters := meters }
  set
    { world with
      cells := world.cells ++ [cell]
      caches := world.caches ++ [world.cells.length] }
  return .number index

/-- The diagnostic text of a registry. -/
def Registry.describe (world : World) : Registry → String
  | .silent => "NoopMetricsRegistry"
  | .recording => "Recording"
  | .exporting catalogue => world.depot.describe catalogue

/-- Describe what a cache would be built from. -/
def describeBuilder (request : BuildRequest Step) : Act Reply := do
  let config ← Act.ofExcept request.config?
  let registry ← request.registry?
  return .text (Text.record "NavigationCacheBuilder" [
    ("name", Text.quote request.name),
    ("config", config.describe),
    ("registry", registry.describe (← get))])

/-- The diagnostic text of the cache in a cell. -/
def Cell.describe (cell : Cell) : String :=
  cell.cache.describe PageId.describe cell.name

/-- Perform a command on a cache. -/
def performCache
    (client : Client)
    (cache : Nat)
    (command : CacheCommand) :
    Act Reply := do
  let (index, cell) ← cellOf cache
  match command with
  | .get key =>
      let turn := cell.cache.get key
      modify (World.takeTurn client index cell turn)
      return .ofText? turn.result
  | .set key value =>
      let turn := cell.cache.set key value
      modify (World.takeTurn client index cell turn)
      return .text turn.result
  | .delete key =>
      let turn := cell.cache.delete key
      modify (World.takeTurn client index cell turn)
      return .ofText? turn.result
  | .clear =>
      let turn := cell.cache.clear ((← get).observed cell)
      modify (World.takeTurn client index cell turn)
      return .nothing
  | .binds key => return .flag (cell.cache.binds key)
  | .isHistoric => return .flag cell.cache.isHistoric
  | .isTransitioning => return .flag cell.cache.isTransitioning
  | .isEmpty => return .flag (cell.cache.table.size = 0)
  | .size => return .number cell.cache.table.size
  | .capacity => return .number cell.cache.table.capacity
  | .current => return .page cell.cache.current
  | .observed => return .page ((← get).observed cell)
  | .name => return .text cell.name
  | .describe => return .text cell.describe
  | .retains page => return .flag (cell.cache.retains page)
  | .entry page removals insertions =>
      return .ofStore? <| (cell.cache.entry? page).map fun store =>
        let reduced := removals.foldl (fun store key => store.erase key) store
        insertions.foldl
          (fun store binding => store.insert binding.1 binding.2) reduced

end NavState.Session
