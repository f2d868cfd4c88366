/-
# Configuration

The settings of the hub, the server and the client, with the least values that they are
raised to.
-/
import ReportRelay.Server.Address

namespace ReportRelay

/-! ## The hub -/

/-- The capacity of a cache for which none is asked. -/
def fallbackCapacity : Nat := 10

/-- The settings of a hub. -/
structure HubConfig where
  /-- How many of the last reports are replayed to a new subscriber. -/
  cacheCapacity : Nat := 50
  /-- How many messages may wait for a viewer. -/
  queueCapacity : Nat := 1024
  deriving DecidableEq, Repr

namespace HubConfig

/-- The cache capacity; zero stands for the fallback. -/
def cache (config : HubConfig) : Nat :=
  if config.cacheCapacity = 0 then fallbackCapacity else config.cacheCapacity

/-- The queue capacity, at least that of the cache so that a replay always fits. -/
def queue (config : HubConfig) : Nat := max (max config.queueCapacity config.cache) 1

end HubConfig

/-! ## The server -/

/-- The port of the server if no other is asked for. -/
def defaultPort : Nat := 9659

/-- The settings of a server. -/
structure ServerConfig where
  /-- The address on which it listens. -/
  listen : Address := .v4 [0, 0, 0, 0] defaultPort
  /-- The settings of its hub. -/
  hub : HubConfig := {}
  deriving DecidableEq, Repr

/-! ## The client -/

/-- The settings of a client. -/
structure ClientConfig where
  /-- The endpoint of the stream. -/
  url : String := "ws://127.0.0.1:" ++ toString defaultPort ++ "/api/stream"
  /-- The wait before each new attempt, in milliseconds. -/
  delay : Nat := 1000
  /-- How many changes of state an observer may fall behind. -/
  stateHistory : Nat := 64
  deriving DecidableEq, Repr

/-- The number of changes of state that are kept, at least one. -/
def ClientConfig.history (config : ClientConfig) : Nat := max config.stateHistory 1

end ReportRelay
