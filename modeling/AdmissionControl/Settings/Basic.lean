namespace AdmissionControl

-- Where the counters of the rate limiter are kept.
inductive Backend where
  | memory
  | sharedStore
deriving DecidableEq

def Backend.name : Backend → String
  | .memory => "memory"
  | .sharedStore => "shared-store"

structure ListenerSettings where
  bindAddress : String := "0.0.0.0:8000"
deriving DecidableEq

structure TimeoutSettings where
  requestSeconds : UInt64 := 30
deriving DecidableEq

-- A budget of zero or less turns rate limiting off. `windowSeconds` is how long
-- the store keeps a counter, not the length of a window.
structure RateLimitSettings where
  requestsPerMinute : Int64 := 0
  backend : Backend := .memory
  storeUrl : Option String := none
  keyRoot : String := "civic_archive:rate_limit"
  windowSeconds : UInt64 := 65
  cooldownSeconds : UInt64 := 5
  failOpen : Bool := true
  storeTimeoutMillis : UInt64 := 200
deriving DecidableEq

structure SecuritySettings where
  trustedProxies : List String := []
  maxBodyBytes : UInt64 := 1048576
  guardedRoot : String := "/api/"
  strictMode : Bool := false
deriving DecidableEq

structure AccessSettings where
  requireToken : Bool := false
  scopeRead : String := "archive:read"
  scopeWrite : String := "archive:write"
  scopeDelete : String := "archive:delete"
  adminRole : String := "admin"
deriving DecidableEq

structure ObservabilitySettings where
  logLevel : String := "info"
  logJson : Bool := true
  metricsEnabled : Bool := false
  metricsAddress : String := "0.0.0.0:9090"
deriving DecidableEq

structure Settings where
  listener : ListenerSettings := {}
  timeouts : TimeoutSettings := {}
  rateLimit : RateLimitSettings := {}
  security : SecuritySettings := {}
  access : AccessSettings := {}
  observability : ObservabilitySettings := {}
deriving DecidableEq

end AdmissionControl
