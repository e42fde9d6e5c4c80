import AdmissionControl.Settings.Basic
import AdmissionControl.Settings.Document

namespace AdmissionControl

namespace Settings

-- A value is not of the kind that its key calls for, or out of range.
inductive ShapeError where
  | wrongKind
  | outOfRange
  | tooManyItems

abbrev Decoded := Except ShapeError

-- What a notation tolerates: items beyond the last field of a table that is
-- written as a sequence, and which values may stand where nothing is meant.
structure Tolerance where
  extraItems : Bool
  isVoid : Document → Bool

namespace Document

def string : Document → Decoded String
  | .text value => .ok value
  | _ => .error .wrongKind

def flag : Document → Decoded Bool
  | .boolean value => .ok value
  | _ => .error .wrongKind

def word64 : Document → Decoded UInt64
  | .integer value =>
    if 0 ≤ value ∧ value < UInt64.size then .ok (UInt64.ofNat value.toNat)
    else .error .outOfRange
  | _ => .error .wrongKind

def int64 : Document → Decoded Int64
  | .integer value =>
    if Int64.minValue.toInt ≤ value ∧ value ≤ Int64.maxValue.toInt then .ok (Int64.ofInt value)
    else .error .outOfRange
  | _ => .error .wrongKind

def optionalString : Document → Decoded (Option String)
  | .null => .ok none
  | document => (string document).map some

def strings : Document → Decoded (List String)
  | .sequence items => items.mapM string
  | _ => .error .wrongKind

-- The fields of a table, which may also be written as a sequence in the order
-- of `names`. Fields with other names are left in and never asked for. A moment
-- passes for a table that has none of them.
def fields (tolerance : Tolerance) (names : List String) :
    Document → Decoded (List (String × Document))
  | .record fields => .ok fields
  | .moment => .ok []
  | .sequence items =>
    if names.length < items.length ∧ ¬ tolerance.extraItems then .error .tooManyItems
    else .ok (names.zip items)
  | _ => .error .wrongKind

end Document

-- The value of a field, or `fallback` if the field is not given.
def field (name : String) (decode : Document → Decoded α) (fallback : α)
    (fields : List (String × Document)) : Decoded α :=
  match fields.lookup name with
  | some document => decode document
  | none => .ok fallback

end Settings

open Settings

-- The shared store also goes by the name of its usual implementation.
def Backend.ofName? : String → Option Backend
  | "memory" => some .memory
  | "shared-store" => some .sharedStore
  | "redis" => some .sharedStore
  | _ => none

-- A name, or a table with the name as its only key and nothing in it.
def Backend.decode (tolerance : Tolerance) : Document → Decoded Backend
  | .text name => (Backend.ofName? name).elim (.error .wrongKind) .ok
  | .record [(name, payload)] =>
    if tolerance.isVoid payload then (Backend.ofName? name).elim (.error .wrongKind) .ok
    else .error .wrongKind
  | _ => .error .wrongKind

def ListenerSettings.decode (tolerance : Tolerance) (document : Document) :
    Decoded ListenerSettings := do
  let fields ← document.fields tolerance ["bind_address"]
  let base : ListenerSettings := {}
  return { bindAddress := ← field "bind_address" Document.string base.bindAddress fields }

def TimeoutSettings.decode (tolerance : Tolerance) (document : Document) :
    Decoded TimeoutSettings := do
  let fields ← document.fields tolerance ["request_secs"]
  let base : TimeoutSettings := {}
  return { requestSeconds := ← field "request_secs" Document.word64 base.requestSeconds fields }

def RateLimitSettings.names : List String :=
  ["requests_per_minute", "backend", "store_url", "key_prefix", "window_seconds",
    "failure_cooldown_seconds", "fail_open", "store_timeout_ms"]

def RateLimitSettings.decode (tolerance : Tolerance) (document : Document) :
    Decoded RateLimitSettings := do
  let fields ← document.fields tolerance RateLimitSettings.names
  let base : RateLimitSettings := {}
  return {
    requestsPerMinute :=
      ← field "requests_per_minute" Document.int64 base.requestsPerMinute fields
    backend := ← field "backend" (Backend.decode tolerance) base.backend fields
    storeUrl := ← field "store_url" Document.optionalString base.storeUrl fields
    keyRoot := ← field "key_prefix" Document.string base.keyRoot fields
    windowSeconds := ← field "window_seconds" Document.word64 base.windowSeconds fields
    cooldownSeconds :=
      ← field "failure_cooldown_seconds" Document.word64 base.cooldownSeconds fields
    failOpen := ← field "fail_open" Document.flag base.failOpen fields
    storeTimeoutMillis :=
      ← field "store_timeout_ms" Document.word64 base.storeTimeoutMillis fields }

def SecuritySettings.names : List String :=
  ["trusted_proxy_cidrs", "max_request_body_bytes", "guarded_path_prefix", "strict_mode"]

def SecuritySettings.decode (tolerance : Tolerance) (document : Document) :
    Decoded SecuritySettings := do
  let fields ← document.fields tolerance SecuritySettings.names
  let base : SecuritySettings := {}
  return {
    trustedProxies := ← field "trusted_proxy_cidrs" Document.strings base.trustedProxies fields
    maxBodyBytes := ← field "max_request_body_bytes" Document.word64 base.maxBodyBytes fields
    guardedRoot := ← field "guarded_path_prefix" Document.string base.guardedRoot fields
    strictMode := ← field "strict_mode" Document.flag base.strictMode fields }

def AccessSettings.names : List String :=
  ["require_jwt", "scope_read", "scope_write", "scope_delete", "admin_role"]

def AccessSettings.decode (tolerance : Tolerance) (document : Document) :
    Decoded AccessSettings := do
  let fields ← document.fields tolerance AccessSettings.names
  let base : AccessSettings := {}
  return {
    requireToken := ← field "require_jwt" Document.flag base.requireToken fields
    scopeRead := ← field "scope_read" Document.string base.scopeRead fields
    scopeWrite := ← field "scope_write" Document.string base.scopeWrite fields
    scopeDelete := ← field "scope_delete" Document.string base.scopeDelete fields
    adminRole := ← field "admin_role" Document.string base.adminRole fields }

def ObservabilitySettings.names : List String :=
  ["log_level", "log_json", "metrics_enabled", "metrics_address"]

def ObservabilitySettings.decode (tolerance : Tolerance) (document : Document) :
    Decoded ObservabilitySettings := do
  let fields ← document.fields tolerance ObservabilitySettings.names
  let base : ObservabilitySettings := {}
  return {
    logLevel := ← field "log_level" Document.string base.logLevel fields
    logJson := ← field "log_json" Document.flag base.logJson fields
    metricsEnabled := ← field "metrics_enabled" Document.flag base.metricsEnabled fields
    metricsAddress := ← field "metrics_address" Document.string base.metricsAddress fields }

def Settings.names : List String :=
  ["listener", "timeouts", "rate_limit", "security", "access", "observability"]

-- Tables and keys that are not given take their defaults.
def Settings.decode (tolerance : Tolerance) (document : Document) : Decoded Settings := do
  let fields ← document.fields tolerance Settings.names
  return {
    listener := ← field "listener" (ListenerSettings.decode tolerance) {} fields
    timeouts := ← field "timeouts" (TimeoutSettings.decode tolerance) {} fields
    rateLimit := ← field "rate_limit" (RateLimitSettings.decode tolerance) {} fields
    security := ← field "security" (SecuritySettings.decode tolerance) {} fields
    access := ← field "access" (AccessSettings.decode tolerance) {} fields
    observability := ← field "observability" (ObservabilitySettings.decode tolerance) {} fields }

-- In JSON, `null` is the void, and every item of a sequence must have a field.
def Settings.jsonTolerance : Tolerance where
  extraItems := false
  isVoid := fun
    | .null => true
    | _ => false

def Settings.ofJson (value : Json) : Decoded Settings :=
  decode jsonTolerance (Document.ofJson value)

end AdmissionControl
