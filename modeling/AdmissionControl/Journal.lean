import AdmissionControl.Json.Value
import AdmissionControl.Net.AddressText
import AdmissionControl.RateLimit.StoreError
import AdmissionControl.Settings.Basic
import AdmissionControl.Text.Quoted

namespace AdmissionControl

open Text

inductive Severity where
  | debug
  | info
  | warn
  | error
deriving DecidableEq

def Severity.name : Severity → String
  | .debug => "DEBUG"
  | .info => "INFO"
  | .warn => "WARN"
  | .error => "ERROR"

-- Why a body was turned away: its length was declared too large, or declared
-- in a form that is no length, or it grew too large while it was read.
inductive BodyFault where
  | declaredLength
  | invalidLength
  | streamedOverflow
deriving DecidableEq

def BodyFault.name : BodyFault → String
  | .declaredLength => "declared_length"
  | .invalidLength => "invalid_length"
  | .streamedOverflow => "streamed_overflow"

-- What is written to the log.
inductive Event where
  | pipelineReady (enabled : Bool) (backend : Backend) (limit : Nat) (proxies : Nat)
      (maxBodyBytes : UInt64) (requireToken : Bool)
  | tokenRefused (reason : String)
  | clientForwarded (peer client : Net.Address)
  | scriptEvicted
  | storeFailed (error : RateLimit.StoreError) (cooldownSeconds : Nat) (failOpen : Bool)
  | budgetExceeded (client : String) (backend : Backend)
  | bodyRefused (fault : BodyFault) (limit : UInt64)
  | bodyOverflowed (limit observed : UInt64)
  | responseReplaced (requestId : String) (status : Nat)
  | handlerPanicked (detail : String)
  | notReady (detail : Option String)

namespace Event

def severity : Event → Severity
  | .pipelineReady .. => .info
  | .tokenRefused _ | .clientForwarded .. | .scriptEvicted => .debug
  | .handlerPanicked _ => .error
  | _ => .warn

def message : Event → String
  | .pipelineReady .. => "Admission pipeline ready"
  | .tokenRefused _ => "Bearer token rejected"
  | .clientForwarded .. => "Using X-Forwarded-For from trusted proxy"
  | .scriptEvicted => "Script handle evicted from store, reloading"
  | .storeFailed .. => "Rate limit store error, entering degraded mode"
  | .budgetExceeded .. => "Rate limit exceeded"
  | .bodyRefused .. => "Request body rejected before read"
  | .bodyOverflowed .. => "Request body exceeded limit mid-stream"
  | .responseReplaced .. => "Request body overflow, replacing response with 413"
  | .handlerPanicked _ => "Handler panicked"
  | .notReady _ => "Readiness check failed"

def fields : Event → Json.Members
  | .pipelineReady enabled backend limit proxies maxBodyBytes requireToken => [
      ("rate_limit_enabled", .bool enabled),
      ("backend", .string backend.name),
      ("limit_per_minute", .integer limit),
      ("trusted_proxies", .integer proxies),
      ("max_request_body_bytes", .integer maxBodyBytes.toNat),
      ("require_jwt", .bool requireToken)]
  | .tokenRefused reason => [("error", .string ("token rejected: " ++ reason))]
  | .clientForwarded peer client => [("peer", .string peer.text), ("client", .string client.text)]
  | .scriptEvicted => []
  | .storeFailed error cooldownSeconds failOpen => [
      ("error", .string error.message),
      ("cooldown_secs", .integer cooldownSeconds),
      ("fail_open", .bool failOpen)]
  | .budgetExceeded client backend => [
      ("client", .string client), ("backend", .string backend.name)]
  | .bodyRefused fault limit => [
      ("reason", .string fault.name), ("limit", .integer limit.toNat)]
  | .bodyOverflowed limit observed => [
      ("limit", .integer limit.toNat), ("observed", .integer observed.toNat)]
  | .responseReplaced requestId status => [
      ("request_id", .string requestId), ("downstream_status", .integer status)]
  | .handlerPanicked detail => [("panic", .string detail)]
  | .notReady detail => [("detail", .string (quotedOption detail))]

end Event

-- What is counted for the operator.
inductive Counter where
  | decision (backend : Backend) (allowed : Bool)
  | degradedEntry (failOpen : Bool)
  | bodyRejection (fault : BodyFault)
deriving DecidableEq

namespace Counter

def name : Counter → String
  | .decision .. => "admission_rate_limit_decisions_total"
  | .degradedEntry _ => "admission_rate_limit_degraded_total"
  | .bodyRejection _ => "admission_body_rejections_total"

-- The labels in the order of their names.
def labels : Counter → List (String × String)
  | .decision backend allowed =>
    [("backend", backend.name), ("outcome", if allowed then "allowed" else "denied")]
  | .degradedEntry failOpen => [("policy", if failOpen then "fail_open" else "fail_closed")]
  | .bodyRejection fault => [("reason", fault.name)]

def text (counter : Counter) : String :=
  let labels := counter.labels.map fun (name, value) => name ++ "=" ++ value
  counter.name ++ "\x7b" ++ ",".intercalate labels ++ "\x7d"

def all : List Counter := [
  .decision .memory true, .decision .memory false,
  .decision .sharedStore true, .decision .sharedStore false,
  .degradedEntry true, .degradedEntry false,
  .bodyRejection .declaredLength, .bodyRejection .invalidLength,
  .bodyRejection .streamedOverflow]

end Counter

-- A journal is what happened, in order.
inductive Entry where
  | event (event : Event)
  | count (counter : Counter)

abbrev Journal := List Entry

namespace Journal

def events (journal : Journal) : List Event :=
  journal.filterMap fun
    | .event event => some event
    | .count _ => none

def counters (journal : Journal) : List Counter :=
  journal.filterMap fun
    | .event _ => none
    | .count counter => some counter

def total (counter : Counter) (journal : Journal) : Nat :=
  journal.counters.count counter

end Journal

end AdmissionControl
