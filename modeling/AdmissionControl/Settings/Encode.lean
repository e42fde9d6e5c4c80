import AdmissionControl.Settings.Basic
import AdmissionControl.Settings.Document

namespace AdmissionControl

namespace Settings

def word (n : UInt64) : Document := .integer n.toNat

end Settings

open Settings

def ListenerSettings.encode (s : ListenerSettings) : Document :=
  .record [("bind_address", .text s.bindAddress)]

def TimeoutSettings.encode (s : TimeoutSettings) : Document :=
  .record [("request_secs", word s.requestSeconds)]

def RateLimitSettings.encode (s : RateLimitSettings) : Document :=
  .record [
    ("requests_per_minute", .integer s.requestsPerMinute.toInt),
    ("backend", .text s.backend.name),
    ("store_url", s.storeUrl.elim .null .text),
    ("key_prefix", .text s.keyRoot),
    ("window_seconds", word s.windowSeconds),
    ("failure_cooldown_seconds", word s.cooldownSeconds),
    ("fail_open", .boolean s.failOpen),
    ("store_timeout_ms", word s.storeTimeoutMillis)]

def SecuritySettings.encode (s : SecuritySettings) : Document :=
  .record [
    ("trusted_proxy_cidrs", .sequence (s.trustedProxies.map .text)),
    ("max_request_body_bytes", word s.maxBodyBytes),
    ("guarded_path_prefix", .text s.guardedRoot),
    ("strict_mode", .boolean s.strictMode)]

def AccessSettings.encode (s : AccessSettings) : Document :=
  .record [
    ("require_jwt", .boolean s.requireToken),
    ("scope_read", .text s.scopeRead),
    ("scope_write", .text s.scopeWrite),
    ("scope_delete", .text s.scopeDelete),
    ("admin_role", .text s.adminRole)]

def ObservabilitySettings.encode (s : ObservabilitySettings) : Document :=
  .record [
    ("log_level", .text s.logLevel),
    ("log_json", .boolean s.logJson),
    ("metrics_enabled", .boolean s.metricsEnabled),
    ("metrics_address", .text s.metricsAddress)]

-- Every table and every key is written out, in the order of their declaration.
def Settings.encode (s : Settings) : Document :=
  .record [
    ("listener", s.listener.encode),
    ("timeouts", s.timeouts.encode),
    ("rate_limit", s.rateLimit.encode),
    ("security", s.security.encode),
    ("access", s.access.encode),
    ("observability", s.observability.encode)]

end AdmissionControl
