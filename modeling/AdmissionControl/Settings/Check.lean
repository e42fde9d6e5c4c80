import AdmissionControl.Settings.RateLimit
import AdmissionControl.Identity.TrustedProxies
import AdmissionControl.Net.Endpoint
import AdmissionControl.Text.Quoted

namespace AdmissionControl.Settings

open Text

-- The two addresses that the settings name.
inductive AddressField where
  | listener
  | metrics
deriving DecidableEq

def AddressField.name : AddressField → String
  | .listener => "listener.bind_address"
  | .metrics => "observability.metrics_address"

inductive Problem where
  | missingStoreUrl
  | windowTooSmall
  | cooldownNotPositive
  | storeTimeoutOutOfRange (millis : UInt64)
  | bodyLimitNotPositive
  | invalidGuardedRoot (root : String)
  | invalidTrustedProxy (entry : String)
  | invalidAddress (field : AddressField) (value : String)
  | strictModeWithoutRateLimit
  | strictModeWithoutTokens
deriving DecidableEq

namespace Problem

def message : Problem → String
  | .missingStoreUrl => "rate_limit.store_url is required when backend is shared-store"
  | .windowTooSmall => "rate_limit.window_seconds must be at least 1"
  | .cooldownNotPositive => "rate_limit.failure_cooldown_seconds must be greater than 0"
  | .storeTimeoutOutOfRange millis =>
    "rate_limit.store_timeout_ms must be between 1 and 999, got " ++ toString millis
  | .bodyLimitNotPositive => "security.max_request_body_bytes must be greater than 0"
  | .invalidGuardedRoot root =>
    "security.guarded_path_prefix must start with '/', got " ++ quoted root
  | .invalidTrustedProxy entry => "security.trusted_proxy_cidrs: invalid entry " ++ quoted entry
  | .invalidAddress field value =>
    field.name ++ " is not a valid socket address: " ++ quoted value
  | .strictModeWithoutRateLimit =>
    "security.strict_mode requires rate_limit.requests_per_minute > 0"
  | .strictModeWithoutTokens => "security.strict_mode requires access.require_jwt"

-- The short name of the kind of problem.
def kind : Problem → String
  | .missingStoreUrl => "MissingStoreUrl"
  | .windowTooSmall => "WindowTooSmall"
  | .cooldownNotPositive => "CooldownNotPositive"
  | .storeTimeoutOutOfRange _ => "StoreTimeoutOutOfRange"
  | .bodyLimitNotPositive => "BodyLimitNotPositive"
  | .invalidGuardedRoot _ => "InvalidGuardedPrefix"
  | .invalidTrustedProxy _ => "InvalidTrustedProxy"
  | .invalidAddress _ _ => "InvalidAddress"
  | .strictModeWithoutRateLimit => "StrictModeWithoutRateLimit"
  | .strictModeWithoutTokens => "StrictModeWithoutAuth"

-- The kind with the values that it is about.
def diagnostic (problem : Problem) : String :=
  match problem with
  | .storeTimeoutOutOfRange millis => problem.kind ++ "(" ++ toString millis ++ ")"
  | .invalidGuardedRoot root => problem.kind ++ "(" ++ quoted root ++ ")"
  | .invalidTrustedProxy entry => problem.kind ++ "(" ++ quoted entry ++ ")"
  | .invalidAddress field value =>
    problem.kind ++ " \x7b field: " ++ quoted field.name ++ ", value: " ++ quoted value ++ " \x7d"
  | _ => problem.kind

end Problem

def report (condition : Bool) (problem : Problem) : List Problem :=
  if condition then [problem] else []

def proxyProblems (entries : List String) : List Problem :=
  match Identity.TrustedProxies.parse entries with
  | .ok _ => []
  | .error e => [.invalidTrustedProxy e.entry]

def addressProblems (field : AddressField) (value : String) : List Problem :=
  report (Net.Endpoint.parse? value).isNone (.invalidAddress field value)

-- Everything that is wrong with the settings, in a fixed order. Of the entries
-- for trusted proxies only the first bad one is named.
def problems (s : Settings) : List Problem :=
  report (s.rateLimit.backend == .sharedStore && s.rateLimit.address?.isNone) .missingStoreUrl ++
  report (s.rateLimit.windowSeconds == 0) .windowTooSmall ++
  report (s.rateLimit.cooldownSeconds == 0) .cooldownNotPositive ++
  report (s.rateLimit.storeTimeoutMillis == 0 || 999 < s.rateLimit.storeTimeoutMillis)
    (.storeTimeoutOutOfRange s.rateLimit.storeTimeoutMillis) ++
  report (s.security.maxBodyBytes == 0) .bodyLimitNotPositive ++
  report (s.security.guardedRoot.toList.head? != some '/')
    (.invalidGuardedRoot s.security.guardedRoot) ++
  proxyProblems s.security.trustedProxies ++
  addressProblems .listener s.listener.bindAddress ++
  (if s.observability.metricsEnabled then
    addressProblems .metrics s.observability.metricsAddress else []) ++
  (if s.security.strictMode then
    report (!s.rateLimit.isEnabled) .strictModeWithoutRateLimit ++
    report (!s.access.requireToken) .strictModeWithoutTokens else [])

def check (s : Settings) : Except (List Problem) Unit :=
  match problems s with
  | [] => .ok ()
  | found => .error found

end AdmissionControl.Settings
