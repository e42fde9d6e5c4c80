import AdmissionControl.RateLimit.Local
import AdmissionControl.RateLimit.Shared
import AdmissionControl.RateLimit.StoreUrl
import AdmissionControl.Settings.RateLimit

namespace AdmissionControl.RateLimit

open Identity

-- What the client of a store says to the address that it is to open.
abbrev StoreClient := String → Except StoreError Unit

-- The client that is in use.
def StoreUrl.client : StoreClient := fun url => (StoreUrl.check url).mapError StoreUrl.Fault.error

-- Why no limiter can be made from the settings.
inductive LimiterError where
  | missingStoreUrl
  | invalidStoreUrl (error : StoreError)

def LimiterError.message : LimiterError → String
  | .missingStoreUrl => "rate_limit.store_url is required when backend is shared-store"
  | .invalidStoreUrl error => "invalid store URL: " ++ error.message

inductive Limiter where
  | inMemory (limiter : LocalLimiter)
  | shared (limiter : SharedLimiter)

-- Whether the counters can be reached, and what there is to say about it.
structure BackendHealth where
  ok : Bool
  detail : Option String

-- The answer to one request.
structure Ruling (σ : Type) where
  allowed : Bool
  limiter : Limiter
  store : σ
  journal : Journal

namespace Limiter

-- Counters in a store are kept for at least a second.
def sharedOfSettings (s : RateLimitSettings) : SharedLimiter :=
  .fresh {
    limit := s.budget
    keyRoot := s.keyRoot
    secondsKept := max s.windowSeconds 1
    cooldown := Span.ofSeconds s.cooldownSeconds.toNat
    failOpen := s.failOpen }

-- The limiter that the settings name, whatever they say of a store.
def ofSettings (s : RateLimitSettings) : Limiter :=
  match s.backend with
  | .memory => .inMemory (.withLimit s.budget)
  | .sharedStore => .shared (sharedOfSettings s)

-- A limiter with a store needs an address that the store's client accepts.
def buildWith (client : StoreClient) (s : RateLimitSettings) : Except LimiterError Limiter :=
  match s.backend with
  | .memory => .ok (ofSettings s)
  | .sharedStore =>
    match s.address? with
    | none => .error .missingStoreUrl
    | some url =>
      match client url with
      | .error error => .error (.invalidStoreUrl error)
      | .ok () => .ok (ofSettings s)

def build (s : RateLimitSettings) : Except LimiterError Limiter :=
  buildWith StoreUrl.client s

def limit : Limiter → Nat
  | .inMemory limiter => limiter.limit
  | .shared limiter => limiter.settings.limit

def isEnabled (limiter : Limiter) : Bool := 0 < limiter.limit

def backend : Limiter → Backend
  | .inMemory _ => .memory
  | .shared _ => .sharedStore

def allow (store : CounterStore σ) (s : σ) (limiter : Limiter) (clock : Clock) (client : Client) :
    Ruling σ :=
  match limiter with
  | .inMemory limiter =>
    let (allowed, limiter) := limiter.allow clock client
    ⟨allowed, .inMemory limiter, s, []⟩
  | .shared limiter =>
    let (allowed, limiter, s, journal) := limiter.allow store s clock client
    ⟨allowed, .shared limiter, s, journal⟩

-- The store is asked whatever the breaker says.
def health (store : CounterStore σ) (s : σ) : Limiter → BackendHealth × σ
  | .inMemory _ => (⟨true, some "memory backend"⟩, s)
  | .shared limiter =>
    if ¬ limiter.isEnabled then (⟨true, some "rate limit disabled"⟩, s)
    else
      match store.ping s with
      | (.ok (), s) => (⟨true, none⟩, s)
      | (.error error, s) => (⟨false, some error.message⟩, s)

end Limiter

end AdmissionControl.RateLimit
