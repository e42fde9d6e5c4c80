import AdmissionControl.Access.Control
import AdmissionControl.BodyGuard.Stream
import AdmissionControl.RateLimit.Limiter
import AdmissionControl.Settings.Check

namespace AdmissionControl

open Http Identity RateLimit

-- What decides about a request and does not change from one to the next.
structure Pipeline where
  trusted : TrustedProxies
  bodyPolicy : BodyGuard.Policy
  access : Access.Control

-- Why no pipeline can be made from the settings.
inductive PipelineError where
  | settings (problems : List Settings.Problem)
  | trustedProxy (error : InvalidEntry)
  | limiter (error : LimiterError)
  | missingValidator

def PipelineError.message : PipelineError → String
  | .settings problems =>
    "invalid configuration: " ++ "; ".intercalate (problems.map Settings.Problem.message)
  | .trustedProxy error => error.message
  | .limiter error => "rate limiter: " ++ error.message
  | .missingValidator => "access.require_jwt is set but no token validator was provided"

namespace Pipeline

-- Tokens are only asked for if the settings say so, and then someone has to
-- know them.
def accessOf (s : AccessSettings) (validator : Option Access.TokenValidator) :
    Except PipelineError Access.Control :=
  match s.requireToken, validator with
  | false, _ => .ok .disabled
  | true, some validate => .ok (.bearer validate (.ofSettings s))
  | true, none => .error .missingValidator

def assemble (s : Settings) (validator : Option Access.TokenValidator) :
    Except PipelineError Pipeline := do
  let trusted ← (TrustedProxies.parse s.security.trustedProxies).mapError .trustedProxy
  let access ← accessOf s.access validator
  return {
    trusted
    bodyPolicy := ⟨s.security.maxBodyBytes, s.security.guardedRoot⟩
    access }

def readyEvent (pipeline : Pipeline) (limiter : Limiter) : Event :=
  .pipelineReady limiter.isEnabled limiter.backend limiter.limit pipeline.trusted.size
    pipeline.bodyPolicy.limit pipeline.access.isEnabled

-- The pipeline and its limiter for settings that hold up to every check.
def buildWith (client : StoreClient) (s : Settings) (validator : Option Access.TokenValidator) :
    Except PipelineError (Pipeline × Limiter) := do
  (Settings.check s).mapError .settings
  let limiter ← (Limiter.buildWith client s.rateLimit).mapError .limiter
  let pipeline ← assemble s validator
  return (pipeline, limiter)

def build (s : Settings) (validator : Option Access.TokenValidator) :
    Except PipelineError (Pipeline × Limiter) :=
  buildWith StoreUrl.client s validator

-- The body of a request that passes the guard.
def guardBody (pipeline : Pipeline) (request : Request) :
    Except Rejection BodyGuard.Source × Journal :=
  match pipeline.bodyPolicy.enter request with
  | .ok source => (.ok source, [])
  | .error rejection =>
    let fault : BodyFault :=
      match rejection with
      | .badRequest _ => .invalidLength
      | _ => .declaredLength
    (.error rejection,
      [.event (.bodyRefused fault pipeline.bodyPolicy.limit), .count (.bodyRejection fault)])

def denied : Access.Denial → Rejection
  | .unauthorized => .unauthorized
  | .forbidden => .forbidden

def authorize (pipeline : Pipeline) (method : Method) (headers : Headers) :
    Except Rejection (Option Access.Claims) × Journal :=
  let (result, journal) := pipeline.access.check method headers
  (result.mapError denied, journal)

def resolve (pipeline : Pipeline) (peer : Option Net.Address) (headers : Headers) :
    Client × Journal :=
  Client.resolve pipeline.trusted peer headers

end Pipeline

-- The part of the service that changes with every counted request.
structure Counting (σ : Type) where
  limiter : Limiter
  store : σ

namespace Pipeline

-- Counts the request for its client. Nobody is asked who the client is unless
-- something is counted.
def checkRate (pipeline : Pipeline) (store : CounterStore σ) (counting : Counting σ)
    (clock : Clock) (peer : Option Net.Address) (headers : Headers) :
    Except Rejection Unit × Counting σ × Journal :=
  if ¬ counting.limiter.isEnabled then (.ok (), counting, [])
  else
    let (client, resolved) := pipeline.resolve peer headers
    let ruling := counting.limiter.allow store counting.store clock client
    let counting := ⟨ruling.limiter, ruling.store⟩
    let backend := ruling.limiter.backend
    let journal := resolved ++ ruling.journal ++ [.count (.decision backend ruling.allowed)]
    if ruling.allowed then (.ok (), counting, journal)
    else
      (.error (.rateLimited ruling.limiter.limit backend), counting,
        journal ++ [.event (.budgetExceeded client.name backend)])

end Pipeline

-- Asks for the health of the counters.
def Counting.health (store : CounterStore σ) (counting : Counting σ) :
    BackendHealth × Counting σ :=
  let (health, s) := counting.limiter.health store counting.store
  (health, { counting with store := s })

end AdmissionControl
