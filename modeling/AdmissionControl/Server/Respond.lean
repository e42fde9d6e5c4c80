import AdmissionControl.Pipeline
import AdmissionControl.Server.Router

namespace AdmissionControl.Server

open BodyGuard Http Identity RateLimit

-- A service: what decides about requests, how long one may take, and the
-- routes that are served.
structure Service (σ : Type) where
  pipeline : Pipeline
  store : CounterStore σ
  timeout : Span
  routes : Routes

-- The routes of a service always include those for its health.
def Service.make (pipeline : Pipeline) (store : CounterStore σ) (timeouts : TimeoutSettings)
    (routes : Routes) : Service σ :=
  ⟨pipeline, store, Span.ofSeconds timeouts.requestSeconds.toNat, healthRoutes ++ routes⟩

-- What a request leaves behind: its answer, unless its time ran out, and the
-- state of the counters.
structure Outcome (σ : Type) (α : Type) where
  answer : α
  counting : Counting σ
  journal : Journal

-- A request on its way: the clock at its arrival and the identity it goes by.
structure Arrival where
  request : Request
  clock : Clock
  id : RequestId

-- Where a request is going. A path without a route ends nowhere.
inductive Destination where
  | endpoint (endpoint : Endpoint) (parameters : List String)
  | methodMissing
  | nowhere

def healthJson (health : BackendHealth) : Json :=
  Json.ofMembers [
    ("ok", .bool health.ok),
    ("detail", Json.ofOption .string health.detail)]

def readiness (health : BackendHealth) : Response × Journal :=
  let checks := Json.ofMembers [("rate_limit_backend", healthJson health)]
  let report (status : String) :=
    (Json.ofMembers [("status", .string status), ("checks", checks)]).print
  if health.ok then (.json 200 (report "ok"), [])
  else (.json 503 (report "degraded"), [.event (.notReady health.detail)])

def liveness : Response :=
  .json 200 (Json.ofMembers [("status", .string "ok")]).print

namespace Service

-- The last stage, with what it has left of the body.
def visit (service : Service σ) (arrival : Arrival) (destination : Destination)
    (claims : Option Access.Claims) (source : Source) (counting : Counting σ) :
    Outcome σ (Conclusion × Source) :=
  match destination with
  | .nowhere => ⟨(.responded (.empty 404), source), counting, []⟩
  | .methodMissing => ⟨(.responded (.empty 405), source), counting, []⟩
  | .endpoint .live _ => ⟨(.responded liveness, source), counting, []⟩
  | .endpoint .ready _ =>
    let (health, counting) := counting.health service.store
    let (response, journal) := readiness health
    ⟨(.responded response, source), counting, journal⟩
  | .endpoint (.handler handle) parameters =>
    let visit := {
      method := arrival.request.method
      headers := arrival.request.headers
      peer := arrival.request.peer
      parameters
      claims
      requestId := arrival.id.text }
    let (conclusion, source, journal) := (handle visit).run service.timeout source
    ⟨(conclusion, source), counting, journal⟩

-- Access first, then the rate, then the endpoint. The first refusal is the answer.
def checked (service : Service σ) (arrival : Arrival) (destination : Destination)
    (source : Source) (counting : Counting σ) : Outcome σ (Conclusion × Source) :=
  let request := arrival.request
  let refuse (rejection : Rejection) : Conclusion × Source :=
    (.responded (rejection.response (some arrival.id.text)), source)
  match service.pipeline.authorize request.method request.headers with
  | (.error rejection, journal) => ⟨refuse rejection, counting, journal⟩
  | (.ok claims, journal) =>
    match service.pipeline.checkRate service.store counting arrival.clock request.peer
      request.headers with
    | (.error rejection, counting, later) => ⟨refuse rejection, counting, journal ++ later⟩
    | (.ok (), counting, later) =>
      let outcome := service.visit arrival destination claims source counting
      { outcome with journal := journal ++ later ++ outcome.journal }

def dispatch (service : Service σ) (arrival : Arrival) (exposure : Exposure)
    (destination : Destination) (source : Source) (counting : Counting σ) :
    Outcome σ (Conclusion × Source) :=
  match exposure with
  | .anyone => service.visit arrival destination none source counting
  | .checked => service.checked arrival destination source counting

-- A panic is answered like any other failure, but without the request's identity.
def caught : Conclusion → Option Response × Journal
  | .responded response => (some response, [])
  | .panicked detail =>
    (some (Rejection.internal.response none),
      [.event (.handlerPanicked (detail.getD "unknown panic"))])
  | .interrupted => (none, [])

-- A body that has overflowed is the answer, whatever came of the request.
def guarded (service : Service σ) (arrival : Arrival) (exposure : Exposure)
    (destination : Destination) (counting : Counting σ) : Outcome σ (Option Response) :=
  let id := some arrival.id.text
  match service.pipeline.guardBody arrival.request with
  | (.error rejection, journal) => ⟨some (rejection.response id), counting, journal⟩
  | (.ok source, journal) =>
    let outcome := service.dispatch arrival exposure destination source counting
    let (conclusion, source) := outcome.answer
    let (response, panicked) := caught conclusion
    let journal := journal ++ outcome.journal ++ panicked
    match response, source.rejection? with
    | some response, some rejection =>
      ⟨some (rejection.response id), outcome.counting, journal ++ [
        .event (.responseReplaced arrival.id.text response.status),
        .count (.bodyRejection .streamedOverflow)]⟩
    | response, _ => ⟨response, outcome.counting, journal⟩

-- A request that has no time at all is not even looked at.
def timed (service : Service σ) (arrival : Arrival) (exposure : Exposure)
    (destination : Destination) (counting : Counting σ) : Outcome σ Response :=
  if service.timeout.nanos = 0 then ⟨.empty 408, counting, []⟩
  else
    let outcome := service.guarded arrival exposure destination counting
    ⟨outcome.answer.getD (.empty 408), outcome.counting, outcome.journal⟩

-- Every answer carries the identity of its request.
def identified (service : Service σ) (arrival : Arrival) (exposure : Exposure)
    (destination : Destination) (counting : Counting σ) : Outcome σ Response :=
  let outcome := service.timed arrival exposure destination counting
  { outcome with answer := outcome.answer.setHeader RequestId.header arrival.id.text }

-- How an answer leaves the router: with the methods that would have been served,
-- if the asked one is not, with its length, and without a body where only the
-- head was asked for. A connection that is opened has neither length nor body.
def finish (method : Method) (allow : Option String) (response : Response) : Response :=
  if method = .connect ∧ 200 ≤ response.status ∧ response.status < 300 then
    { response with body := ByteArray.empty }
  else
    let response :=
      match allow with
      | some methods => response.setHeaderIfAbsent "allow" methods
      | none => response
    let response := response.setHeaderIfAbsent "content-length" (toString response.body.size)
    if method = .head then { response with body := ByteArray.empty } else response

-- Answers a request. Paths without a route are checked like those of checked
-- routes, and their answers leave as they are.
def respond (service : Service σ) (counting : Counting σ) (clock : Clock) (generatedId : String)
    (request : Request) : Outcome σ Response :=
  let arrival : Arrival := ⟨request, clock, .ofHeaders request.headers generatedId⟩
  match service.routes.find? request.target.path with
  | some (route, parameters) =>
    let endpoint := route.methods.find? request.method
    let destination :=
      match endpoint with
      | some endpoint => .endpoint endpoint parameters
      | none => .methodMissing
    let allow := if endpoint.isNone then route.methods.allowed? else none
    let outcome := service.identified arrival route.exposure destination counting
    { outcome with answer := finish request.method allow outcome.answer }
  | none =>
    let outcome := service.identified arrival .checked .nowhere counting
    if request.target.path.startsWith "/" then outcome
    else { outcome with answer := finish request.method none outcome.answer }

end Service

end AdmissionControl.Server
