import AdmissionControl.Proofs.Server.Overflow
import Mathlib.Tactic.SplitIfs

namespace AdmissionControl.Server

open BodyGuard Http Identity RateLimit

variable {σ : Type}

-- What may refuse a request on its way to the endpoint of a checked route.
inductive Stage where
  | length
  | access
  | rate

namespace Stage

def inOrder : List Stage := [.length, .access, .rate]

def statuses : Stage → List Nat
  | .length => [400, 413]
  | .access => [401, 403]
  | .rate => [429]

theorem inOrder_eq {earlier later : List Stage} {stage : Stage}
    (horder : inOrder = earlier ++ stage :: later) :
    (earlier = [] ∧ stage = .length) ∨ (earlier = [.length] ∧ stage = .access) ∨
      (earlier = [.length, .access] ∧ stage = .rate) := by
  simp only [inOrder] at horder
  rcases earlier with _ | ⟨first, _ | ⟨second, _ | ⟨third, rest⟩⟩⟩ <;> simp_all

end Stage

def refusalOf : Except Rejection α → Option Rejection
  | .error rejection => some rejection
  | .ok _ => none

theorem refusalOf_eq_some {result : Except Rejection α} {rejection : Rejection} :
    refusalOf result = some rejection ↔ result = .error rejection := by
  cases result <;> simp [refusalOf]

theorem refusalOf_eq_none {result : Except Rejection α} :
    refusalOf result = none ↔ ∃ value, result = .ok value := by
  cases result <;> simp [refusalOf]

namespace Route

def destination (route : Route) (method : Method) (parameters : List String) : Destination :=
  match route.methods.find? method with
  | some endpoint => .endpoint endpoint parameters
  | none => .methodMissing

-- The methods to name in an answer to a request with another method.
def others? (route : Route) (method : Method) : Option String :=
  if (route.methods.find? method).isNone then route.methods.allowed? else none

end Route

def arrivalAt (clock : Clock) (generatedId : String) (request : Request) : Arrival :=
  ⟨request, clock, .ofHeaders request.headers generatedId⟩

-- How an answer leaves the router.
def sealed (route : Route) (arrival : Arrival) (response : Response) : Response :=
  Service.finish arrival.request.method (route.others? arrival.request.method)
    (response.setHeader RequestId.header arrival.id.text)

-- What a guarded request leaves behind, with an answer even if there was no time for one.
def delivered (route : Route) (arrival : Arrival) (outcome : Outcome σ (Option Response)) :
    Outcome σ Response :=
  ⟨sealed route arrival (outcome.answer.getD (.empty 408)), outcome.counting, outcome.journal⟩

theorem status_setHeaderIfAbsent (name value : String) (response : Response) :
    (response.setHeaderIfAbsent name value).status = response.status := by
  simp only [Response.setHeaderIfAbsent]
  split <;> rfl

theorem status_finish (method : Method) (allow : Option String) (response : Response) :
    (Service.finish method allow response).status = response.status := by
  simp only [Service.finish]
  split
  · rfl
  · split <;> split <;> simp only [status_setHeaderIfAbsent]

theorem status_sealed (route : Route) (arrival : Arrival) (response : Response) :
    (sealed route arrival response).status = response.status :=
  status_finish _ _ _

theorem status_response (rejection : Rejection) (id : Option String) :
    (rejection.response id).status = rejection.status := by
  simp only [Rejection.response]
  split <;> rfl

theorem status_of_rejection? {source : Source} {rejection : Rejection}
    (h : source.rejection? = some rejection) : rejection.status = 413 := by
  cases source with
  | unguarded rest => cases h
  | guarded stream =>
      simp only [Source.rejection?, Stream.rejection?] at h
      split at h
      · rw [← Option.some.inj h]
        rfl
      · cases h

theorem declaredLength_error {policy : Policy} {headers : Headers} {rejection : Rejection}
    (h : policy.declaredLength headers = .error rejection) :
    rejection = .invalidContentLength ∨
    ∃ length, rejection = .payloadTooLarge policy.limit (some length) none := by
  simp only [Policy.declaredLength] at h
  split at h
  · cases h
  · split at h
    · exact Or.inl (Except.error.inj h).symm
    · split at h
      · cases h
      · split at h
        · exact Or.inl (Except.error.inj h).symm
        · split_ifs at h
          · exact Or.inl (Except.error.inj h).symm
          · exact Or.inr ⟨_, (Except.error.inj h).symm⟩

theorem guardBody_error {pipeline : Pipeline} {request : Request} {rejection : Rejection}
    (h : (pipeline.guardBody request).1 = .error rejection) :
    rejection = .invalidContentLength ∨
    ∃ length, rejection = .payloadTooLarge pipeline.bodyPolicy.limit (some length) none := by
  cases hguarded : pipeline.bodyPolicy.appliesTo request.method request.target.path with
  | false => simp [Pipeline.guardBody, Policy.enter, hguarded] at h
  | true =>
      cases hdeclared : pipeline.bodyPolicy.declaredLength request.headers with
      | ok declared =>
          simp [guardBody_of_admitted hguarded hdeclared] at h
      | error refusal =>
          simp only [Pipeline.guardBody, Policy.enter, hguarded, hdeclared, if_true, Except.map,
            Except.error.injEq] at h
          exact declaredLength_error (h ▸ hdeclared)

theorem guardBody_fresh {pipeline : Pipeline} {request : Request} {source : Source}
    (h : (pipeline.guardBody request).1 = .ok source) : source.rejection? = none := by
  cases hguarded : pipeline.bodyPolicy.appliesTo request.method request.target.path with
  | false =>
      simp only [Pipeline.guardBody, Policy.enter, hguarded, Bool.false_eq_true, if_false,
        Except.ok.injEq] at h
      rw [← h]
      rfl
  | true =>
      cases hdeclared : pipeline.bodyPolicy.declaredLength request.headers with
      | ok declared =>
          simp only [guardBody_of_admitted hguarded hdeclared, Except.ok.injEq] at h
          rw [← h]
          rfl
      | error refusal =>
          simp [Pipeline.guardBody, Policy.enter, hguarded, hdeclared, Except.map] at h

namespace Service

-- What each stage says to a request by itself, what it writes down, and the counters that
-- it leaves.
def refusal? (service : Service σ) (arrival : Arrival) (counting : Counting σ) :
    Stage → Option Rejection
  | .length => refusalOf (service.pipeline.guardBody arrival.request).1
  | .access =>
    refusalOf (service.pipeline.authorize arrival.request.method arrival.request.headers).1
  | .rate =>
    refusalOf (service.pipeline.checkRate service.store counting arrival.clock
      arrival.request.peer arrival.request.headers).1

def entries (service : Service σ) (arrival : Arrival) (counting : Counting σ) : Stage → Journal
  | .length => (service.pipeline.guardBody arrival.request).2
  | .access => (service.pipeline.authorize arrival.request.method arrival.request.headers).2
  | .rate =>
    (service.pipeline.checkRate service.store counting arrival.clock arrival.request.peer
      arrival.request.headers).2.2

def countingAfter (service : Service σ) (arrival : Arrival) (counting : Counting σ) :
    Stage → Counting σ
  | .length | .access => counting
  | .rate =>
    (service.pipeline.checkRate service.store counting arrival.clock arrival.request.peer
      arrival.request.headers).2.1

variable {service : Service σ} {arrival : Arrival} {counting : Counting σ}
variable {destination : Destination} {source : Source} {rejection : Rejection}

theorem status_mem_statuses {stage : Stage}
    (hrefused : service.refusal? arrival counting stage = some rejection) :
    rejection.status ∈ stage.statuses := by
  cases stage with
  | length =>
      rcases guardBody_error (refusalOf_eq_some.mp hrefused) with rfl | ⟨length, rfl⟩
      · simp [Rejection.invalidContentLength, Rejection.status, Stage.statuses]
      · simp [Rejection.status, Stage.statuses]
  | access =>
      have hdenied := refusalOf_eq_some.mp hrefused
      simp only [Pipeline.authorize] at hdenied
      cases hcheck : (service.pipeline.access.check arrival.request.method
          arrival.request.headers).1 with
      | ok claims => simp [hcheck, Except.mapError] at hdenied
      | error denial =>
          simp only [hcheck, Except.mapError, Except.error.injEq] at hdenied
          cases denial <;> simp [← hdenied, Pipeline.denied, Rejection.status, Stage.statuses]
  | rate =>
      have hlimited := refusalOf_eq_some.mp hrefused
      simp only [Pipeline.checkRate] at hlimited
      split at hlimited
      · cases hlimited
      · split at hlimited
        · cases hlimited
        · simp [← Except.error.inj hlimited, Rejection.status, Stage.statuses]

theorem guardBody_of_refused (h : service.refusal? arrival counting .length = some rejection) :
    service.pipeline.guardBody arrival.request =
      (.error rejection, service.entries arrival counting .length) :=
  Prod.ext (refusalOf_eq_some.mp h) rfl

theorem checked_of_denied (h : service.refusal? arrival counting .access = some rejection) :
    service.checked arrival destination source counting =
      ⟨(.responded (rejection.response (some arrival.id.text)), source), counting,
        service.entries arrival counting .access⟩ := by
  have haccess : service.pipeline.authorize arrival.request.method arrival.request.headers =
      (.error rejection, service.entries arrival counting .access) :=
    Prod.ext (refusalOf_eq_some.mp h) rfl
  simp only [checked, haccess]

theorem checked_of_limited (hpassed : service.refusal? arrival counting .access = none)
    (h : service.refusal? arrival counting .rate = some rejection) :
    service.checked arrival destination source counting =
      ⟨(.responded (rejection.response (some arrival.id.text)), source),
        service.countingAfter arrival counting .rate,
        service.entries arrival counting .access ++ service.entries arrival counting .rate⟩ := by
  obtain ⟨claims, hclaims⟩ := refusalOf_eq_none.mp hpassed
  have haccess : service.pipeline.authorize arrival.request.method arrival.request.headers =
      (.ok claims, service.entries arrival counting .access) := Prod.ext hclaims rfl
  have hrate : service.pipeline.checkRate service.store counting arrival.clock
      arrival.request.peer arrival.request.headers =
      (.error rejection, service.countingAfter arrival counting .rate,
        service.entries arrival counting .rate) := Prod.ext (refusalOf_eq_some.mp h) rfl
  simp only [checked, haccess, hrate]

theorem checked_of_passed {claims : Option Access.Claims}
    (hclaims : (service.pipeline.authorize arrival.request.method arrival.request.headers).1 =
      .ok claims)
    (hpassed : service.refusal? arrival counting .rate = none) :
    let visited := service.visit arrival destination claims source
      (service.countingAfter arrival counting .rate)
    service.checked arrival destination source counting =
      ⟨visited.answer, visited.counting,
        service.entries arrival counting .access ++ service.entries arrival counting .rate ++
          visited.journal⟩ := by
  obtain ⟨_, hok⟩ := refusalOf_eq_none.mp hpassed
  have haccess : service.pipeline.authorize arrival.request.method arrival.request.headers =
      (.ok claims, service.entries arrival counting .access) := Prod.ext hclaims rfl
  have hrate : service.pipeline.checkRate service.store counting arrival.clock
      arrival.request.peer arrival.request.headers =
      (.ok (), service.countingAfter arrival counting .rate,
        service.entries arrival counting .rate) := Prod.ext hok rfl
  simp only [checked, haccess, hrate]

-- Behind a guard that lets it pass, a request that is refused has not had its body read.
theorem guarded_of_checked {answer : Response} {journal : Journal} {after : Counting σ}
    (hguard : service.pipeline.guardBody arrival.request =
      (.ok source, service.entries arrival counting .length))
    (hchecked : service.checked arrival destination source counting =
      ⟨(.responded answer, source), after, journal⟩) :
    service.guarded arrival .checked destination counting =
      ⟨some answer, after, service.entries arrival counting .length ++ journal⟩ := by
  have hfresh : source.rejection? = none := guardBody_fresh (congrArg Prod.fst hguard)
  have hdispatch : service.dispatch arrival .checked destination source counting =
      ⟨(.responded answer, source), after, journal⟩ := hchecked
  have h := guarded_of_within hguard (congrArg Outcome.answer hdispatch) hfresh
  simpa only [hdispatch, caught, List.append_nil] using h

theorem exists_guardBody (h : service.refusal? arrival counting .length = none) :
    ∃ source, service.pipeline.guardBody arrival.request =
      (.ok source, service.entries arrival counting .length) := by
  obtain ⟨source, hok⟩ := refusalOf_eq_none.mp h
  exact ⟨source, Prod.ext hok rfl⟩

theorem guarded_of_first_refusal {earlier later : List Stage} {stage : Stage}
    (horder : Stage.inOrder = earlier ++ stage :: later)
    (hpassed : ∀ passed ∈ earlier, service.refusal? arrival counting passed = none)
    (hrefused : service.refusal? arrival counting stage = some rejection) :
    service.guarded arrival .checked destination counting =
      ⟨some (rejection.response (some arrival.id.text)),
        service.countingAfter arrival counting stage,
        (earlier ++ [stage]).flatMap (service.entries arrival counting)⟩ := by
  rcases Stage.inOrder_eq horder with ⟨rfl, rfl⟩ | ⟨rfl, rfl⟩ | ⟨rfl, rfl⟩
  · rw [guarded_of_error (guardBody_of_refused hrefused)]
    simp [countingAfter]
  · obtain ⟨source, hguard⟩ := exists_guardBody (hpassed .length (by simp))
    rw [guarded_of_checked hguard (checked_of_denied hrefused)]
    simp [countingAfter]
  · obtain ⟨source, hguard⟩ := exists_guardBody (hpassed .length (by simp))
    rw [guarded_of_checked hguard (checked_of_limited (hpassed .access (by simp)) hrefused)]
    simp

theorem respond_of_route {request : Request} {route : Route} {parameters : List String}
    (counting : Counting σ) (clock : Clock) (generatedId : String)
    (hroute : service.routes.find? request.target.path = some (route, parameters))
    (htime : service.timeout.nanos ≠ 0) :
    service.respond counting clock generatedId request =
      delivered route (arrivalAt clock generatedId request)
        (service.guarded (arrivalAt clock generatedId request) route.exposure
          (route.destination request.method parameters) counting) := by
  simp only [respond, hroute, identified, timed, if_neg htime]
  rfl

-- The answer to a request for a checked route is the refusal of the first stage that
-- refuses. Neither a later stage nor the endpoint has a part in it, in what becomes of the
-- counters, or in what is written down. The endpoint is visited once all stages have let
-- the request pass, and what it answers stands unless its body has overflowed.
theorem first_refusal_decides_answer (service : Service σ) (counting : Counting σ) (clock : Clock)
    (generatedId : String) (request : Request) (route : Route) (parameters : List String)
    (hroute : service.routes.find? request.target.path = some (route, parameters))
    (hexposure : route.exposure = .checked) (htime : service.timeout.nanos ≠ 0) :
    let arrival := arrivalAt clock generatedId request
    let outcome := service.respond counting clock generatedId request
    let id := some arrival.id.text
    (∀ earlier stage later rejection, Stage.inOrder = earlier ++ stage :: later →
      (∀ passed ∈ earlier, service.refusal? arrival counting passed = none) →
      service.refusal? arrival counting stage = some rejection →
      rejection.status ∈ stage.statuses ∧ outcome.answer.status = rejection.status ∧
      outcome = ⟨sealed route arrival (rejection.response id),
        service.countingAfter arrival counting stage,
        (earlier ++ [stage]).flatMap (service.entries arrival counting)⟩) ∧
    ((∀ stage ∈ Stage.inOrder, service.refusal? arrival counting stage = none) →
      ∃ source claims, (service.pipeline.guardBody request).1 = .ok source ∧
        (service.pipeline.authorize request.method request.headers).1 = .ok claims ∧
        let visited := service.visit arrival (route.destination request.method parameters) claims
          source (service.countingAfter arrival counting .rate)
        let written := Stage.inOrder.flatMap (service.entries arrival counting) ++ visited.journal
        visited.answer.1 ≠ .interrupted → ∃ handled panicked,
          caught visited.answer.1 = (some handled, panicked) ∧
          (visited.answer.2.rejection? = none →
            outcome = ⟨sealed route arrival handled, visited.counting, written ++ panicked⟩) ∧
          ∀ rejection, visited.answer.2.rejection? = some rejection →
            rejection.status = 413 ∧
            outcome = ⟨sealed route arrival (rejection.response id), visited.counting,
              written ++ panicked ++ [.event (.responseReplaced arrival.id.text handled.status),
                .count (.bodyRejection .streamedOverflow)]⟩) := by
  intro arrival outcome id
  have hrespond : outcome = delivered route arrival (service.guarded arrival .checked
      (route.destination request.method parameters) counting) := by
    rw [← hexposure]
    exact respond_of_route counting clock generatedId hroute htime
  refine ⟨fun earlier stage later rejection horder hpassed hrefused => ?_, fun hpassed => ?_⟩
  · rw [guarded_of_first_refusal horder hpassed hrefused] at hrespond
    refine ⟨status_mem_statuses hrefused, ?_, hrespond⟩
    rw [hrespond]
    exact (status_sealed _ _ _).trans (status_response _ _)
  · obtain ⟨source, hguard⟩ := exists_guardBody (hpassed .length (by simp [Stage.inOrder]))
    obtain ⟨claims, hclaims⟩ := refusalOf_eq_none.mp (hpassed .access (by simp [Stage.inOrder]))
    refine ⟨source, claims, congrArg Prod.fst hguard, hclaims, ?_⟩
    intro visited written hfinished
    obtain ⟨handled, panicked, hcaught⟩ := exists_caught hfinished
    have hdispatch : service.dispatch arrival .checked
        (route.destination request.method parameters) source counting =
        ⟨visited.answer, visited.counting, service.entries arrival counting .access ++
          service.entries arrival counting .rate ++ visited.journal⟩ :=
      checked_of_passed hclaims (hpassed .rate (by simp [Stage.inOrder]))
    have hanswer := congrArg Outcome.answer hdispatch
    refine ⟨handled, panicked, hcaught, fun hwithin => ?_, fun rejection hoverflow => ?_⟩
    · rw [guarded_of_within hguard hanswer hwithin, hdispatch, hcaught] at hrespond
      simpa [delivered, written, Stage.inOrder] using hrespond
    · rw [guarded_of_overflow hguard hanswer hcaught hoverflow, hdispatch] at hrespond
      refine ⟨status_of_rejection? hoverflow, ?_⟩
      simpa [delivered, written, Stage.inOrder] using hrespond

-- Ten bytes where four are allowed, no token where one is asked for, and a store that is
-- taken to be down and lets nobody pass: every stage refuses, and the first one answers.
theorem first_refusal_decides_answer_of_all :
    let limiter : SharedLimiter := ⟨⟨1, "rl", 120, .ofSeconds 5, false⟩, none, ⟨7⟩⟩
    let control : Access.Control :=
      .bearer (fun _ => .error "unknown token") ⟨none, none, none, none⟩
    let route : Route := ⟨[.literal "api"], .checked, .any .live⟩
    let service : Service Unit :=
      ⟨⟨.none, ⟨4, "/api"⟩, control⟩, .silent .zero, .ofSeconds 30, [route]⟩
    let request : Request := ⟨.post, ⟨"/api"⟩, [⟨"content-length", [49, 48]⟩], [], none⟩
    let counting : Counting Unit := ⟨.shared limiter, ()⟩
    let refusal? := service.refusal? (arrivalAt ⟨0, 0⟩ "a" request) counting
    (refusal? .length).map Rejection.status = some 413 ∧
    (refusal? .access).map Rejection.status = some 401 ∧
    (refusal? .rate).map Rejection.status = some 429 ∧
    (service.respond counting ⟨0, 0⟩ "a" request).answer.status = 413 := by
  intro limiter control route service request counting refusal?
  have hlength : refusal? .length = some (.payloadTooLarge 4 (some 10) none) := by decide
  have hmatch : route.pattern.match? request.target.path = some [] := by decide
  have hroute : service.routes.find? request.target.path = some (route, []) := by
    simp [service, Routes.find?, hmatch]
  obtain ⟨hrefused, -⟩ :=
    first_refusal_decides_answer service counting ⟨0, 0⟩ "a" request route [] hroute rfl (by decide)
  obtain ⟨-, hstatus, -⟩ :=
    hrefused [] .length [.access, .rate] (.payloadTooLarge 4 (some 10) none) rfl (by simp) hlength
  exact ⟨by rw [hlength]; rfl, by decide, by decide, hstatus⟩

end Service

end AdmissionControl.Server
