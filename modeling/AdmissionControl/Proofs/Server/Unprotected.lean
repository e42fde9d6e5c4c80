import AdmissionControl.Proofs.Server.TurnedAway
import AdmissionControl.Proofs.Shared.Endings

namespace AdmissionControl

namespace Server

open BodyGuard Http Identity RateLimit

-- Reading a body may be written down, but nothing is counted.
theorem counters_read (source : Source) : Journal.counters source.read.2.2 = [] := by
  cases source with
  | unguarded rest => cases rest <;> rfl
  | guarded stream =>
      simp only [Source.read, Stream.read]
      split
      · rfl
      · split
        · rfl
        · rfl
        · split <;> rfl

theorem counters_collect (source : Source) (held : ByteArray) :
    Journal.counters (source.collect held).2.2 = [] := by
  have hcounters := counters_read source
  induction source, held using Source.collect.induct with
  | case1 source held next journal hread =>
      rw [hread] at hcounters
      rwa [Source.collect_of_end hread]
  | case2 source held text next journal hread =>
      rw [hread] at hcounters
      rwa [Source.collect_of_failure hread]
  | case3 source held bytes next journal hread hlt result last later hcollect ih =>
      rw [hread] at hcounters
      rw [Source.collect_of_chunk hread, Journal.counters_append, hcounters,
        ih (counters_read next)]
      rfl

theorem Activity.counters_run (left : Span) (activity : Activity) (source : Source) :
    Journal.counters (activity.run left source).2.2 = [] := by
  induction activity generalizing left source with
  | respond response => rfl
  | panic detail => rfl
  | take next ih =>
      simp only [Activity.run, Journal.counters_append, counters_read, ih, List.append_nil]
  | collect next ih =>
      simp only [Activity.run, Journal.counters_append, counters_collect, ih, List.append_nil]
  | wait span next ih =>
      simp only [Activity.run]
      split
      · rfl
      · exact ih _ source

namespace Service

variable {σ : Type}

-- No route that is checked takes the path: another one does, or none.
def Unprotected (service : Service σ) (request : Request) : Prop :=
  ∀ route parameters, service.routes.find? request.target.path = some (route, parameters) →
    route.exposure = .anyone

def withAccess (service : Service σ) (control : Access.Control) : Service σ :=
  { service with pipeline := { service.pipeline with access := control } }

-- The request gets as far as the endpoint that asks for the health of the counters.
def AsksHealth (service : Service σ) (route : Route) (request : Request) : Prop :=
  service.timeout.nanos ≠ 0 ∧ (∃ source, (service.pipeline.guardBody request).1 = .ok source) ∧
    route.methods.find? request.method = some .ready

variable {service : Service σ} {arrival : Arrival} {counting : Counting σ}
variable {destination : Destination} {source : Source} {claims : Option Access.Claims}

-- The last stage leaves the counters alone but for a ping of their store.
theorem counting_visit :
    (service.visit arrival destination claims source counting).counting =
      match destination with
      | .endpoint .ready _ => (counting.health service.store).2
      | _ => counting := by
  cases destination with
  | nowhere => rfl
  | methodMissing => rfl
  | endpoint endpoint parameters => cases endpoint <;> rfl

theorem counters_visit :
    (service.visit arrival destination claims source counting).journal.counters = [] := by
  cases destination with
  | nowhere => rfl
  | methodMissing => rfl
  | endpoint endpoint parameters =>
      cases endpoint with
      | live => rfl
      | ready =>
          simp only [visit, readiness]
          split <;> rfl
      | handler handle => exact Activity.counters_run _ _ _

theorem responded_of_visit {response : Response}
    (h : (service.visit arrival destination claims source counting).answer.1 =
      .responded response) :
    (∃ handle parameters visit, destination = .endpoint (.handler handle) parameters ∧
      ((handle visit).run service.timeout source).1 = .responded response) ∨
    response.status ∈ [200, 404, 405, 503] := by
  cases destination with
  | nowhere => cases h; simp [Response.empty]
  | methodMissing => cases h; simp [Response.empty]
  | endpoint endpoint parameters =>
      cases endpoint with
      | live => cases h; simp [liveness, Response.json]
      | ready =>
          simp only [visit, readiness] at h
          split at h <;> (cases h; simp [Response.json])
      | handler handle => exact Or.inl ⟨handle, parameters, _, rfl, h⟩

-- How the end of a visit is answered behind the guard.
def settled (id : String) (ending : Conclusion × Source) : Option Response :=
  match (caught ending.1).1, ending.2.rejection? with
  | some _, some rejection => some (rejection.response (some id))
  | response, _ => response

theorem status_settled {id : String} {ending : Conclusion × Source} {response : Response}
    (h : settled id ending = some response) :
    ending.1 = .responded response ∨ response.status ∈ [413, 500] := by
  obtain ⟨conclusion, source⟩ := ending
  simp only [settled] at h
  split at h
  · rename_i _ rejection _ hoverflow
    rw [← Option.some.inj h, status_response, status_of_rejection? hoverflow]
    simp
  · cases conclusion with
    | responded answer => exact Or.inl (by rw [Option.some.inj h])
    | panicked detail =>
        rw [← Option.some.inj h, status_response]
        simp [Rejection.status]
    | interrupted => cases h

theorem guarded_of_ok (destination : Destination) (counting : Counting σ) {journal : Journal}
    (hguard : service.pipeline.guardBody arrival.request = (.ok source, journal)) :
    let visited := service.visit arrival destination none source counting
    let outcome := service.guarded arrival .anyone destination counting
    outcome.answer = settled arrival.id.text visited.answer ∧
    outcome.counting = visited.counting ∧
    ∀ counter ∈ outcome.journal.counters, counter ∈ journal.counters ∨
      counter = .bodyRejection .streamedOverflow := by
  have hwritten : (service.visit arrival destination none source counting).journal.counters = [] :=
    counters_visit
  simp only [guarded, hguard, dispatch]
  generalize service.visit arrival destination none source counting = visited at hwritten ⊢
  obtain ⟨⟨conclusion, last⟩, after, written⟩ := visited
  have hcaught : Journal.counters (caught conclusion).2 = [] := by cases conclusion <;> rfl
  have hkept :
      Journal.counters (journal ++ written ++ (caught conclusion).2) = journal.counters := by
    simp only [Journal.counters_append, hwritten, hcaught, List.append_nil]
  simp only [settled]
  cases (caught conclusion).1 with
  | none => exact ⟨rfl, rfl, fun counter hc => Or.inl (hkept ▸ hc)⟩
  | some response =>
      cases last.rejection? with
      | none => exact ⟨rfl, rfl, fun counter hc => Or.inl (hkept ▸ hc)⟩
      | some rejection =>
          refine ⟨rfl, rfl, fun counter hc => ?_⟩
          rw [Journal.counters_append, hkept] at hc
          simpa [Journal.counters] using hc

section Routed

variable {request : Request} {route : Route} {parameters : List String}

theorem respond_of_no_time (counting : Counting σ) (clock : Clock) (generatedId : String)
    (hroute : service.routes.find? request.target.path = some (route, parameters))
    (htime : service.timeout.nanos = 0) :
    service.respond counting clock generatedId request =
      ⟨sealed route (arrivalAt clock generatedId request) (.empty 408), counting, []⟩ := by
  simp only [respond, hroute, identified, timed, if_pos htime]
  rfl

theorem respond_of_oversized {rejection : Rejection} (counting : Counting σ) (clock : Clock)
    (generatedId : String)
    (hroute : service.routes.find? request.target.path = some (route, parameters))
    (htime : service.timeout.nanos ≠ 0)
    (hguard : (service.pipeline.guardBody request).1 = .error rejection) :
    service.respond counting clock generatedId request =
      ⟨sealed route (arrivalAt clock generatedId request)
        (rejection.response (some (arrivalAt clock generatedId request).id.text)), counting,
        (service.pipeline.guardBody request).2⟩ := by
  have hrejected : service.pipeline.guardBody (arrivalAt clock generatedId request).request =
      (.error rejection, (service.pipeline.guardBody request).2) := Prod.ext hguard rfl
  rw [respond_of_route counting clock generatedId hroute htime, guarded_of_error hrejected]
  rfl

theorem respond_of_visited (counting : Counting σ) (clock : Clock) (generatedId : String)
    (hroute : service.routes.find? request.target.path = some (route, parameters))
    (hexposure : route.exposure = .anyone) (htime : service.timeout.nanos ≠ 0)
    (hguard : (service.pipeline.guardBody request).1 = .ok source) :
    let arrival := arrivalAt clock generatedId request
    let outcome := service.respond counting clock generatedId request
    let visited := service.visit arrival (route.destination request.method parameters) none source
      counting
    outcome.answer =
      sealed route arrival ((settled arrival.id.text visited.answer).getD (.empty 408)) ∧
    outcome.counting = visited.counting ∧
    ∀ counter ∈ outcome.journal.counters,
      counter ∈ (service.pipeline.guardBody request).2.counters ∨
        counter = .bodyRejection .streamedOverflow := by
  intro arrival outcome visited
  have hrespond : outcome = delivered route arrival (service.guarded arrival .anyone
      (route.destination request.method parameters) counting) :=
    hexposure ▸ respond_of_route counting clock generatedId hroute htime
  have hadmitted : service.pipeline.guardBody arrival.request =
      (.ok source, (service.pipeline.guardBody request).2) := Prod.ext hguard rfl
  obtain ⟨hanswer, hcounting, hcounters⟩ :=
    guarded_of_ok (route.destination request.method parameters) counting hadmitted
  rw [hrespond]
  exact ⟨by rw [← hanswer]; rfl, hcounting, hcounters⟩

theorem respond_withAccess (control : Access.Control) (counting : Counting σ) (clock : Clock)
    (generatedId : String)
    (hroute : service.routes.find? request.target.path = some (route, parameters))
    (hexposure : route.exposure = .anyone) :
    (service.withAccess control).respond counting clock generatedId request =
      service.respond counting clock generatedId request := by
  have hsame : (service.withAccess control).routes.find? request.target.path =
      some (route, parameters) := hroute
  simp only [respond, hroute, hsame, hexposure]
  rfl

-- Only a request for the health of the counters depends on them.
theorem visit_of_not_ready (service : Service σ) (parameters : List String) (arrival : Arrival)
    (source : Source) (counting other : Counting σ)
    (hready : route.methods.find? request.method ≠ some .ready) :
    let destination := route.destination request.method parameters
    (service.visit arrival destination none source counting).counting = counting ∧
    (service.visit arrival destination none source other).answer =
      (service.visit arrival destination none source counting).answer := by
  simp only [Route.destination]
  cases hendpoint : route.methods.find? request.method with
  | none => exact ⟨rfl, rfl⟩
  | some endpoint =>
      cases endpoint with
      | live => exact ⟨rfl, rfl⟩
      | ready => exact absurd hendpoint hready
      | handler handle => exact ⟨rfl, rfl⟩

theorem respond_of_asksHealth (counting : Counting σ) (clock : Clock) (generatedId : String)
    (hroute : service.routes.find? request.target.path = some (route, parameters))
    (hexposure : route.exposure = .anyone) (hasks : service.AsksHealth route request) :
    (service.respond counting clock generatedId request).counting =
      (counting.health service.store).2 := by
  obtain ⟨htime, ⟨source, hguard⟩, hready⟩ := hasks
  obtain ⟨-, hcounting, -⟩ :=
    respond_of_visited counting clock generatedId hroute hexposure htime hguard
  rw [hcounting, counting_visit, Route.destination, hready]

theorem respond_of_not_asksHealth (counting : Counting σ) (clock : Clock) (generatedId : String)
    (hroute : service.routes.find? request.target.path = some (route, parameters))
    (hexposure : route.exposure = .anyone) (hasks : ¬service.AsksHealth route request) :
    (service.respond counting clock generatedId request).counting = counting ∧
    ∀ other, (service.respond other clock generatedId request).answer =
      (service.respond counting clock generatedId request).answer := by
  by_cases htime : service.timeout.nanos = 0
  · simp only [respond_of_no_time _ clock generatedId hroute htime, implies_true, and_self]
  cases hguard : (service.pipeline.guardBody request).1 with
  | error rejection =>
      simp only [respond_of_oversized _ clock generatedId hroute htime hguard, implies_true,
        and_self]
  | ok source =>
      have hready : route.methods.find? request.method ≠ some .ready := fun hready =>
        hasks ⟨htime, ⟨source, hguard⟩, hready⟩
      have hvisited := fun counting =>
        respond_of_visited counting clock generatedId hroute hexposure htime hguard
      have hsame := fun other => visit_of_not_ready service parameters
        (arrivalAt clock generatedId request) source counting other hready
      refine ⟨(hvisited counting).2.1.trans (hsame counting).1, fun other => ?_⟩
      rw [(hvisited other).1, (hvisited counting).1, (hsame other).2]

theorem counters_respond (counting : Counting σ) (clock : Clock) (generatedId : String)
    (hroute : service.routes.find? request.target.path = some (route, parameters))
    (hexposure : route.exposure = .anyone) :
    ∀ counter ∈ (service.respond counting clock generatedId request).journal.counters,
      ∃ fault, counter = .bodyRejection fault := by
  have hlength : ∀ counter ∈ (service.pipeline.guardBody request).2.counters,
      ∃ fault, counter = .bodyRejection fault := by
    simp only [Pipeline.guardBody]
    split <;> simp [Journal.counters]
  by_cases htime : service.timeout.nanos = 0
  · simp [respond_of_no_time counting clock generatedId hroute htime, Journal.counters]
  cases hguard : (service.pipeline.guardBody request).1 with
  | error rejection =>
      rwa [respond_of_oversized counting clock generatedId hroute htime hguard]
  | ok source =>
      intro counter hc
      obtain ⟨-, -, hcounters⟩ :=
        respond_of_visited counting clock generatedId hroute hexposure htime hguard
      rcases hcounters counter hc with hc | rfl
      · exact hlength counter hc
      · exact ⟨_, rfl⟩

theorem destination_eq_handler {method : Method} {handle : Handler} {captured : List String}
    (h : route.destination method parameters = .endpoint (.handler handle) captured) :
    route.methods.find? method = some (.handler handle) := by
  simp only [Route.destination] at h
  split at h
  · rename_i endpoint hendpoint
    cases h
    exact hendpoint
  · cases h

theorem status_of_settled_visit {id : String} {response : Response}
    (h : settled id (service.visit arrival (route.destination request.method parameters) claims
      source counting).answer = some response) :
    (∃ handle visit, route.methods.find? request.method = some (.handler handle) ∧
      ((handle visit).run service.timeout source).1 = .responded response) ∨
    response.status ∈ [200, 404, 405, 413, 500, 503] := by
  rcases status_settled h with hresponded | hstatus
  · rcases responded_of_visit hresponded with ⟨handle, _, visit, hdestination, hrun⟩ | hstatus
    · exact Or.inl ⟨handle, visit, destination_eq_handler hdestination, hrun⟩
    · have hknown : [200, 404, 405, 503] ⊆ [200, 404, 405, 413, 500, 503] := by decide
      exact Or.inr (hknown hstatus)
  · have hknown : [413, 500] ⊆ [200, 404, 405, 413, 500, 503] := by decide
    exact Or.inr (hknown hstatus)

-- Where nothing is checked, an answer like that of access control or of the limiter can
-- only be one that the endpoint has made up itself.
theorem status_respond (counting : Counting σ) (clock : Clock) (generatedId : String)
    (hroute : service.routes.find? request.target.path = some (route, parameters))
    (hexposure : route.exposure = .anyone) :
    let status := (service.respond counting clock generatedId request).answer.status
    (∃ handle visit source response, route.methods.find? request.method = some (.handler handle) ∧
      ((handle visit).run service.timeout source).1 = .responded response ∧
      response.status = status) ∨
    status ∈ [200, 400, 404, 405, 408, 413, 500, 503] := by
  intro status
  by_cases htime : service.timeout.nanos = 0
  · simp [status, respond_of_no_time counting clock generatedId hroute htime, status_sealed,
      Response.empty]
  cases hguard : (service.pipeline.guardBody request).1 with
  | error rejection =>
      refine Or.inr ?_
      simp only [status, respond_of_oversized counting clock generatedId hroute htime hguard,
        status_sealed, status_response]
      rcases guardBody_error hguard with rfl | ⟨length, rfl⟩
      · simp [Rejection.invalidContentLength, Rejection.status]
      · simp [Rejection.status]
  | ok source =>
      obtain ⟨hanswer, -, -⟩ :=
        respond_of_visited counting clock generatedId hroute hexposure htime hguard
      simp only [status, hanswer, status_sealed]
      cases hsettled : settled (arrivalAt clock generatedId request).id.text
          (service.visit (arrivalAt clock generatedId request)
            (route.destination request.method parameters) none source counting).answer with
      | none => simp [Response.empty]
      | some response =>
          rcases status_of_settled_visit hsettled with ⟨handle, visit, hfound, hrun⟩ | hstatus
          · exact Or.inl ⟨handle, visit, source, response, hfound, hrun, rfl⟩
          · have hknown : [200, 404, 405, 413, 500, 503] ⊆
                [200, 400, 404, 405, 408, 413, 500, 503] := by decide
            exact Or.inr (hknown hstatus)

end Routed

theorem respond_of_unrouted {request : Request} (counting : Counting σ) (clock : Clock)
    (generatedId : String) (hroute : service.routes.find? request.target.path = none)
    (htime : service.timeout.nanos ≠ 0) :
    let guarded := service.guarded (arrivalAt clock generatedId request) .checked .nowhere counting
    let outcome := service.respond counting clock generatedId request
    outcome.answer.status = (guarded.answer.getD (.empty 408)).status ∧
    outcome.counting = guarded.counting ∧ outcome.journal = guarded.journal := by
  simp only [respond, hroute]
  split
  · simp only [identified, timed, if_neg htime]
    exact ⟨rfl, rfl, rfl⟩
  · simp only [identified, timed, if_neg htime, status_finish]
    exact ⟨rfl, rfl, rfl⟩

theorem guarded_of_nowhere
    (hpassed : ∀ stage ∈ Stage.inOrder, service.refusal? arrival counting stage = none) :
    service.guarded arrival .checked .nowhere counting =
      ⟨some (.empty 404), service.countingAfter arrival counting .rate,
        Stage.inOrder.flatMap (service.entries arrival counting)⟩ := by
  obtain ⟨source, hguard⟩ := exists_guardBody (hpassed .length (by simp [Stage.inOrder]))
  obtain ⟨claims, hclaims⟩ := refusalOf_eq_none.mp (hpassed .access (by simp [Stage.inOrder]))
  have hchecked : service.checked arrival .nowhere source counting =
      ⟨(.responded (.empty 404), source), service.countingAfter arrival counting .rate,
        service.entries arrival counting .access ++ service.entries arrival counting .rate ++ []⟩ :=
    checked_of_passed hclaims (hpassed .rate (by simp [Stage.inOrder]))
  rw [guarded_of_checked hguard hchecked]
  simp [Stage.inOrder]

-- The health of the counters is told without their store or with a single ping of it.
theorem health_eq (store : CounterStore σ) (counting : Counting σ) :
    (counting.health store).2 = match counting.limiter with
      | .inMemory _ => counting
      | .shared limiter =>
        if limiter.isEnabled then { counting with store := (store.ping counting.store).2 }
        else counting := by
  obtain ⟨limiter, s⟩ := counting
  cases limiter with
  | inMemory limiter => rfl
  | shared limiter =>
      simp only [Counting.health, Limiter.health]
      cases limiter.isEnabled with
      | false => rfl
      | true =>
          simp only [not_true_eq_false, if_false, if_true]
          split <;> simp_all

-- A request that is neither checked nor counted. The control makes no difference to it, and
-- the counters make none but at the readiness endpoint, which may ping their store. Nothing
-- else is asked of the store, and no counter of the rate limit grows.
structure Spared (service : Service σ) (counting : Counting σ) (clock : Clock)
    (generatedId : String) (request : Request) (route : Route) : Prop where
  control : ∀ control, (service.withAccess control).respond counting clock generatedId request =
    service.respond counting clock generatedId request
  limiter : (service.respond counting clock generatedId request).counting.limiter =
    counting.limiter
  counters : ¬service.AsksHealth route request →
    ∀ other, (service.respond other clock generatedId request).answer =
      (service.respond counting clock generatedId request).answer
  store : ∀ made,
    let outcome := service.respond counting clock generatedId request
    let recorded := service.recorded.respond ⟨counting.limiter, (counting.store, made)⟩ clock
      generatedId request
    (outcome.counting.store = counting.store ∧ recorded.counting.store.2 = made) ∨
    (service.AsksHealth route request ∧
      outcome.counting.store = (service.store.ping counting.store).2 ∧
      recorded.counting.store.2 = made ++ [.ping (service.store.ping counting.store).1])
  uncounted : ∀ counter ∈ (service.respond counting clock generatedId request).journal.counters,
    ∃ fault, counter = .bodyRejection fault
  answer : let status := (service.respond counting clock generatedId request).answer.status
    (∃ handle visit source response, route.methods.find? request.method = some (.handler handle) ∧
      ((handle visit).run service.timeout source).1 = .responded response ∧
      response.status = status) ∨
    status ∈ [200, 400, 404, 405, 408, 413, 500, 503]

-- A request that has to pass every stage and is not found after the last of them.
structure Staged (service : Service σ) (counting : Counting σ) (clock : Clock)
    (generatedId : String) (request : Request) : Prop where
  refused : ∀ earlier stage later rejection, Stage.inOrder = earlier ++ stage :: later →
    let arrival := arrivalAt clock generatedId request
    let outcome := service.respond counting clock generatedId request
    (∀ passed ∈ earlier, service.refusal? arrival counting passed = none) →
    service.refusal? arrival counting stage = some rejection →
    rejection.status ∈ stage.statuses ∧ outcome.answer.status = rejection.status ∧
    outcome.counting = service.countingAfter arrival counting stage ∧
    outcome.journal = (earlier ++ [stage]).flatMap (service.entries arrival counting)
  passed :
    let arrival := arrivalAt clock generatedId request
    let outcome := service.respond counting clock generatedId request
    (∀ stage ∈ Stage.inOrder, service.refusal? arrival counting stage = none) →
    outcome.answer.status = 404 ∧
    outcome.counting = service.countingAfter arrival counting .rate ∧
    outcome.journal = Stage.inOrder.flatMap (service.entries arrival counting)

theorem spared_of_anyone {request : Request} {route : Route} {parameters : List String}
    (counting : Counting σ) (clock : Clock) (generatedId : String)
    (hroute : service.routes.find? request.target.path = some (route, parameters))
    (hexposure : route.exposure = .anyone) :
    service.Spared counting clock generatedId request route := by
  have hrecorded : service.recorded.routes.find? request.target.path = some (route, parameters) :=
    hroute
  refine ⟨fun control => respond_withAccess control counting clock generatedId hroute hexposure,
    ?_, fun hasks =>
      (respond_of_not_asksHealth counting clock generatedId hroute hexposure hasks).2,
    fun made => ?_, counters_respond counting clock generatedId hroute hexposure,
    status_respond counting clock generatedId hroute hexposure⟩
  · by_cases hasks : service.AsksHealth route request
    · rw [respond_of_asksHealth counting clock generatedId hroute hexposure hasks]
      rfl
    · rw [(respond_of_not_asksHealth counting clock generatedId hroute hexposure hasks).1]
  · simp only
    by_cases hasks : service.AsksHealth route request
    · rw [respond_of_asksHealth counting clock generatedId hroute hexposure hasks,
        respond_of_asksHealth _ clock generatedId hrecorded hexposure hasks, health_eq, health_eq]
      cases counting.limiter with
      | inMemory limiter => exact Or.inl ⟨rfl, rfl⟩
      | shared limiter =>
          cases henabled : limiter.isEnabled with
          | false => simp [henabled]
          | true => simp [henabled, hasks, recorded, CounterStore.recorded]
    · rw [(respond_of_not_asksHealth counting clock generatedId hroute hexposure hasks).1,
        (respond_of_not_asksHealth _ clock generatedId hrecorded hexposure hasks).1]
      exact Or.inl ⟨rfl, rfl⟩

theorem staged_of_unrouted {request : Request} (counting : Counting σ) (clock : Clock)
    (generatedId : String) (hroute : service.routes.find? request.target.path = none)
    (htime : service.timeout.nanos ≠ 0) : service.Staged counting clock generatedId request := by
  obtain ⟨hstatus, hcounting, hjournal⟩ :=
    respond_of_unrouted counting clock generatedId hroute htime
  constructor
  · intro earlier stage later rejection horder arrival outcome hpassed hrefused
    rw [guarded_of_first_refusal horder hpassed hrefused] at hstatus hcounting hjournal
    exact ⟨status_mem_statuses hrefused, hstatus.trans (status_response _ _), hcounting, hjournal⟩
  · intro arrival outcome hpassed
    rw [guarded_of_nowhere hpassed] at hstatus hcounting hjournal
    exact ⟨hstatus, hcounting, hjournal⟩

-- Of the requests that no checked route takes, those for another route are spared. Only a
-- path without any route goes through the stages of a checked one before it is not found.
theorem unrouted_alone_is_checked (service : Service σ) (counting : Counting σ) (clock : Clock)
    (generatedId : String) (request : Request) (hopen : service.Unprotected request) :
    (∀ route parameters,
      service.routes.find? request.target.path = some (route, parameters) →
      service.Spared counting clock generatedId request route) ∧
    (service.routes.find? request.target.path = none → service.timeout.nanos ≠ 0 →
      service.Staged counting clock generatedId request) :=
  ⟨fun route parameters hroute =>
      spared_of_anyone counting clock generatedId hroute (hopen route parameters hroute),
    fun hroute htime => staged_of_unrouted counting clock generatedId hroute htime⟩

-- A service that has nothing but its health to tell, asks for tokens and knows none, and a
-- limiter that lets nobody pass, as it takes its store to be down.
def refusing : Service Unit :=
  .make ⟨.none, ⟨4, "/api/"⟩, .bearer (fun _ => .error "unknown token") ⟨none, none, none, none⟩⟩
    (.silent .zero) {} []

def exhausted : Counting Unit := ⟨.shared ⟨⟨1, "rl", 120, .ofSeconds 5, false⟩, none, ⟨7⟩⟩, ()⟩

def stray : Request := ⟨.get, ⟨"/nowhere"⟩, [], [], none⟩

theorem stray_unrouted : refusing.routes.find? stray.target.path = none :=
  Option.isNone_iff_eq_none.mp (by decide)

theorem unprotected_of_unrouted {request : Request}
    (hroute : service.routes.find? request.target.path = none) : service.Unprotected request := by
  intro route parameters hfound
  rw [hroute] at hfound
  cases hfound

-- Its health can be asked for by anyone, but a stray path is refused like a checked one.
theorem refusing_spares_health_alone :
    let health : Request := ⟨.get, ⟨"/health"⟩, [], [], none⟩
    refusing.Unprotected health ∧ refusing.Unprotected stray ∧
    (∃ route, refusing.Spared exhausted ⟨0, 0⟩ "a" health route) ∧
    (refusing.respond exhausted ⟨0, 0⟩ "a" stray).answer.status = 401 := by
  intro health
  have hopen : (refusing.routes.find? health.target.path).map (fun found => found.1.exposure) =
      some .anyone := by decide
  obtain ⟨⟨route, parameters⟩, hroute, hexposure⟩ := Option.map_eq_some_iff.mp hopen
  have hhealth : refusing.Unprotected health := by
    intro other found hother
    rw [hroute] at hother
    cases hother
    exact hexposure
  have hstray : refusing.Unprotected stray := unprotected_of_unrouted stray_unrouted
  obtain ⟨hspared, -⟩ := unrouted_alone_is_checked refusing exhausted ⟨0, 0⟩ "a" health hhealth
  obtain ⟨-, hstaged⟩ := unrouted_alone_is_checked refusing exhausted ⟨0, 0⟩ "a" stray hstray
  obtain ⟨-, hstatus, -⟩ := (hstaged stray_unrouted (by decide)).refused [.length] .access [.rate]
    .unauthorized rfl (by decide) (by decide)
  exact ⟨hhealth, hstray, ⟨route, hspared route parameters hroute⟩, hstatus⟩

-- So a request may be refused for want of a token or of budget, and counted, though none of
-- the routes is checked.
theorem unprotected_not_spared :
    ¬∀ (σ : Type) (pipeline : Pipeline) (store : CounterStore σ) (counting : Counting σ)
      (clock : Clock) (generatedId : String) (request : Request),
      (make pipeline store {} []).Unprotected request →
      let outcome := (make pipeline store {} []).respond counting clock generatedId request
      outcome.answer.status ∉ [401, 403, 429] ∧
      ∀ backend allowed, outcome.journal.total (.decision backend allowed) = 0 := by
  intro hspared
  obtain ⟨hstatus, -⟩ := hspared Unit refusing.pipeline refusing.store exhausted ⟨0, 0⟩ "a" stray
    (unprotected_of_unrouted stray_unrouted)
  obtain ⟨-, hdenied, -⟩ := (staged_of_unrouted exhausted ⟨0, 0⟩ "a" stray_unrouted
    (by decide)).refused [.length] .access [.rate] .unauthorized rfl (by decide) (by decide)
  have hunauthorized : ((make refusing.pipeline refusing.store {} []).respond exhausted ⟨0, 0⟩ "a"
      stray).answer.status = 401 := hdenied
  simp [hunauthorized] at hstatus

end Service

end Server

end AdmissionControl
