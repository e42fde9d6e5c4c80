import AdmissionControl.Proofs.Access.Vouched
import AdmissionControl.Proofs.Server.Accounts
import AdmissionControl.Proofs.Server.Alike

namespace AdmissionControl.Server

open Access BodyGuard Http Identity RateLimit

namespace Service

variable {σ : Type}

-- What becomes of a request if this is where it is going.
def respondAt (service : Service σ) (counting : Counting σ) (clock : Clock) (generatedId : String)
    (request : Request) (destination : Destination) : Outcome σ Response :=
  let arrival := arrivalAt clock generatedId request
  let outcome := service.timed arrival (service.exposureOf request) destination counting
  ⟨service.leaving request (outcome.answer.setHeader RequestId.header arrival.id.text),
    outcome.counting, outcome.journal⟩

-- There is time for the request, and the guard lets it pass with this body.
def Enters (service : Service σ) (request : Request) (source : Source) : Prop :=
  service.timeout.nanos ≠ 0 ∧ (service.pipeline.guardBody request).1 = .ok source

-- What access control makes of a request. Without claims that are vouched for and reach far
-- enough no endpoint has a part in what becomes of it. With them it is for the endpoint,
-- which gets these claims, unless the rate is refused. Behind the guard a request is told
-- that its token is not accepted, or that it does not reach far enough, and nobody but the
-- handler that it has come to says so of any other request.
structure Screened (service : Service σ) (validate : TokenValidator) (policy : ScopePolicy)
    (counting : Counting σ) (clock : Clock) (generatedId : String) (request : Request) : Prop where
  unheard (hnone : ¬∃ claims, Vouched validate request.headers claims ∧
      policy.Grants request.method claims) (destination : Destination) :
    service.respondAt counting clock generatedId request destination =
      service.respond counting clock generatedId request
  handed {claims : Claims} {source : Source} (henters : service.Enters request source)
      (hvouched : Vouched validate request.headers claims)
      (hgrants : policy.Grants request.method claims)
      (hrate : service.refusal? (arrivalAt clock generatedId request) counting .rate = none)
      (destination : Destination) :
    let arrival := arrivalAt clock generatedId request
    let visited := service.visit arrival destination (some claims) source
      (service.countingAfter arrival counting .rate)
    let answer := (settled arrival.id.text visited.answer).getD (.empty 408)
    (service.respondAt counting clock generatedId request destination).answer =
      service.leaving request (answer.setHeader RequestId.header arrival.id.text)
  unauthorized {source : Source} (henters : service.Enters request source)
      (hnone : ¬∃ claims, Vouched validate request.headers claims) :
    (service.respond counting clock generatedId request).answer.status = 401
  forbidden {claims : Claims} {source : Source} (henters : service.Enters request source)
      (hvouched : Vouched validate request.headers claims)
      (hdenied : ¬policy.Grants request.method claims) :
    (service.respond counting clock generatedId request).answer.status = 403
  own {claims : Claims} {source : Source} (henters : service.Enters request source)
      (hvouched : Vouched validate request.headers claims)
      (hgrants : policy.Grants request.method claims)
      (hstatus : (service.respond counting clock generatedId request).answer.status ∈ [401, 403]) :
    ∃ handle parameters visit response,
      service.destinationOf request = .endpoint (.handler handle) parameters ∧
      visit.claims = some claims ∧
      ((handle visit).run service.timeout source).1 = .responded response ∧
      response.status = (service.respond counting clock generatedId request).answer.status

variable {service : Service σ} {validate : TokenValidator} {policy : ScopePolicy}
variable {counting : Counting σ} {clock : Clock} {generatedId : String} {request : Request}
variable {arrival : Arrival} {destination : Destination} {source : Source}

theorem respond_eq_respondAt : service.respond counting clock generatedId request =
    service.respondAt counting clock generatedId request (service.destinationOf request) :=
  service.respond_eq counting clock generatedId request

theorem status_respondAt :
    (service.respondAt counting clock generatedId request destination).answer.status =
      (service.timed (arrivalAt clock generatedId request) (service.exposureOf request) destination
        counting).answer.status :=
  (leaves_leaving service request _).status

-- What the guard or access control refuses does not depend on where it was going.
theorem timed_of_denied {rejection : Rejection}
    (hdenied : service.refusal? arrival counting .access = some rejection)
    (one other : Destination) :
    service.timed arrival .checked one counting =
      service.timed arrival .checked other counting := by
  simp only [timed]
  cases hlength : service.refusal? arrival counting .length with
  | some refusal =>
      rw [guarded_of_error (guardBody_of_refused hlength),
        guarded_of_error (guardBody_of_refused hlength)]
  | none =>
      have horder : Stage.inOrder = [.length] ++ .access :: [.rate] := rfl
      rw [guarded_of_first_refusal horder (by simpa using hlength) hdenied,
        guarded_of_first_refusal horder (by simpa using hlength) hdenied]

theorem status_respond_of_refused {earlier later : List Stage} {stage : Stage}
    {rejection : Rejection} (hchecked : service.exposureOf request = .checked)
    (htime : service.timeout.nanos ≠ 0)
    (horder : Stage.inOrder = earlier ++ stage :: later)
    (hpassed : ∀ passed ∈ earlier,
      service.refusal? (arrivalAt clock generatedId request) counting passed = none)
    (hrefused : service.refusal? (arrivalAt clock generatedId request) counting stage =
      some rejection) :
    (service.respond counting clock generatedId request).answer.status = rejection.status := by
  rw [respond_eq_respondAt, status_respondAt, hchecked, timed, if_neg htime,
    guarded_of_first_refusal horder hpassed hrefused]
  exact status_response _ _

-- Behind the guard, and with no other stage against it, a request comes to its endpoint
-- with its claims.
theorem answer_timed_of_passed (arrival : Arrival) {claims : Option Claims}
    (htime : service.timeout.nanos ≠ 0)
    (hguard : (service.pipeline.guardBody arrival.request).1 = .ok source)
    (hclaims : (service.pipeline.authorize arrival.request.method arrival.request.headers).1 =
      .ok claims)
    (hrate : service.refusal? arrival counting .rate = none) (destination : Destination) :
    (service.timed arrival .checked destination counting).answer =
      (settled arrival.id.text (service.visit arrival destination claims source
        (service.countingAfter arrival counting .rate)).answer).getD (.empty 408) := by
  have hadmitted : service.pipeline.guardBody arrival.request =
      (.ok source, service.entries arrival counting .length) := Prod.ext hguard rfl
  simp only [timed, if_neg htime, guarded_eq_concluded hadmitted, answer_concluded, dispatch,
    checked_of_passed hclaims hrate]

-- Of the endpoints only a handler answers like access control.
theorem handler_of_visit {claims : Option Claims} {response : Response}
    (h : (service.visit arrival destination claims source counting).answer.1 = .responded response)
    (hstatus : response.status ∈ [401, 403]) :
    ∃ handle parameters visit, destination = .endpoint (.handler handle) parameters ∧
      visit.claims = claims ∧
      ((handle visit).run service.timeout source).1 = .responded response := by
  rcases responded_of_visit h with ⟨handle, parameters, -, rfl, -⟩ | hother
  · exact ⟨handle, parameters, _, rfl, rfl, h⟩
  · simp only [List.mem_cons, List.not_mem_nil, or_false] at hstatus hother
    omega

theorem handler_of_settled {claims : Option Claims} {id : String}
    (hstatus : ((settled id (service.visit arrival destination claims source counting).answer).getD
      (.empty 408)).status ∈ [401, 403]) :
    ∃ handle parameters visit response, destination = .endpoint (.handler handle) parameters ∧
      visit.claims = claims ∧
      ((handle visit).run service.timeout source).1 = .responded response ∧
      response.status = ((settled id (service.visit arrival destination claims source
        counting).answer).getD (.empty 408)).status := by
  cases hsettled : settled id
      (service.visit arrival destination claims source counting).answer with
  | none => simp [hsettled, Response.empty] at hstatus
  | some response =>
      rw [hsettled, Option.getD_some] at hstatus
      rcases status_settled hsettled with hresponded | hother
      · obtain ⟨handle, parameters, visit, hdestination, hclaims, hrun⟩ :=
          handler_of_visit hresponded hstatus
        exact ⟨handle, parameters, visit, response, hdestination, hclaims, hrun, rfl⟩
      · simp only [List.mem_cons, List.not_mem_nil, or_false] at hstatus hother
        omega

theorem status_respond_of_denied {rejection : Rejection}
    (hchecked : service.exposureOf request = .checked) (henters : service.Enters request source)
    (hdenied : (service.pipeline.authorize request.method request.headers).1 =
      .error rejection) :
    (service.respond counting clock generatedId request).answer.status = rejection.status := by
  have hlength : service.refusal? (arrivalAt clock generatedId request) counting .length = none :=
    refusalOf_eq_none.mpr ⟨source, henters.2⟩
  have horder : Stage.inOrder = [.length] ++ .access :: [.rate] := rfl
  exact status_respond_of_refused hchecked henters.1 horder (by simpa using hlength)
    (refusalOf_eq_some.mpr hdenied)

theorem screened_of_bearer (haccess : service.pipeline.access = .bearer validate policy)
    (hchecked : service.exposureOf request = .checked) :
    service.Screened validate policy counting clock generatedId request where
  unheard hnone destination := by
    obtain ⟨rejection, hdenied⟩ : ∃ rejection,
        (service.pipeline.authorize request.method request.headers).1 = .error rejection := by
      by_cases hvouched : ∃ claims, Vouched validate request.headers claims
      · obtain ⟨claims, hvouched⟩ := hvouched
        exact ⟨_, Pipeline.authorize_of_not_granted haccess hvouched
          fun hgrants => hnone ⟨claims, hvouched, hgrants⟩⟩
      · exact ⟨_, Pipeline.authorize_of_not_vouched haccess hvouched _⟩
    have hrefused : service.refusal? (arrivalAt clock generatedId request) counting .access =
        some rejection := refusalOf_eq_some.mpr hdenied
    rw [respond_eq_respondAt]
    simp only [respondAt, hchecked,
      timed_of_denied hrefused destination (service.destinationOf request)]
  handed {claims source} henters hvouched hgrants hrate destination := by
    have hclaims := Pipeline.authorize_of_granted haccess hvouched hgrants
    simp only [respondAt, hchecked,
      answer_timed_of_passed (arrivalAt clock generatedId request) henters.1 henters.2 hclaims
        hrate]
  unauthorized {source} henters hnone :=
    status_respond_of_denied hchecked henters (Pipeline.authorize_of_not_vouched haccess hnone _)
  forbidden {claims source} henters hvouched hdenied :=
    status_respond_of_denied hchecked henters
      (Pipeline.authorize_of_not_granted haccess hvouched hdenied)
  own {claims source} henters hvouched hgrants hstatus := by
    have hclaims := Pipeline.authorize_of_granted haccess hvouched hgrants
    have hpassed : ∀ passed ∈ [Stage.length, .access],
        service.refusal? (arrivalAt clock generatedId request) counting passed = none := by
      have hlength : service.refusal? (arrivalAt clock generatedId request) counting .length =
          none := refusalOf_eq_none.mpr ⟨source, henters.2⟩
      have haccess : service.refusal? (arrivalAt clock generatedId request) counting .access =
          none := refusalOf_eq_none.mpr ⟨some claims, hclaims⟩
      simp [hlength, haccess]
    cases hrate : service.refusal? (arrivalAt clock generatedId request) counting .rate with
    | some rejection =>
        have hmem := status_mem_statuses hrate
        rw [status_respond_of_refused hchecked henters.1 rfl hpassed hrate] at hstatus
        simp only [Stage.statuses, List.mem_cons, List.not_mem_nil, or_false] at hmem hstatus
        omega
    | none =>
        rw [respond_eq_respondAt, status_respondAt, hchecked,
          answer_timed_of_passed (arrivalAt clock generatedId request) henters.1 henters.2 hclaims
            hrate] at hstatus ⊢
        exact handler_of_settled hstatus

-- Where no handler does, nobody but access control answers like it.
theorem Screened.status_iff
    (h : service.Screened validate policy counting clock generatedId request)
    (henters : service.Enters request source)
    (hnever : service.NeverAnswers fun response =>
      response.status == 401 || response.status == 403) :
    let status := (service.respond counting clock generatedId request).answer.status
    (status = 401 ↔ ¬∃ claims, Vouched validate request.headers claims) ∧
    (status = 403 ↔ ∃ claims, Vouched validate request.headers claims ∧
      ¬policy.Grants request.method claims) := by
  intro status
  have hquiet {claims : Claims} (hvouched : Vouched validate request.headers claims)
      (hgrants : policy.Grants request.method claims) : status ∉ [401, 403] := by
    intro hstatus
    obtain ⟨handle, parameters, visit, response, hdestination, -, hrun, hsame⟩ :=
      h.own henters hvouched hgrants hstatus
    obtain ⟨route, hroute, hfound⟩ := destinationOf_eq_handler hdestination
    have hother := hnever route hroute _ handle hfound visit source response hrun
    rw [show status = response.status from hsame.symm] at hstatus
    simp only [Bool.or_eq_false_iff, beq_eq_false_iff_ne] at hother
    simp only [List.mem_cons, List.not_mem_nil, or_false] at hstatus
    omega
  refine ⟨⟨fun hstatus => ?_, fun hnone => h.unauthorized henters hnone⟩,
    ⟨fun hstatus => ?_, ?_⟩⟩
  · rintro ⟨claims, hvouched⟩
    by_cases hgrants : policy.Grants request.method claims
    · exact hquiet hvouched hgrants (by simp [hstatus])
    · have hforbidden : status = 403 := h.forbidden henters hvouched hgrants
      omega
  · by_contra hnone
    by_cases hvouched : ∃ claims, Vouched validate request.headers claims
    · obtain ⟨claims, hvouched⟩ := hvouched
      have hgrants : policy.Grants request.method claims := by
        by_contra hdenied
        exact hnone ⟨claims, hvouched, hdenied⟩
      exact hquiet hvouched hgrants (by simp [hstatus])
    · have hunauthorized : status = 401 := h.unauthorized henters hvouched
      omega
  · rintro ⟨claims, hvouched, hdenied⟩
    exact h.forbidden henters hvouched hdenied

-- No handler of a checked route is heard without credentials, whatever the validator takes
-- for a token and whatever state the counters are in. Where handlers leave 401 and 403 to
-- access control, these tell exactly whose token is not accepted and whose does not reach
-- far enough.
theorem credentials_before_handler {s : Settings} {validator : Option TokenValidator}
    {service : Service σ} (hbuilt : Pipeline.assemble s validator = .ok service.pipeline)
    (hrequired : s.access.requireToken = true) :
    ∃ validate, validator = some validate ∧
    ∀ counting clock generatedId request, service.exposureOf request = .checked →
      service.Screened validate (.ofSettings s.access) counting clock generatedId request ∧
      ∀ source, service.Enters request source →
        (service.NeverAnswers fun response => response.status == 401 || response.status == 403) →
        let status := (service.respond counting clock generatedId request).answer.status
        (status = 401 ↔ ¬∃ claims, Vouched validate request.headers claims) ∧
        (status = 403 ↔ ∃ claims, Vouched validate request.headers claims ∧
          ¬(ScopePolicy.ofSettings s.access).Grants request.method claims) := by
  obtain ⟨validate, hvalidator, haccess⟩ := Pipeline.access_of_assemble hbuilt hrequired
  refine ⟨validate, hvalidator, fun counting clock generatedId request hchecked => ?_⟩
  have hscreened : service.Screened validate (.ofSettings s.access) counting clock generatedId
      request := screened_of_bearer haccess hchecked
  exact ⟨hscreened, fun source henters hnever => hscreened.status_iff henters hnever⟩

-- A reader of the archive may read and not write, and a stranger may do neither.
theorem credentials_before_handler_of_reader :
    let settings : Settings := { access := { requireToken := true } }
    let claims : Claims := [("scope", .string "archive:read")]
    let validate := tokenTable [("reader", claims)]
    let service : Service Unit :=
      { archive with pipeline :=
        ⟨.none, ⟨1048576, "/api/"⟩, .bearer validate (.ofSettings settings.access)⟩ }
    let bearer : Field := ⟨"authorization", "bEARER  reader".toList.map (·.toNat.toUInt8)⟩
    let asked (method : Method) (headers : Headers) : Request :=
      ⟨method, ⟨"/api/items"⟩, headers, [], none⟩
    let status (request : Request) :=
      (service.respond uncounted ⟨0, 0⟩ "a" request).answer.status
    Vouched validate [bearer] claims ∧ status (asked .get [bearer]) = 200 ∧
    status (asked .post [bearer]) = 403 ∧ status (asked .get []) = 401 := by
  intro settings claims validate service bearer asked status
  have hbuilt : Pipeline.assemble settings (some validate) = .ok service.pipeline := rfl
  obtain ⟨_, hsame, hscreened⟩ := credentials_before_handler hbuilt rfl
  cases hsame
  have hnever : service.NeverAnswers fun response =>
      response.status == 401 || response.status == 403 :=
    neverAnswers_of_plain fun response h => by
      simp [h.status_ne (show 401 ∉ [200, 201, 202, 400] by decide),
        h.status_ne (show 403 ∉ [200, 201, 202, 400] by decide)]
  have hvouched : Vouched validate [bearer] claims :=
    ⟨"reader", bearerToken?_eq_some_iff.mp (by decide), rfl⟩
  have hstranger : ¬∃ claims, Vouched validate [] claims := by
    rintro ⟨claims, token, hpresents, -⟩
    cases bearerToken?_eq_some_iff.mpr hpresents
  have hread : (ScopePolicy.ofSettings settings.access).Grants .get claims :=
    ScopePolicy.allows_iff.mp (by decide)
  have hwrite : ¬(ScopePolicy.ofSettings settings.access).Grants .post claims :=
    mt ScopePolicy.allows_iff.mpr (by decide)
  obtain ⟨hreading, -⟩ := hscreened uncounted ⟨0, 0⟩ "a" (asked .get [bearer]) (by decide)
  obtain ⟨-, hwriting⟩ := hscreened uncounted ⟨0, 0⟩ "a" (asked .post [bearer]) (by decide)
  obtain ⟨-, hstray⟩ := hscreened uncounted ⟨0, 0⟩ "a" (asked .get []) (by decide)
  obtain ⟨source, hguard⟩ : ∃ source,
      (service.pipeline.guardBody (asked .post [bearer])).1 = .ok source :=
    refusalOf_eq_none.mp (by decide)
  refine ⟨hvouched, ?_, ?_, ?_⟩
  · have hanswer := hreading.handed ⟨by decide, rfl⟩ hvouched hread (by decide)
      (service.destinationOf (asked .get [bearer]))
    rw [← respond_eq_respondAt] at hanswer
    exact (congrArg Response.status hanswer).trans (by decide)
  · exact (hwriting source ⟨by decide, hguard⟩ hnever).2.mpr ⟨claims, hvouched, hwrite⟩
  · exact (hstray (.unguarded []) ⟨by decide, rfl⟩ hnever).1.mpr hstranger

end Service

end AdmissionControl.Server
