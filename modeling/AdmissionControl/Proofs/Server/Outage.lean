import AdmissionControl.Proofs.Identity.Accepted
import AdmissionControl.Proofs.Server.Leaving
import AdmissionControl.Proofs.Server.Ruling
import AdmissionControl.Proofs.Server.Unprotected
import AdmissionControl.Server.Sample

namespace AdmissionControl

open BodyGuard Http Identity RateLimit

namespace Server

variable {σ : Type}

-- All that may be different while a request is limited: what the limiter remembers, the
-- store with its counters, and the time.
structure Standing (σ : Type) where
  handle : Option String
  breaker : Breaker
  store : σ
  clock : Clock

namespace Standing

def limiter (settings : SharedSettings) (standing : Standing σ) : SharedLimiter :=
  ⟨settings, standing.handle, standing.breaker⟩

def counting (settings : SharedSettings) (standing : Standing σ) : Counting σ :=
  ⟨.shared (standing.limiter settings), standing.store⟩

end Standing

namespace Service

variable {service : Service σ} {request : Request} {settings : SharedSettings}
variable {destination : Destination} {source : Source} {counting others : Counting σ}
variable {clock otherClock : Clock} {id : RequestId}

-- What the limiter has to say to a request.
def allows (service : Service σ) (settings : SharedSettings) (request : Request)
    (standing : Standing σ) : Bool :=
  ((standing.limiter settings).allow service.store standing.store standing.clock
    (service.clientOf request)).1

-- Of all that the limiter goes by only its answer is passed on.
theorem checkRate_eq (service : Service σ) (settings : SharedSettings) (request : Request)
    (standing : Standing σ) :
    (service.pipeline.checkRate service.store (standing.counting settings) standing.clock
      request.peer request.headers).1 =
      if service.allows settings request standing then .ok ()
      else .error (.rateLimited settings.limit .sharedStore) := by
  cases henabled : (standing.counting settings).limiter.isEnabled with
  | false =>
      have hallowed : service.allows settings request standing = true :=
        SharedLimiter.allow_of_disabled henabled
      rw [Pipeline.checkRate_of_disabled henabled, if_pos hallowed]
  | true =>
      rw [Pipeline.checkRate_of_enabled henabled]
      rfl

theorem visit_congr (hready : ∀ parameters, destination ≠ .endpoint .ready parameters)
    (claims : Option Access.Claims) :
    (service.visit ⟨request, clock, id⟩ destination claims source counting).answer =
      (service.visit ⟨request, otherClock, id⟩ destination claims source others).answer := by
  cases destination with
  | nowhere => rfl
  | methodMissing => rfl
  | endpoint endpoint parameters =>
      cases endpoint with
      | live => rfl
      | ready => exact absurd rfl (hready parameters)
      | handler handle => rfl

theorem checked_congr (hready : ∀ parameters, destination ≠ .endpoint .ready parameters)
    (hrate : service.refusal? ⟨request, clock, id⟩ counting .rate =
      service.refusal? ⟨request, otherClock, id⟩ others .rate) :
    (service.checked ⟨request, clock, id⟩ destination source counting).answer =
      (service.checked ⟨request, otherClock, id⟩ destination source others).answer := by
  have haccess : service.refusal? ⟨request, clock, id⟩ counting .access =
      service.refusal? ⟨request, otherClock, id⟩ others .access := rfl
  rcases hdenied : service.refusal? ⟨request, clock, id⟩ counting .access with _ | denial
  · obtain ⟨claims, hclaims⟩ := refusalOf_eq_none.mp hdenied
    rcases hlimited : service.refusal? ⟨request, clock, id⟩ counting .rate with _ | rejection
    · have hallowed : service.refusal? ⟨request, otherClock, id⟩ others .rate = none :=
        hrate ▸ hlimited
      rw [checked_of_passed hclaims hlimited, checked_of_passed (by exact hclaims) hallowed]
      exact visit_congr hready claims
    · rw [checked_of_limited hdenied hlimited,
        checked_of_limited (haccess ▸ hdenied) (hrate ▸ hlimited)]
  · rw [checked_of_denied hdenied, checked_of_denied (haccess ▸ hdenied)]

theorem answer_guarded_of_ok {arrival : Arrival} {journal : Journal} (exposure : Exposure)
    (destination : Destination) (counting : Counting σ)
    (hguard : service.pipeline.guardBody arrival.request = (.ok source, journal)) :
    (service.guarded arrival exposure destination counting).answer =
      settled arrival.id.text
        (service.dispatch arrival exposure destination source counting).answer := by
  simp only [guarded, hguard, settled]
  split <;> simp_all

theorem guarded_congr (hready : ∀ parameters, destination ≠ .endpoint .ready parameters)
    (hrate : service.refusal? ⟨request, clock, id⟩ counting .rate =
      service.refusal? ⟨request, otherClock, id⟩ others .rate) :
    (service.guarded ⟨request, clock, id⟩ .checked destination counting).answer =
      (service.guarded ⟨request, otherClock, id⟩ .checked destination others).answer := by
  rcases hguard : service.pipeline.guardBody request with ⟨rejection | source, journal⟩
  · rw [guarded_of_error hguard, guarded_of_error hguard]
  · rw [answer_guarded_of_ok .checked destination counting hguard,
      answer_guarded_of_ok .checked destination others hguard]
    exact congrArg (settled id.text) (checked_congr hready hrate)

-- The limiter cannot ask its store: it takes it to be down, or finds it so.
def InOutage (service : Service σ) (settings : SharedSettings) (request : Request)
    (standing : Standing σ) : Prop :=
  standing.breaker.isDegraded standing.clock.monotonic = true ∨
    (standing.limiter settings).endsInError service.store standing.store standing.clock
      (service.clientOf request) = true

-- The store has counted the request as the last of so many.
def Counts (service : Service σ) (settings : SharedSettings) (request : Request)
    (standing : Standing σ) (count : Int) : Prop :=
  (standing.limiter settings).EndsInCount service.store standing.store standing.clock
    (service.clientOf request) count

theorem allows_of_inOutage {standing : Standing σ} (hlimit : 0 < settings.limit)
    (h : service.InOutage settings request standing) :
    service.allows settings request standing = settings.failOpen := by
  rcases h with hdegraded | herror
  · exact SharedLimiter.allow_of_degraded (decide_eq_true hlimit) hdegraded
  · exact SharedLimiter.allow_of_endsInError herror

theorem respond_congr (hchecked : service.exposureOf request = .checked)
    (hready : ∀ parameters, service.destinationOf request ≠ .endpoint .ready parameters)
    (hcaller : ∃ text, RequestId.Accepts request.headers text) (one other : Standing σ)
    (generatedId otherId : String)
    (hallows : service.allows settings request one = service.allows settings request other) :
    (service.respond (one.counting settings) one.clock generatedId request).answer =
      (service.respond (other.counting settings) other.clock otherId request).answer := by
  obtain ⟨text, haccepts⟩ := hcaller
  have hid : RequestId.ofHeaders request.headers generatedId =
      RequestId.ofHeaders request.headers otherId := by
    simp only [RequestId.ofHeaders, RequestId.ofCaller?_eq_some_iff.mpr haccepts]
  have hrate : service.refusal? (arrivalAt one.clock generatedId request) (one.counting settings)
      .rate = service.refusal? (arrivalAt other.clock generatedId request)
      (other.counting settings) .rate := by
    simp only [refusal?, arrivalAt, checkRate_eq, hallows]
  have hguarded := guarded_congr hready hrate
  simp only [respond_eq, arrivalAt, ← hid, timed, hchecked]
  split
  · rfl
  · rw [hguarded]

-- Whether the store is well is nothing that a client can see. Two requests for a checked
-- route that are alike, and on which the limiter decides alike, are answered alike to the
-- last byte, whatever the limiter remembers, its store holds, and the clocks say. So a
-- refusal for want of a store is that of an exceeded budget, and a request that is let pass
-- for want of one is answered like one within its budget. How the store is can be asked, but
-- the endpoint that tells it is on no checked route.
theorem outage_unobservable (service : Service σ) (settings : SharedSettings) (request : Request)
    (hchecked : service.exposureOf request = .checked)
    (hready : ∀ parameters, service.destinationOf request ≠ .endpoint .ready parameters)
    (hcaller : ∃ text, RequestId.Accepts request.headers text) (one other : Standing σ)
    (generatedId otherId : String) :
    let answer (standing : Standing σ) (generatedId : String) : Response :=
      (service.respond (standing.counting settings) standing.clock generatedId request).answer
    (service.allows settings request one = service.allows settings request other →
      answer one generatedId = answer other otherId) ∧
    ∀ count, service.InOutage settings request one → service.Counts settings request other count →
      (settings.failOpen = false → settings.limit < count →
        answer one generatedId = answer other otherId) ∧
      (settings.failOpen = true → count ≤ settings.limit →
        answer one generatedId = answer other otherId) := by
  intro answer
  have hsame (hallows : service.allows settings request one =
      service.allows settings request other) : answer one generatedId = answer other otherId :=
    respond_congr hchecked hready hcaller one other generatedId otherId hallows
  refine ⟨hsame, fun count houtage hcounts => ?_⟩
  have hlimit : 0 < settings.limit :=
    of_decide_eq_true (SharedLimiter.isEnabled_of_endsInCount hcounts)
  have hfailed := allows_of_inOutage hlimit houtage
  have hcounted : service.allows settings request other = decide (count ≤ settings.limit) :=
    SharedLimiter.allow_of_endsInCount hcounts
  refine ⟨fun hclosed hover => hsame ?_, fun hopen hwithin => hsame ?_⟩
  · rw [hfailed, hcounted, hclosed, decide_eq_false (Int.not_le.mpr hover)]
  · rw [hfailed, hcounted, hopen, decide_eq_true hwithin]

-- The store has counted two requests. Where one is allowed, a limiter that takes the store to
-- be down refuses just as one that asks it, and where two are, it lets the request pass just
-- as that one does.
theorem outage_unobservable_of_budget :
    let closed : SharedSettings := ⟨1, "rl", 120, .ofSeconds 5, false⟩
    let opened : SharedSettings := ⟨2, "rl", 120, .ofSeconds 5, true⟩
    let crowded : CounterStore Unit :=
      ⟨fun _ s => (.ok "h", s), fun _ _ _ s => (.ok 2, s), fun s => (.ok (), s)⟩
    let service : Service Unit :=
      ⟨⟨.none, ⟨4, "/api"⟩, .disabled⟩, crowded, .ofSeconds 30,
        [checkedRoute "/api/items" (getOnly Sample.items)]⟩
    let request : Request := ⟨.get, ⟨"/api/items"⟩, [⟨"x-request-id", [97]⟩], [], none⟩
    let down : Standing Unit := ⟨none, ⟨7⟩, (), ⟨0, 0⟩⟩
    let well : Standing Unit := ⟨some "h", .closed, (), ⟨0, 0⟩⟩
    let answer (settings : SharedSettings) (standing : Standing Unit) (id : String) : Response :=
      (service.respond (standing.counting settings) standing.clock id request).answer
    service.exposureOf request = .checked ∧
    (service.InOutage closed request down ∧ service.Counts closed request well 2 ∧
      answer closed down "b" = answer closed well "c" ∧ (answer closed down "b").status = 429) ∧
    service.InOutage opened request down ∧ service.Counts opened request well 2 ∧
    answer opened down "b" = answer opened well "c" ∧ (answer opened down "b").status = 200 := by
  intro closed opened crowded service request down well answer
  have hcaller : RequestId.Accepts request.headers "a" :=
    RequestId.ofCaller?_eq_some_iff.mp (by decide)
  have houtage (settings : SharedSettings) : service.InOutage settings request down :=
    Or.inl (by decide)
  have hover : service.Counts closed request well 2 :=
    SharedLimiter.endsInCount_of_evaluate rfl rfl rfl
  have hwithin : service.Counts opened request well 2 :=
    SharedLimiter.endsInCount_of_evaluate rfl rfl rfl
  have hmatch : Pattern.match? (.ofPath "/api/items") request.target.path = some [] := by decide
  have hchecked : service.exposureOf request = .checked := by
    simp [service, exposureOf, Routes.find?, checkedRoute, hmatch]
  have hready : ∀ parameters, service.destinationOf request ≠ .endpoint .ready parameters := by
    simp [service, destinationOf, Routes.find?, checkedRoute, getOnly, hmatch, Route.destination,
      MethodTable.find?, MethodTable.serves, request, Sample.items, Sample.respondWith]
  obtain ⟨-, hclosed⟩ := outage_unobservable service closed request hchecked hready
    ⟨"a", hcaller⟩ down well "b" "c"
  obtain ⟨-, hopened⟩ := outage_unobservable service opened request hchecked hready
    ⟨"a", hcaller⟩ down well "b" "c"
  exact ⟨hchecked,
    ⟨houtage closed, hover, (hclosed 2 (houtage closed) hover).1 rfl (by decide),
      by decide +kernel⟩,
    houtage opened, hwithin, (hopened 2 (houtage opened) hwithin).2 rfl (by decide),
    by decide +kernel⟩

end Service

end Server

end AdmissionControl
