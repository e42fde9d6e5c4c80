import AdmissionControl.Proofs.Server.Stages
import AdmissionControl.Proofs.Shared.Exchanges

namespace AdmissionControl.Server

open BodyGuard Http RateLimit

variable {σ ι : Type}

-- What happens to a service: a request arrives, under a label of its own, or the store
-- changes without the service.
inductive Happening (ι σ : Type) where
  | asked (label : ι) (clock : Clock) (generatedId : String) (request : Request)
  | changed (change : σ → σ)

def Happening.without (extra : ι → Bool) : Happening ι σ → Bool
  | .asked label .. => !extra label
  | .changed _ => true

theorem Stage.statuses_subset {stage : Stage} (hstage : stage ≠ .rate) :
    stage.statuses ⊆ [400, 413, 401, 403] := by
  cases stage with
  | length => simp [statuses]
  | access => simp [statuses]
  | rate => exact absurd rfl hstage

namespace Service

-- The declared length or access control keeps the request from its checked route.
def TurnsAway (service : Service σ) (request : Request) : Prop :=
  ∃ route parameters, service.routes.find? request.target.path = some (route, parameters) ∧
    route.exposure = .checked ∧
    ∃ rejection, (service.pipeline.guardBody request).1 = .error rejection ∨
      (service.pipeline.authorize request.method request.headers).1 = .error rejection

-- The same service, which also keeps a record of what it asks the store.
def recorded (service : Service σ) : Service (σ × List Exchange) :=
  ⟨service.pipeline, service.store.recorded, service.timeout, service.routes⟩

-- The answers in order, and the counters in the end.
def run (service : Service σ) :
    Counting σ → List (Happening ι σ) → List (ι × Response) × Counting σ
  | counting, [] => ([], counting)
  | counting, .asked label clock generatedId request :: rest =>
    let outcome := service.respond counting clock generatedId request
    let (answers, last) := service.run outcome.counting rest
    ((label, outcome.answer) :: answers, last)
  | counting, .changed change :: rest =>
    service.run { counting with store := change counting.store } rest

variable {service : Service σ} {arrival : Arrival} {counting : Counting σ} {request : Request}

theorem exists_first_refusal (arrival : Arrival) (counting : Counting σ)
    (h : service.TurnsAway arrival.request) :
    ∃ earlier stage later rejection, Stage.inOrder = earlier ++ stage :: later ∧
      Stage.rate ∉ earlier ++ [stage] ∧
      (∀ passed ∈ earlier, service.refusal? arrival counting passed = none) ∧
      service.refusal? arrival counting stage = some rejection := by
  obtain ⟨route, parameters, -, -, rejection, hrefused⟩ := h
  cases hlength : service.refusal? arrival counting .length with
  | some refusal => exact ⟨[], .length, _, refusal, rfl, by simp, by simp, hlength⟩
  | none =>
      cases hrefused with
      | inl hguard => simp [refusal?, hguard, refusalOf] at hlength
      | inr haccess =>
          exact ⟨[.length], .access, _, rejection, rfl, by simp, by simpa using hlength,
            refusalOf_eq_some.mpr haccess⟩

theorem countingAfter_of_ne_rate {stage : Stage} (hstage : stage ≠ .rate) :
    service.countingAfter arrival counting stage = counting := by
  cases stage with
  | length => rfl
  | access => rfl
  | rate => exact absurd rfl hstage

theorem total_entries {stage : Stage} (hstage : stage ≠ .rate) (backend : Backend)
    (allowed : Bool) :
    (service.entries arrival counting stage).total (.decision backend allowed) = 0 := by
  cases stage with
  | length =>
      simp only [entries, Pipeline.guardBody]
      split <;> simp [Journal.total, Journal.counters]
  | access =>
      simp only [entries, Pipeline.authorize, Access.Control.check]
      split
      · rfl
      · split
        · rfl
        · split <;> rfl
  | rate => exact absurd rfl hstage

theorem total_flatMap_entries {stages : List Stage} (hstages : Stage.rate ∉ stages)
    (backend : Backend) (allowed : Bool) :
    Journal.total (.decision backend allowed)
      (stages.flatMap (service.entries arrival counting)) = 0 := by
  induction stages with
  | nil => rfl
  | cons stage rest ih =>
      have hstage : Journal.total (.decision backend allowed)
          (service.entries arrival counting stage) = 0 :=
        total_entries (fun h => hstages (h ▸ List.mem_cons_self)) backend allowed
      have hrest := ih fun h => hstages (List.mem_cons_of_mem stage h)
      simp only [Journal.total, Journal.counters] at hstage hrest ⊢
      rw [List.flatMap_cons, List.filterMap_append, List.count_append, hstage, hrest]

theorem respond_of_turnsAway (h : service.TurnsAway request) (counting : Counting σ) (clock : Clock)
    (generatedId : String) :
    let outcome := service.respond counting clock generatedId request
    outcome.counting = counting ∧
    (∀ backend allowed, outcome.journal.total (.decision backend allowed) = 0) ∧
    (service.timeout.nanos ≠ 0 → outcome.answer.status ∈ [400, 413, 401, 403]) := by
  intro outcome
  obtain ⟨earlier, stage, later, rejection, horder, hrate, hpassed, hrefused⟩ :=
    exists_first_refusal (arrivalAt clock generatedId request) counting h
  obtain ⟨route, parameters, hroute, hexposure, -⟩ := h
  by_cases htime : service.timeout.nanos = 0
  · have hrespond : outcome.counting = counting ∧ outcome.journal = [] := by
      simp only [outcome, respond, hroute, identified, timed, if_pos htime, and_self]
    refine ⟨hrespond.1, fun backend allowed => ?_, fun hne => absurd htime hne⟩
    rw [hrespond.2]
    rfl
  · let arrival := arrivalAt clock generatedId request
    have hrespond := respond_of_route counting clock generatedId hroute htime
    rw [hexposure, guarded_of_first_refusal horder hpassed hrefused] at hrespond
    have hstage : stage ≠ .rate := by
      rintro rfl
      simp at hrate
    have hjournal : outcome.journal =
        (earlier ++ [stage]).flatMap (service.entries arrival counting) :=
      congrArg Outcome.journal hrespond
    have hstatus : outcome.answer.status = rejection.status := by
      rw [show outcome.answer = _ from congrArg Outcome.answer hrespond]
      exact (status_sealed _ _ _).trans (status_response _ _)
    refine ⟨(congrArg Outcome.counting hrespond).trans (countingAfter_of_ne_rate hstage),
      fun backend allowed => ?_, fun _ => ?_⟩
    · rw [hjournal]
      exact total_flatMap_entries hrate backend allowed
    · rw [hstatus]
      exact Stage.statuses_subset hstage (status_mem_statuses hrefused)

theorem run_of_turnsAway (extra : ι → Bool) (happenings : List (Happening ι σ))
    (hextra : ∀ label clock generatedId request,
      .asked label clock generatedId request ∈ happenings → extra label = true →
      service.TurnsAway request) (counting : Counting σ) :
    service.run counting (happenings.filter (Happening.without extra)) =
      ((service.run counting happenings).1.filter fun answered => !extra answered.1,
        (service.run counting happenings).2) := by
  induction happenings generalizing counting with
  | nil => rfl
  | cons happening rest ih =>
      have hrest := ih fun label clock generatedId request hmem =>
        hextra label clock generatedId request (List.mem_cons_of_mem _ hmem)
      cases happening with
      | changed change => exact hrest _
      | asked label clock generatedId request =>
          cases hlabel : extra label with
          | false => simp [Happening.without, hlabel, run, hrest]
          | true =>
              obtain ⟨hcounting, -⟩ := respond_of_turnsAway
                (hextra label clock generatedId request List.mem_cons_self hlabel) counting clock
                generatedId
              simp [Happening.without, hlabel, run, hrest, hcounting]

-- A request that is kept from its route before it is counted leaves everything that
-- counting goes by as it was: the windows in memory, the handle, the breaker and the
-- store, which is not even asked. So with any number of such requests in between, all
-- other requests of a run are answered as without them.
theorem turnsAway_keeps_counting (service : Service σ) :
    (∀ request, service.TurnsAway request → ∀ counting clock generatedId made,
      let outcome := service.respond counting clock generatedId request
      let recorded := service.recorded.respond ⟨counting.limiter, (counting.store, made)⟩ clock
        generatedId request
      outcome.counting = counting ∧ recorded.counting.store.2 = made ∧
      (∀ backend allowed, outcome.journal.total (.decision backend allowed) = 0) ∧
      (service.timeout.nanos ≠ 0 → outcome.answer.status ∈ [400, 413, 401, 403])) ∧
    ∀ (ι : Type) (extra : ι → Bool) (happenings : List (Happening ι σ)) (counting : Counting σ),
      (∀ label clock generatedId request,
        .asked label clock generatedId request ∈ happenings → extra label = true →
        service.TurnsAway request) →
      let whole := service.run counting happenings
      let others := service.run counting (happenings.filter (Happening.without extra))
      others.1 = (whole.1.filter fun answered => !extra answered.1) ∧ others.2 = whole.2 := by
  refine ⟨fun request h counting clock generatedId made => ?_,
    fun ι extra happenings counting hextra => ?_⟩
  · obtain ⟨hcounting, hnone, hstatus⟩ := respond_of_turnsAway h counting clock generatedId
    have hrecorded : service.recorded.TurnsAway request := h
    obtain ⟨hrecording, -⟩ := respond_of_turnsAway hrecorded
      ⟨counting.limiter, (counting.store, made)⟩ clock generatedId
    exact ⟨hcounting, by rw [hrecording], hnone, hstatus⟩
  · exact Prod.ext_iff.mp (run_of_turnsAway extra happenings hextra counting)

-- Ten bytes where four are allowed, between two requests that one minute has to serve.
theorem turnsAway_keeps_counting_of_oversized :
    let service : Service Unit :=
      ⟨⟨.none, ⟨4, "/api"⟩, .disabled⟩, .silent .zero, .ofSeconds 30,
        [⟨[.literal "api"], .checked, .any .live⟩]⟩
    let read : Request := ⟨.get, ⟨"/api"⟩, [], [], none⟩
    let oversized : Request := ⟨.post, ⟨"/api"⟩, [⟨"content-length", [49, 48]⟩], [], none⟩
    let asked (label : Nat) (request : Request) : Happening Nat Unit :=
      .asked label ⟨0, 0⟩ "a" request
    let counting : Counting Unit := ⟨.inMemory (.withLimit 1), ()⟩
    service.TurnsAway oversized ∧
    (service.respond counting ⟨0, 0⟩ "a" oversized).answer.status ∈ [400, 413, 401, 403] ∧
    (service.run counting [asked 0 read, asked 2 read]).1 =
      (service.run counting [asked 0 read, asked 1 oversized, asked 2 read]).1.filter
        fun answered => answered.1 != 1 := by
  intro service read oversized asked counting
  have hmatch : Pattern.match? [.literal "api"] oversized.target.path = some [] := by decide
  have hguard : (service.pipeline.guardBody oversized).1 =
      .error (.payloadTooLarge 4 (some 10) none) := refusalOf_eq_some.mp (by decide)
  have hturned : service.TurnsAway oversized :=
    ⟨⟨[.literal "api"], .checked, .any .live⟩, [], by simp [service, Routes.find?, hmatch], rfl, _,
      Or.inl hguard⟩
  obtain ⟨hone, hmany⟩ := turnsAway_keeps_counting service
  obtain ⟨-, -, -, hstatus⟩ := hone oversized hturned counting ⟨0, 0⟩ "a" []
  have hruns := hmany Nat (fun label => label == 1)
    [asked 0 read, asked 1 oversized, asked 2 read] counting (by
      intro label clock generatedId request hmem hlabel
      simp only [asked, List.mem_cons, Happening.asked.injEq, List.not_mem_nil, or_false] at hmem
      rcases hmem with ⟨rfl, -⟩ | ⟨-, -, -, rfl⟩ | ⟨rfl, -⟩
      · cases hlabel
      · exact hturned
      · cases hlabel)
  exact ⟨hturned, hstatus (by decide), hruns.1⟩

end Service

end AdmissionControl.Server
