import AdmissionControl.Proofs.Server.Origin
import AdmissionControl.Proofs.Server.Ruling
import AdmissionControl.Proofs.Shared.Pings

namespace AdmissionControl

open BodyGuard Http Identity RateLimit

variable {σ τ α : Type} {view : σ → τ}

-- The same limiter, over stores that loads and evaluations cannot tell apart.
structure Counting.Alike (view : σ → τ) (one other : Counting σ) : Prop where
  limiter : one.limiter = other.limiter
  store : view one.store = view other.store

theorem Counting.Alike.trans {one other third : Counting σ} (h : one.Alike view other)
    (hother : other.Alike view third) : one.Alike view third :=
  ⟨h.limiter.trans hother.limiter, h.store.trans hother.store⟩

theorem Counting.Alike.symm {one other : Counting σ} (h : one.Alike view other) :
    other.Alike view one :=
  ⟨h.limiter.symm, h.store.symm⟩

theorem Counting.health_alike {store : CounterStore σ} (hunseen : PingsUnseen store view)
    (counting : Counting σ) : (counting.health store).2.Alike view counting :=
  ⟨rfl, counting.limiter.view_health hunseen counting.store⟩

theorem Pipeline.checkRate_congr {store : CounterStore σ} (hunseen : PingsUnseen store view)
    {one other : Counting σ} (halike : one.Alike view other) (pipeline : Pipeline) (clock : Clock)
    (peer : Option Net.Address) (headers : Headers) :
    let result := pipeline.checkRate store one clock peer headers
    let same := pipeline.checkRate store other clock peer headers
    result.1 = same.1 ∧ result.2.1.Alike view same.2.1 ∧ result.2.2 = same.2.2 := by
  obtain ⟨limiter, s⟩ := one
  obtain ⟨_, t⟩ := other
  obtain ⟨rfl, hview⟩ := halike
  cases henabled : limiter.isEnabled with
  | false =>
      rw [checkRate_of_disabled henabled, checkRate_of_disabled henabled]
      exact ⟨rfl, ⟨rfl, hview⟩, rfl⟩
  | true =>
      obtain ⟨hallowed, hlimiter, hstore, hjournal⟩ := Limiter.allow_congr hunseen hview limiter
        clock (pipeline.resolve peer headers).1
      rw [checkRate_of_enabled henabled, checkRate_of_enabled henabled]
      exact ⟨by simp only [hallowed], ⟨hlimiter, hstore⟩, by simp only [hallowed, hjournal]⟩

namespace Server

-- Two ends of a request that leave alike counters and count the same. If it is told, its
-- answer and what is written down are the same, too.
structure Outcome.Alike (view : σ → τ) (told : Prop) (one other : Outcome σ α) : Prop where
  counting : one.counting.Alike view other.counting
  counters : one.journal.counters = other.journal.counters
  answer (htold : told) : one.answer = other.answer
  journal (htold : told) : one.journal = other.journal

theorem Outcome.Alike.of_counting {one other : Counting σ} (halike : one.Alike view other)
    (told : Prop) (answer : α) (journal : Journal) :
    Outcome.Alike view told ⟨answer, one, journal⟩ ⟨answer, other, journal⟩ :=
  ⟨halike, rfl, fun _ => rfl, fun _ => rfl⟩

-- Of all endpoints one tells how the counters are.
def Destination.tells : Destination → Bool
  | .endpoint .ready _ => true
  | _ => false

namespace Service

-- A body that has overflowed takes the place of the answer.
def overflows (ending : Conclusion × Source) : Bool :=
  (caught ending.1).1.isSome && ending.2.rejection?.isSome

-- What becomes of a request behind a guard that lets it pass.
def concluded (id : String) (journal : Journal) (downstream : Outcome σ (Conclusion × Source)) :
    Outcome σ (Option Response) :=
  let (response, panicked) := caught downstream.answer.1
  let journal := journal ++ downstream.journal ++ panicked
  match response, downstream.answer.2.rejection? with
  | some response, some rejection =>
    ⟨some (rejection.response (some id)), downstream.counting, journal ++ [
      .event (.responseReplaced id response.status),
      .count (.bodyRejection .streamedOverflow)]⟩
  | response, _ => ⟨response, downstream.counting, journal⟩

section Concluded

variable {downstream same : Outcome σ (Conclusion × Source)} {told : Prop}

theorem answer_concluded (id : String) (journal : Journal) :
    (concluded id journal downstream).answer = settled id downstream.answer := by
  simp only [concluded, settled]
  cases (caught downstream.answer.1).1 <;> cases downstream.answer.2.rejection? <;> rfl

theorem counting_concluded (id : String) (journal : Journal) :
    (concluded id journal downstream).counting = downstream.counting := by
  simp only [concluded]
  split <;> rfl

theorem counters_concluded (id : String) (journal : Journal) :
    (concluded id journal downstream).journal.counters =
      journal.counters ++ downstream.journal.counters ++
        if overflows downstream.answer then [.bodyRejection .streamedOverflow] else [] := by
  obtain ⟨⟨conclusion, last⟩, after, written⟩ := downstream
  have hcaught : Journal.counters (caught conclusion).2 = [] := by cases conclusion <;> rfl
  unfold concluded overflows
  generalize caught conclusion = ending at hcaught ⊢
  obtain ⟨response, panicked⟩ := ending
  replace hcaught : Journal.counters panicked = [] := hcaught
  cases response with
  | none => simp [Journal.counters_append, hcaught]
  | some response =>
      cases last.rejection? with
      | none => simp [Journal.counters_append, hcaught]
      | some rejection =>
          simp only [Journal.counters_append, hcaught, List.append_nil]
          rfl

theorem concluded_alike (hdownstream : downstream.Alike view told same)
    (hoverflows : overflows downstream.answer = overflows same.answer) (id : String)
    (journal : Journal) :
    (concluded id journal downstream).Alike view told (concluded id journal same) where
  counting := by rw [counting_concluded, counting_concluded]; exact hdownstream.counting
  counters := by rw [counters_concluded, counters_concluded, hdownstream.counters, hoverflows]
  answer htold := by rw [answer_concluded, answer_concluded, hdownstream.answer htold]
  journal htold := by
    simp only [concluded, hdownstream.answer htold, hdownstream.journal htold]
    split <;> rfl

end Concluded

theorem guarded_eq_concluded {service : Service σ} {arrival : Arrival} {exposure : Exposure}
    {destination : Destination} {source : Source} {journal : Journal} {counting : Counting σ}
    (hguard : service.pipeline.guardBody arrival.request = (.ok source, journal)) :
    service.guarded arrival exposure destination counting =
      concluded arrival.id.text journal
        (service.dispatch arrival exposure destination source counting) := by
  simp only [guarded, hguard]
  rfl

variable {service : Service σ} {one other : Counting σ}
variable (hunseen : PingsUnseen service.store view) (halike : one.Alike view other)
variable (arrival : Arrival) (exposure : Exposure) (destination : Destination)

include hunseen halike

theorem visit_alike (claims : Option Access.Claims) (source : Source) :
    let visited := service.visit arrival destination claims source one
    let same := service.visit arrival destination claims source other
    visited.Alike view (destination.tells = false) same ∧
      overflows visited.answer = overflows same.answer := by
  cases destination with
  | nowhere => exact ⟨.of_counting halike _ _ _, rfl⟩
  | methodMissing => exact ⟨.of_counting halike _ _ _, rfl⟩
  | endpoint endpoint parameters =>
      cases endpoint with
      | live => exact ⟨.of_counting halike _ _ _, rfl⟩
      | handler handle => exact ⟨.of_counting halike _ _ _, rfl⟩
      | ready =>
          have hafter : (one.health service.store).2.Alike view (other.health service.store).2 :=
            ((one.health_alike hunseen).trans halike).trans (other.health_alike hunseen).symm
          exact ⟨⟨hafter, counters_visit.trans counters_visit.symm, nofun, nofun⟩, rfl⟩

theorem checked_alike (source : Source) :
    let checked := service.checked arrival destination source one
    let same := service.checked arrival destination source other
    checked.Alike view (destination.tells = false) same ∧
      overflows checked.answer = overflows same.answer := by
  obtain ⟨hresult, hcounting, hjournal⟩ := Pipeline.checkRate_congr hunseen halike service.pipeline
    arrival.clock arrival.request.peer arrival.request.headers
  simp only [checked]
  generalize service.pipeline.checkRate service.store one arrival.clock arrival.request.peer
    arrival.request.headers = rate at hresult hcounting hjournal
  generalize service.pipeline.checkRate service.store other arrival.clock arrival.request.peer
    arrival.request.headers = same at hresult hcounting hjournal
  obtain ⟨result, after, later⟩ := rate
  obtain ⟨_, last, _⟩ := same
  obtain rfl := hresult
  obtain rfl := hjournal
  rcases service.pipeline.authorize arrival.request.method arrival.request.headers with
    ⟨rejection | claims, journal⟩
  · exact ⟨.of_counting halike _ _ _, rfl⟩
  · cases result with
    | error rejection => exact ⟨.of_counting hcounting _ _ _, rfl⟩
    | ok =>
        obtain ⟨hvisit, hoverflows⟩ :=
          visit_alike hunseen hcounting arrival destination claims source
        exact ⟨⟨hvisit.counting, by simp only [Journal.counters_append, hvisit.counters],
          hvisit.answer, fun htold => congrArg (journal ++ later ++ ·) (hvisit.journal htold)⟩,
          hoverflows⟩

theorem dispatch_alike (source : Source) :
    let dispatched := service.dispatch arrival exposure destination source one
    let same := service.dispatch arrival exposure destination source other
    dispatched.Alike view (destination.tells = false) same ∧
      overflows dispatched.answer = overflows same.answer := by
  cases exposure with
  | anyone => exact visit_alike hunseen halike arrival destination none source
  | checked => exact checked_alike hunseen halike arrival destination source

theorem guarded_alike :
    (service.guarded arrival exposure destination one).Alike view (destination.tells = false)
      (service.guarded arrival exposure destination other) := by
  rcases hguard : service.pipeline.guardBody arrival.request with ⟨rejection | source, journal⟩
  · rw [guarded_of_error hguard, guarded_of_error hguard]
    exact .of_counting halike _ _ _
  · obtain ⟨hdispatch, hoverflows⟩ :=
      dispatch_alike hunseen halike arrival exposure destination source
    rw [guarded_eq_concluded hguard, guarded_eq_concluded hguard]
    exact concluded_alike hdispatch hoverflows _ _

theorem timed_alike :
    (service.timed arrival exposure destination one).Alike view (destination.tells = false)
      (service.timed arrival exposure destination other) := by
  have hguarded := guarded_alike hunseen halike arrival exposure destination
  simp only [timed]
  split
  · exact .of_counting halike _ _ _
  · exact ⟨hguarded.counting, hguarded.counters,
      fun htold => by rw [hguarded.answer htold], hguarded.journal⟩

omit arrival exposure destination

-- From alike counters a request is answered alike and leaves alike counters.
theorem respond_alike (clock : Clock) (generatedId : String) (request : Request) :
    (service.respond one clock generatedId request).Alike view
      ((service.destinationOf request).tells = false)
      (service.respond other clock generatedId request) := by
  have htimed := timed_alike hunseen halike (arrivalAt clock generatedId request)
    (service.exposureOf request) (service.destinationOf request)
  simp only [respond_eq]
  exact ⟨htimed.counting, htimed.counters, fun htold => by rw [htimed.answer htold],
    htimed.journal⟩

end Service

end Server

end AdmissionControl
