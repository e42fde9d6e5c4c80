import AdmissionControl.Proofs.Server.Leaving
import AdmissionControl.Proofs.Server.Unprotected

namespace AdmissionControl.Server

open BodyGuard Http Identity RateLimit

variable {σ : Type}

-- Where an answer comes from: a layer that knows the request, a panic, the endpoint itself,
-- or the end of the time.
inductive Origin where
  | layer (rejection : Rejection)
  | panic (detail : Option String)
  | endpoint (response : Response)
  | late

-- The answer as it is made there, for a request that goes by this identity.
def Origin.answer (id : String) : Origin → Response
  | .layer rejection => rejection.response (some id)
  | .panic _ => Rejection.internal.response none
  | .endpoint response => response
  | .late => .empty 408

def Conclusion.origin : Conclusion → Origin
  | .responded response => .endpoint response
  | .panicked detail => .panic detail
  | .interrupted => .late

-- What a request has to pass before it comes to its endpoint.
def Exposure.stages : Exposure → List Stage
  | .anyone => [.length]
  | .checked => Stage.inOrder

namespace Service

-- The counters as the endpoint finds them.
def countingAt (service : Service σ) (arrival : Arrival) (exposure : Exposure)
    (counting : Counting σ) : Counting σ :=
  match exposure with
  | .anyone => counting
  | .checked => service.countingAfter arrival counting .rate

-- All that can become of a request: there is no time for it, a stage refuses it, its body
-- overflows and replaces the answer, or the endpoint's conclusion stands.
inductive Passage (service : Service σ) (arrival : Arrival) (exposure : Exposure)
    (destination : Destination) (counting : Counting σ) : Origin → Outcome σ Response → Prop where
  | untimed (htime : service.timeout.nanos = 0) :
      Passage service arrival exposure destination counting .late ⟨.empty 408, counting, []⟩
  | refused {earlier later : List Stage} {stage : Stage} {rejection : Rejection}
      (htime : service.timeout.nanos ≠ 0)
      (horder : exposure.stages = earlier ++ stage :: later)
      (hpassed : ∀ passed ∈ earlier, service.refusal? arrival counting passed = none)
      (hrefused : service.refusal? arrival counting stage = some rejection) :
      Passage service arrival exposure destination counting (.layer rejection)
        ⟨rejection.response (some arrival.id.text), service.countingAfter arrival counting stage,
          (earlier ++ [stage]).flatMap (service.entries arrival counting)⟩
  | replaced {source : Source} {claims : Option Access.Claims} {rejection : Rejection}
      {visited : Outcome σ (Conclusion × Source)} {answer : Response} {panicked : Journal}
      (htime : service.timeout.nanos ≠ 0)
      (hpassed : ∀ stage ∈ exposure.stages, service.refusal? arrival counting stage = none)
      (hsource : (service.pipeline.guardBody arrival.request).1 = .ok source)
      (hvisited : service.visit arrival destination claims source
        (service.countingAt arrival exposure counting) = visited)
      (hcaught : caught visited.answer.1 = (some answer, panicked))
      (hoverflow : visited.answer.2.rejection? = some rejection) :
      Passage service arrival exposure destination counting (.layer rejection)
        ⟨rejection.response (some arrival.id.text), visited.counting,
          exposure.stages.flatMap (service.entries arrival counting) ++ visited.journal ++
            panicked ++ [.event (.responseReplaced arrival.id.text answer.status),
              .count (.bodyRejection .streamedOverflow)]⟩
  | ended {source : Source} {claims : Option Access.Claims}
      {visited : Outcome σ (Conclusion × Source)}
      (htime : service.timeout.nanos ≠ 0)
      (hpassed : ∀ stage ∈ exposure.stages, service.refusal? arrival counting stage = none)
      (hsource : (service.pipeline.guardBody arrival.request).1 = .ok source)
      (hvisited : service.visit arrival destination claims source
        (service.countingAt arrival exposure counting) = visited)
      (hkept : visited.answer.1 = .interrupted ∨ visited.answer.2.rejection? = none) :
      Passage service arrival exposure destination counting visited.answer.1.origin
        ⟨(caught visited.answer.1).1.getD (.empty 408), visited.counting,
          exposure.stages.flatMap (service.entries arrival counting) ++ visited.journal ++
            (caught visited.answer.1).2⟩

variable {service : Service σ} {arrival : Arrival} {exposure : Exposure}
variable {destination : Destination} {counting : Counting σ}

theorem passed_or_first_refusal (service : Service σ) (arrival : Arrival) (counting : Counting σ)
    (stages : List Stage) :
    (∀ stage ∈ stages, service.refusal? arrival counting stage = none) ∨
    ∃ earlier stage later rejection, stages = earlier ++ stage :: later ∧
      (∀ passed ∈ earlier, service.refusal? arrival counting passed = none) ∧
      service.refusal? arrival counting stage = some rejection := by
  induction stages with
  | nil => exact Or.inl nofun
  | cons stage stages ih =>
      cases hstage : service.refusal? arrival counting stage with
      | some rejection => exact Or.inr ⟨[], stage, stages, rejection, rfl, nofun, hstage⟩
      | none =>
          rcases ih with hpassed | ⟨earlier, next, later, rejection, rfl, hpassed, hrefused⟩
          · exact Or.inl (List.forall_mem_cons.mpr ⟨hstage, hpassed⟩)
          · exact Or.inr ⟨stage :: earlier, next, later, rejection, rfl,
              List.forall_mem_cons.mpr ⟨hstage, hpassed⟩, hrefused⟩

theorem guarded_of_refused {earlier later : List Stage} {stage : Stage} {rejection : Rejection}
    (horder : exposure.stages = earlier ++ stage :: later)
    (hpassed : ∀ passed ∈ earlier, service.refusal? arrival counting passed = none)
    (hrefused : service.refusal? arrival counting stage = some rejection) :
    service.guarded arrival exposure destination counting =
      ⟨some (rejection.response (some arrival.id.text)),
        service.countingAfter arrival counting stage,
        (earlier ++ [stage]).flatMap (service.entries arrival counting)⟩ := by
  cases exposure with
  | checked => exact guarded_of_first_refusal horder hpassed hrefused
  | anyone =>
      obtain ⟨rfl, rfl, rfl⟩ : earlier = [] ∧ stage = .length ∧ later = [] := by
        rcases earlier with _ | ⟨first, rest⟩ <;> simp_all [Exposure.stages]
      rw [guarded_of_error (guardBody_of_refused hrefused)]
      simp [countingAfter]

-- Behind the guard a request that no stage refuses comes to its endpoint.
theorem dispatch_of_passed (destination : Destination) (source : Source)
    (hpassed : ∀ stage ∈ exposure.stages, service.refusal? arrival counting stage = none) :
    ∃ claims,
      let visited := service.visit arrival destination claims source
        (service.countingAt arrival exposure counting)
      service.dispatch arrival exposure destination source counting =
        ⟨visited.answer, visited.counting,
          exposure.stages.tail.flatMap (service.entries arrival counting) ++ visited.journal⟩ := by
  cases exposure with
  | anyone => exact ⟨none, rfl⟩
  | checked =>
      have haccess := hpassed .access (by simp [Exposure.stages, Stage.inOrder])
      have hrate := hpassed .rate (by simp [Exposure.stages, Stage.inOrder])
      obtain ⟨claims, hclaims⟩ := refusalOf_eq_none.mp haccess
      refine ⟨claims, ?_⟩
      simpa [dispatch, countingAt, Exposure.stages, Stage.inOrder] using
        checked_of_passed hclaims hrate

theorem guarded_of_interrupted {source last : Source} {journal : Journal}
    (hguard : service.pipeline.guardBody arrival.request = (.ok source, journal))
    (hanswer : (service.dispatch arrival exposure destination source counting).answer =
      (.interrupted, last)) :
    let downstream := service.dispatch arrival exposure destination source counting
    service.guarded arrival exposure destination counting =
      ⟨none, downstream.counting, journal ++ downstream.journal⟩ := by
  simp [guarded, hguard, hanswer, caught]

-- With every stage passed, it is for the endpoint and the body to say how the request ends.
theorem passage_of_passed {source : Source} (destination : Destination)
    (htime : service.timeout.nanos ≠ 0)
    (hpassed : ∀ stage ∈ exposure.stages, service.refusal? arrival counting stage = none)
    (hsource : (service.pipeline.guardBody arrival.request).1 = .ok source) :
    ∃ claims,
      let (conclusion, last) := (service.visit arrival destination claims source
        (service.countingAt arrival exposure counting)).answer
      let passage := service.Passage arrival exposure destination counting
      let outcome := service.timed arrival exposure destination counting
      (conclusion = .interrupted ∨ last.rejection? = none → passage conclusion.origin outcome) ∧
      ∀ rejection, conclusion ≠ .interrupted → last.rejection? = some rejection →
        passage (.layer rejection) outcome := by
  have hguard : service.pipeline.guardBody arrival.request =
      (.ok source, service.entries arrival counting .length) := Prod.ext hsource rfl
  have hentries : exposure.stages.flatMap (service.entries arrival counting) =
      service.entries arrival counting .length ++
        exposure.stages.tail.flatMap (service.entries arrival counting) := by
    cases exposure <;> rfl
  obtain ⟨claims, hdispatch⟩ := dispatch_of_passed destination source hpassed
  generalize hvisited : service.visit arrival destination claims source
    (service.countingAt arrival exposure counting) = visited at hdispatch
  have hanswer : (service.dispatch arrival exposure destination source counting).answer =
      (visited.answer.1, visited.answer.2) := by rw [hdispatch]
  refine ⟨claims, ?_⟩
  rw [hvisited, timed, if_neg htime]
  refine ⟨fun hkept => ?_, fun rejection hfinished hoverflow => ?_⟩
  · have hended := Passage.ended htime hpassed hsource hvisited hkept
    rcases hkept with hinterrupted | hwithin
    · simp only [hinterrupted] at hanswer hended ⊢
      rw [guarded_of_interrupted hguard hanswer, hdispatch, ← List.append_assoc, ← hentries]
      simpa [caught] using hended
    · rw [guarded_of_within hguard hanswer hwithin, hdispatch, ← List.append_assoc, ← hentries]
      exact hended
  · obtain ⟨answer, panicked, hcaught⟩ := exists_caught hfinished
    rw [guarded_of_overflow hguard hanswer hcaught hoverflow, hdispatch, ← List.append_assoc,
      ← hentries]
    exact .replaced htime hpassed hsource hvisited hcaught hoverflow

-- Every request takes one of these ways.
theorem exists_passage (service : Service σ) (arrival : Arrival) (exposure : Exposure)
    (destination : Destination) (counting : Counting σ) :
    ∃ origin, service.Passage arrival exposure destination counting origin
      (service.timed arrival exposure destination counting) := by
  by_cases htime : service.timeout.nanos = 0
  · exact ⟨_, by rw [timed, if_pos htime]; exact .untimed htime⟩
  rcases service.passed_or_first_refusal arrival counting exposure.stages with
    hpassed | ⟨earlier, stage, later, rejection, horder, hpassed, hrefused⟩
  · have hlength : .length ∈ exposure.stages := by cases exposure <;> exact List.mem_cons_self
    obtain ⟨source, hguard⟩ := exists_guardBody (hpassed .length hlength)
    obtain ⟨claims, hkept, hreplaced⟩ :=
      passage_of_passed destination htime hpassed (congrArg Prod.fst hguard)
    rcases hoverflow : (service.visit arrival destination claims source
      (service.countingAt arrival exposure counting)).answer.2.rejection? with _ | rejection
    · exact ⟨_, hkept (Or.inr hoverflow)⟩
    · by_cases hinterrupted : (service.visit arrival destination claims source
        (service.countingAt arrival exposure counting)).answer.1 = .interrupted
      · exact ⟨_, hkept (Or.inl hinterrupted)⟩
      · exact ⟨_, hreplaced rejection hinterrupted hoverflow⟩
  · refine ⟨.layer rejection, ?_⟩
    rw [timed, if_neg htime, guarded_of_refused horder hpassed hrefused]
    exact .refused htime horder hpassed hrefused

theorem Passage.answer_eq {origin : Origin} {outcome : Outcome σ Response}
    (h : service.Passage arrival exposure destination counting origin outcome) :
    outcome.answer = origin.answer arrival.id.text := by
  cases h with
  | untimed htime => rfl
  | refused htime horder hpassed hrefused => rfl
  | replaced htime hpassed hsource hvisited hcaught hoverflow => rfl
  | @ended source claims visited htime hpassed hsource hvisited hkept =>
      cases visited.answer.1 <;> rfl

theorem Passage.responded_of_endpoint {response : Response} {outcome : Outcome σ Response}
    (h : service.Passage arrival exposure destination counting (.endpoint response) outcome) :
    ∃ claims source,
      (service.visit arrival destination claims source
        (service.countingAt arrival exposure counting)).answer.1 = .responded response := by
  generalize horigin : Origin.endpoint response = origin at h
  cases h with
  | untimed htime => cases horigin
  | refused htime horder hpassed hrefused => cases horigin
  | replaced htime hpassed hsource hvisited hcaught hoverflow => cases horigin
  | @ended source claims visited htime hpassed hsource hvisited hkept =>
      refine ⟨claims, source, ?_⟩
      rw [hvisited]
      cases hconclusion : visited.answer.1 <;> (rw [hconclusion] at horigin; cases horigin)
      rfl

theorem Passage.refused_of_layer {rejection : Rejection} {outcome : Outcome σ Response}
    (h : service.Passage arrival exposure destination counting (.layer rejection) outcome) :
    (∃ stage, service.refusal? arrival counting stage = some rejection) ∨
      rejection.status = 413 := by
  generalize horigin : Origin.layer rejection = origin at h
  cases h with
  | untimed htime => cases horigin
  | @refused earlier later stage refusal htime horder hpassed hrefused =>
      cases horigin
      exact Or.inl ⟨stage, hrefused⟩
  | replaced htime hpassed hsource hvisited hcaught hoverflow =>
      cases horigin
      exact Or.inr (status_of_rejection? hoverflow)
  | @ended source claims visited htime hpassed hsource hvisited hkept =>
      cases hconclusion : visited.answer.1 <;> (rw [hconclusion] at horigin; cases horigin)

-- The way that a request takes to its answer.
def ComesFrom (service : Service σ) (counting : Counting σ) (clock : Clock) (generatedId : String)
    (request : Request) (origin : Origin) : Prop :=
  let arrival := arrivalAt clock generatedId request
  let exposure := service.exposureOf request
  let destination := service.destinationOf request
  service.Passage arrival exposure destination counting origin
    (service.timed arrival exposure destination counting)

theorem exists_comesFrom (service : Service σ) (counting : Counting σ) (clock : Clock)
    (generatedId : String) (request : Request) :
    ∃ origin, service.ComesFrom counting clock generatedId request origin :=
  service.exists_passage _ _ _ _

-- The answer that a client gets is the one made at its origin, under the request's identity.
theorem leaves_of_comesFrom {clock : Clock} {generatedId : String} {request : Request}
    {origin : Origin} (h : service.ComesFrom counting clock generatedId request origin) :
    let id := (arrivalAt clock generatedId request).id.text
    Leaves request.method ((origin.answer id).setHeader RequestId.header id)
      (service.respond counting clock generatedId request).answer := by
  intro id
  rw [respond_eq, ← h.answer_eq]
  exact leaves_leaving _ _ _

theorem ComesFrom.renders {clock : Clock} {generatedId : String} {request : Request}
    {origin : Origin} {rejection : Rejection} {named : Option String}
    (h : service.ComesFrom counting clock generatedId request origin)
    (hmethod : request.method ≠ .head)
    (hrenders : rejection.Renders named
      (origin.answer (arrivalAt clock generatedId request).id.text)) :
    rejection.Renders named (service.respond counting clock generatedId request).answer :=
  (leaves_of_comesFrom h).renders hmethod ⟨hrenders.status, hrenders.body⟩

end Service

end AdmissionControl.Server
