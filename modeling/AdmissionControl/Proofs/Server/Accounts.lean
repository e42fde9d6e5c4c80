import AdmissionControl.Proofs.Server.Named
import AdmissionControl.Proofs.Server.Plain
import AdmissionControl.Proofs.Server.Tally

namespace AdmissionControl

open BodyGuard Http Identity RateLimit

-- The answer says that the length of the body was malformed.
def Http.Response.blamesLength (response : Response) : Bool :=
  response.status == 400 &&
    (response.member? "message").bind Json.text? == some "Invalid Content-Length header"

theorem Rejection.Renders.blamesLength {named : Option String} {answer : Response}
    (h : Rejection.invalidContentLength.Renders named answer) : answer.blamesLength = true := by
  rw [Response.blamesLength, h.status, h.message]
  rfl

theorem Journal.countsOf_flatMap {labels : List Counter} {items : List α} {entries : α → Journal}
    {p : α → Bool} (h : ∀ item ∈ items, (entries item).countsOf labels = if p item then 1 else 0) :
    countsOf labels (items.flatMap entries) = items.countP p := by
  induction items with
  | nil => rfl
  | cons item items ih =>
      obtain ⟨hitem, hitems⟩ := List.forall_mem_cons.mp h
      rw [List.flatMap_cons, countsOf_append, hitem, ih hitems, List.countP_cons, Nat.add_comm]

namespace Server

variable {σ ι : Type}

-- A request as it comes to a service in the course of a run.
structure Encounter (σ : Type) where
  counting : Counting σ
  clock : Clock
  generatedId : String
  request : Request

namespace Service

def meet (service : Service σ) (encounter : Encounter σ) : Outcome σ Response :=
  service.respond encounter.counting encounter.clock encounter.generatedId encounter.request

-- The request comes to a limiter that is in use, and its call may end in an error of the
-- store.
def reaches (service : Service σ) (encounter : Encounter σ) : Bool :=
  service.reachesLimiter (arrivalAt encounter.clock encounter.generatedId encounter.request)
    (service.exposureOf encounter.request) encounter.counting

def failsAtStore (service : Service σ) (encounter : Encounter σ) : Bool :=
  service.reaches encounter &&
    encounter.counting.limiter.endsInError service.store encounter.counting.store encounter.clock
      (service.clientOf encounter.request)

-- The requests of a run, each with the counters that it finds.
def encounters (service : Service σ) : Counting σ → List (Happening ι σ) → List (Encounter σ)
  | _, [] => []
  | counting, .asked _ clock generatedId request :: rest =>
    let encounter : Encounter σ := ⟨counting, clock, generatedId, request⟩
    encounter :: service.encounters (service.meet encounter).counting rest
  | counting, .changed change :: rest =>
    service.encounters { counting with store := change counting.store } rest

-- No handler of the service ends with an answer of this kind.
def NeverAnswers (service : Service σ) (kind : Response → Bool) : Prop :=
  ∀ route ∈ service.routes, ∀ method handle,
    route.methods.find? method = some (.handler handle) → ∀ visit source response,
      ((handle visit).run service.timeout source).1 = .responded response → kind response = false

variable {service : Service σ} {counting : Counting σ} {clock : Clock} {generatedId : String}
variable {request : Request} {origin : Origin} {encounter : Encounter σ}

theorem answers_run (service : Service σ) (counting : Counting σ)
    (happenings : List (Happening ι σ)) :
    (service.run counting happenings).1.map Prod.snd =
      (service.encounters counting happenings).map fun encounter =>
        (service.meet encounter).answer := by
  induction happenings generalizing counting with
  | nil => rfl
  | cons happening rest ih =>
      cases happening with
      | asked label clock generatedId request =>
          simp only [run, encounters, List.map_cons, ih]
          rfl
      | changed change => exact ih _

theorem destinationOf_eq_handler {handle : Handler} {parameters : List String}
    (h : service.destinationOf request = .endpoint (.handler handle) parameters) :
    ∃ route ∈ service.routes, route.methods.find? request.method = some (.handler handle) := by
  simp only [destinationOf] at h
  split at h
  · rename_i route captured hroute
    obtain ⟨_, hmem, hfound⟩ := List.exists_of_findSome?_eq_some hroute
    obtain ⟨_, -, heq⟩ := Option.map_eq_some_iff.mp hfound
    cases heq
    exact ⟨route, hmem, destination_eq_handler h⟩
  · cases h

-- An endpoint that is no handler has its own few statuses.
theorem ComesFrom.kind_eq_false {kind : Response → Bool} {response : Response}
    (h : service.ComesFrom counting clock generatedId request (.endpoint response))
    (hnever : service.NeverAnswers kind)
    (hother : response.status ∈ [200, 404, 405, 503] → kind response = false) :
    kind response = false := by
  obtain ⟨claims, source, hresponded⟩ := h.responded_of_endpoint
  rcases responded_of_visit hresponded with ⟨handle, _, visit, hdestination, hrun⟩ | hstatus
  · obtain ⟨route, hmem, hfound⟩ := destinationOf_eq_handler hdestination
    exact hnever route hmem _ handle hfound visit _ response hrun
  · exact hother hstatus

theorem ComesFrom.status_eq (h : service.ComesFrom counting clock generatedId request origin) :
    (service.respond counting clock generatedId request).answer.status =
      (origin.answer (arrivalAt clock generatedId request).id.text).status :=
  (leaves_of_comesFrom h).status

-- Where no handler answers with the status of a refusal, the layers alone do.
theorem ComesFrom.refusesWith_eq {status : Nat}
    (h : service.ComesFrom counting clock generatedId request origin)
    (hstatus : status = 413 ∨ status = 429)
    (hnever : service.NeverAnswers fun response => response.status == status) :
    ((service.respond counting clock generatedId request).answer.status == status) =
      origin.refusesWith status := by
  rw [h.status_eq]
  cases origin with
  | layer rejection => rw [Origin.answer, status_response]; rfl
  | panic detail => rcases hstatus with rfl | rfl <;> rfl
  | late => rcases hstatus with rfl | rfl <;> rfl
  | endpoint response =>
      refine h.kind_eq_false hnever fun hother => beq_eq_false_iff_ne.mpr ?_
      rintro rfl
      rcases hstatus with hsame | hsame <;> simp [hsame] at hother

theorem method_of_guarded {pipeline : Pipeline} {rejection : Rejection}
    (h : (pipeline.guardBody request).1 = .error rejection) : request.method ≠ .head := by
  intro hhead
  have hunguarded : pipeline.bodyPolicy.appliesTo request.method request.target.path = false := by
    rw [hhead]
    rfl
  simp [Pipeline.guardBody, Policy.enter, hunguarded] at h

-- The guard guards no request for a head, so what it says is read.
theorem ComesFrom.blamesLength (h : service.ComesFrom counting clock generatedId request origin)
    (hrefused : origin.refusesWith 400 = true) :
    (service.respond counting clock generatedId request).answer.blamesLength = true := by
  cases origin with
  | panic detail => cases hrefused
  | endpoint response => cases hrefused
  | late => cases hrefused
  | layer rejection =>
      have hstatus : rejection.status = 400 := beq_iff_eq.mp hrefused
      obtain ⟨stage, hstage⟩ := h.refused_of_layer.resolve_right (by rw [hstatus]; decide)
      obtain rfl := stage_eq_length hstage hstatus
      have hguard := refusalOf_eq_some.mp hstage
      rcases guardBody_error hguard with rfl | ⟨length, rfl⟩
      · have hrenders := h.renders (method_of_guarded hguard)
          (Rejection.invalidContentLength.renders_response (some _))
        exact hrenders.blamesLength
      · cases hstatus

theorem ComesFrom.refusesWith_of_blamesLength
    (h : service.ComesFrom counting clock generatedId request origin)
    (hnever : service.NeverAnswers Response.blamesLength)
    (hblames : (service.respond counting clock generatedId request).answer.blamesLength = true) :
    origin.refusesWith 400 = true := by
  simp only [Response.blamesLength, Bool.and_eq_true, beq_iff_eq, h.status_eq] at hblames
  obtain ⟨hstatus, hmessage⟩ := hblames
  cases origin with
  | layer rejection =>
      rw [Origin.answer, status_response] at hstatus
      exact beq_iff_eq.mpr hstatus
  | panic detail => cases hstatus
  | late => cases hstatus
  | endpoint response =>
      exfalso
      have hquiet : response.blamesLength = false := by
        refine h.kind_eq_false hnever fun hother => ?_
        simp [show response.status = 400 from hstatus] at hother
      rcases (leaves_of_comesFrom h).body with hbody | ⟨hbody, -⟩
      · rw [Response.member?_congr hbody] at hmessage
        have hloud : response.blamesLength = true := by
          simp only [Response.blamesLength, Bool.and_eq_true, beq_iff_eq]
          exact ⟨hstatus, hmessage⟩
        rw [hloud] at hquiet
        cases hquiet
      · rw [Response.member?, Response.json?_of_empty hbody] at hmessage
        cases hmessage

theorem exists_comesFrom_meet (service : Service σ) (encounter : Encounter σ) :
    ∃ origin outcome, service.ComesFrom encounter.counting encounter.clock encounter.generatedId
        encounter.request origin ∧
      service.Passage (arrivalAt encounter.clock encounter.generatedId encounter.request)
        (service.exposureOf encounter.request) (service.destinationOf encounter.request)
        encounter.counting origin outcome ∧
      outcome.journal = (service.meet encounter).journal := by
  obtain ⟨origin, h⟩ := service.exists_comesFrom encounter.counting encounter.clock
    encounter.generatedId encounter.request
  exact ⟨origin, _, h, h, by rw [meet, respond_eq]⟩

theorem countsOf_meet {status : Nat} (hstatus : status = 413 ∨ status = 429)
    (hnever : service.NeverAnswers fun response => response.status == status)
    (encounter : Encounter σ) :
    (service.meet encounter).journal.countsOf (refusalLabels status) =
      if (service.meet encounter).answer.status == status then 1 else 0 := by
  obtain ⟨origin, outcome, hcomes, hpassage, hjournal⟩ := service.exists_comesFrom_meet encounter
  rw [← hjournal, hpassage.countsOf_refusals (by simp [hstatus]), meet,
    hcomes.refusesWith_eq hstatus hnever]

theorem countsOf_meet_malformed (service : Service σ) (encounter : Encounter σ) :
    (service.meet encounter).journal.countsOf (refusalLabels 400) =
      if service.malformed encounter.request then 1 else 0 := by
  obtain ⟨origin, outcome, -, hpassage, hjournal⟩ := service.exists_comesFrom_meet encounter
  rw [← hjournal, hpassage.countsOf_refusals (by simp), hpassage.refusesWith_eq_malformed]
  rfl

-- A malformed length is answered so, and nothing else is unless a handler has made up such
-- an answer by itself.
theorem blamesLength_meet_of_malformed
    (hmalformed : service.malformed encounter.request = true) :
    (service.meet encounter).answer.blamesLength = true := by
  obtain ⟨origin, outcome, hcomes, hpassage, -⟩ := service.exists_comesFrom_meet encounter
  exact hcomes.blamesLength (hpassage.refusesWith_eq_malformed.trans hmalformed)

theorem malformed_of_blamesLength_meet (hnever : service.NeverAnswers Response.blamesLength)
    (hblames : (service.meet encounter).answer.blamesLength = true) :
    service.malformed encounter.request = true := by
  obtain ⟨origin, outcome, hcomes, hpassage, -⟩ := service.exists_comesFrom_meet encounter
  have hrefused := hcomes.refusesWith_of_blamesLength hnever hblames
  exact hpassage.refusesWith_eq_malformed.symm.trans hrefused

theorem countsOf_meet_decisions (service : Service σ) (encounter : Encounter σ) :
    (service.meet encounter).journal.countsOf decisionLabels =
      if service.reaches encounter then 1 else 0 := by
  obtain ⟨origin, outcome, -, hpassage, hjournal⟩ := service.exists_comesFrom_meet encounter
  rw [← hjournal, hpassage.countsOf_decisions, reaches]

theorem countsOf_meet_degraded (service : Service σ) (encounter : Encounter σ) :
    (service.meet encounter).journal.countsOf degradedLabels =
      if service.failsAtStore encounter then 1 else 0 := by
  obtain ⟨origin, outcome, -, hpassage, hjournal⟩ := service.exists_comesFrom_meet encounter
  rw [← hjournal, hpassage.countsOf_degraded]
  rfl

-- Everything that is written down in the course of a run.
def written (service : Service σ) (counting : Counting σ) (happenings : List (Happening ι σ)) :
    Journal :=
  (service.encounters counting happenings).flatMap fun encounter =>
    (service.meet encounter).journal

theorem countsOf_written_malformed (service : Service σ) (counting : Counting σ)
    (happenings : List (Happening ι σ)) :
    (service.written counting happenings).countsOf [.bodyRejection .invalidLength] =
      (service.encounters counting happenings).countP fun encounter =>
        service.malformed encounter.request :=
  Journal.countsOf_flatMap fun encounter _ => service.countsOf_meet_malformed encounter

-- The counters tell how the requests of a run were answered, however they came and whatever
-- became of the store: what was too large, what had a malformed length, what was refused
-- for want of budget. Each request that came to a limiter in use was decided on once, and
-- each call that ended in an error of the store was entered as one. Handlers leave the
-- answers of the layers to the layers. What a handler itself says of a length is not counted.
theorem counters_account_for_run (service : Service σ) (counting : Counting σ)
    (happenings : List (Happening ι σ))
    (hlarge : service.NeverAnswers fun response => response.status == 413)
    (hlimited : service.NeverAnswers fun response => response.status == 429) :
    let answers := (service.run counting happenings).1.map Prod.snd
    let encounters := service.encounters counting happenings
    let written := service.written counting happenings
    written.countsOf [.bodyRejection .declaredLength, .bodyRejection .streamedOverflow] =
      answers.countP (·.status == 413) ∧
    written.countsOf [.bodyRejection .invalidLength] =
      encounters.countP (fun encounter =>
        service.malformed encounter.request && (service.meet encounter).answer.blamesLength) ∧
    (service.NeverAnswers Response.blamesLength →
      written.countsOf [.bodyRejection .invalidLength] = answers.countP (·.blamesLength)) ∧
    written.countsOf [.decision .memory false, .decision .sharedStore false] =
      answers.countP (·.status == 429) ∧
    (∀ encounter ∈ encounters, (service.meet encounter).journal.countsOf decisionLabels =
      if service.reaches encounter then 1 else 0) ∧
    written.countsOf decisionLabels = encounters.countP service.reaches ∧
    written.countsOf degradedLabels = encounters.countP service.failsAtStore := by
  intro answers encounters written
  have hanswers (kind : Response → Bool) : answers.countP kind =
      encounters.countP fun encounter => kind (service.meet encounter).answer := by
    rw [show answers = _ from service.answers_run counting happenings, List.countP_map]
    rfl
  have hmalformed : written.countsOf [.bodyRejection .invalidLength] =
      encounters.countP fun encounter => service.malformed encounter.request :=
    service.countsOf_written_malformed counting happenings
  have hdecided (encounter : Encounter σ) := service.countsOf_meet_decisions encounter
  refine ⟨?_, ?_, fun hnever => ?_, ?_, fun encounter _ => hdecided encounter,
    Journal.countsOf_flatMap fun encounter _ => hdecided encounter,
    Journal.countsOf_flatMap fun encounter _ => service.countsOf_meet_degraded encounter⟩
  · rw [hanswers]
    exact Journal.countsOf_flatMap fun encounter _ => countsOf_meet (Or.inl rfl) hlarge encounter
  · rw [hmalformed]
    refine List.countP_congr fun encounter _ => ?_
    rw [Bool.and_eq_true]
    exact ⟨fun h => ⟨h, blamesLength_meet_of_malformed h⟩, And.left⟩
  · rw [hmalformed, hanswers]
    exact List.countP_congr fun encounter _ =>
      ⟨blamesLength_meet_of_malformed, malformed_of_blamesLength_meet hnever⟩
  · rw [hanswers]
    exact Journal.countsOf_flatMap fun encounter _ => countsOf_meet (Or.inr rfl) hlimited encounter

theorem neverAnswers_of_plain {kind : Response → Bool}
    (hplain : ∀ response, Sample.Plain response → kind response = false) :
    archive.NeverAnswers kind := by
  intro route hroute method handle hfound visit source response hrun
  rcases List.mem_append.mp hroute with hhealth | hsample
  · exact absurd hfound (ne_handler_of_health hhealth)
  · have hplainly := Sample.answersPlainly_routes hsample hfound
    exact hplain response (hplainly handle rfl visit archive.timeout source response hrun)

theorem archive_neverAnswers_status {status : Nat} (hstatus : status ∉ [200, 201, 202, 400]) :
    archive.NeverAnswers fun response => response.status == status :=
  neverAnswers_of_plain fun _ h => beq_eq_false_iff_ne.mpr (h.status_ne hstatus)

theorem blamesLength_of_plain {response : Response} (h : Sample.Plain response) :
    response.blamesLength = false := by
  by_cases hstatus : response.status = 400
  · have hnone : response.member? "message" = none := by
      rw [Response.member?, h.json? hstatus, Option.bind_none]
    simp [Response.blamesLength, hnone]
  · simp [Response.blamesLength, hstatus]

-- The handlers of the archive leave the answers of its layers to them. Of a request that is
-- too large, one with a malformed length and one for what is there, the last alone is
-- decided on.
theorem counters_account_for_run_of_archive :
    let oversized : Request :=
      ⟨.post, ⟨"/api/items"⟩, [⟨"content-length", [57, 57, 57, 57]⟩], [], none⟩
    let malformed : Request := { oversized with headers := [⟨"content-length", [57, 97]⟩] }
    let read : Request := ⟨.get, ⟨"/api/items"⟩, [], [], none⟩
    let asked (request : Request) : Happening Unit Unit := .asked () ⟨0, 0⟩ "b" request
    let counting : Counting Unit := ⟨.inMemory (.withLimit 1), ()⟩
    let happenings := [asked oversized, asked malformed, asked read]
    let answers := (archive.run counting happenings).1.map Prod.snd
    let written := archive.written counting happenings
    (archive.NeverAnswers fun response => response.status == 413) ∧
    (archive.NeverAnswers fun response => response.status == 429) ∧
    archive.NeverAnswers Response.blamesLength ∧
    written.countsOf [.bodyRejection .declaredLength, .bodyRejection .streamedOverflow] =
      answers.countP (·.status == 413) ∧
    written.countsOf [.bodyRejection .invalidLength] = answers.countP (·.blamesLength) ∧
    written.countsOf decisionLabels = 1 := by
  intro oversized malformed read asked counting happenings answers written
  have hlarge : archive.NeverAnswers fun response => response.status == 413 :=
    archive_neverAnswers_status (by decide)
  have hlimited : archive.NeverAnswers fun response => response.status == 429 :=
    archive_neverAnswers_status (by decide)
  have hlength : archive.NeverAnswers Response.blamesLength :=
    neverAnswers_of_plain fun _ => blamesLength_of_plain
  obtain ⟨htoo, -, hmalformed, -, -, hdecided, -⟩ :=
    counters_account_for_run archive counting happenings hlarge hlimited
  have hreached : (archive.encounters counting happenings).countP archive.reaches = 1 := by decide
  exact ⟨hlarge, hlimited, hlength, htoo, hmalformed hlength, hdecided.trans hreached⟩

-- A handler may say of a length what the guard says, with a rejection of the same kind or in
-- telling why it could not read a body. The guard has refused nothing then, and nothing is
-- counted.
theorem lengths_blamed_by_handlers_not_counted :
    let blaming := Sample.respondWith (Rejection.invalidContentLength.response none)
    let service : Service Unit :=
      { archive with routes := [checkedRoute "/api/items" (getOnly blaming)] }
    let read : Request := ⟨.get, ⟨"/api/items"⟩, [], [], none⟩
    let broken : Request := ⟨.post, ⟨"/api/items"⟩, [⟨"x-request-id", [97]⟩],
      [.failure "Invalid Content-Length header"], none⟩
    let asked (request : Request) : List (Happening Unit Unit) :=
      [.asked () ⟨60, 0⟩ "b" request]
    let answer := (archive.respond uncounted ⟨60, 0⟩ "b" broken).answer
    ((service.NeverAnswers fun response => response.status == 413) ∧
      (service.NeverAnswers fun response => response.status == 429) ∧
      ((service.run uncounted (asked read)).1.map Prod.snd).countP (·.blamesLength) = 1 ∧
      (service.written uncounted (asked read)).countsOf [.bodyRejection .invalidLength] = 0) ∧
    (archive.NeverAnswers fun response => response.status == 413) ∧
    (archive.NeverAnswers fun response => response.status == 429) ∧
    answer.status = 400 ∧
    answer.body =
      "Failed to buffer the request body: Invalid Content-Length header".toUTF8 ∧
    (archive.written uncounted (asked broken)).countsOf [.bodyRejection .invalidLength] = 0 := by
  intro blaming service read broken asked answer
  have hnever {kind : Response → Bool}
      (hkind : kind (Rejection.invalidContentLength.response none) = false) :
      service.NeverAnswers kind := by
    intro route hroute method handle hfound visit source response hrun
    obtain rfl := List.mem_singleton.mp hroute
    obtain ⟨_, hmem⟩ := MethodTable.mem_of_find? hfound
    have hblaming : Endpoint.handler handle =
        Sample.respondWith (Rejection.invalidContentLength.response none) :=
      congrArg Prod.snd (List.mem_singleton.mp hmem)
    cases hblaming
    cases hrun
    exact hkind
  have hrenders : Rejection.invalidContentLength.Renders none
      (service.respond uncounted ⟨60, 0⟩ "b" read).answer :=
    ⟨by decide +kernel, by decide +kernel⟩
  have hanswers : (service.run uncounted (asked read)).1.map Prod.snd =
      [(service.respond uncounted ⟨60, 0⟩ "b" read).answer] := rfl
  refine ⟨⟨hnever rfl, hnever rfl, ?_, ?_⟩, archive_neverAnswers_status (by decide),
    archive_neverAnswers_status (by decide), by decide +kernel, by decide +kernel, ?_⟩
  · rw [hanswers, List.countP_singleton, if_pos hrenders.blamesLength]
  · rw [countsOf_written_malformed]
    decide
  · rw [countsOf_written_malformed]
    decide

end Service

end Server

end AdmissionControl
