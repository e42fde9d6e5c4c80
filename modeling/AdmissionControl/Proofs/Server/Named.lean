import AdmissionControl.Proofs.Identity.Accepted
import AdmissionControl.Proofs.Server.Origin
import AdmissionControl.Server.Sample

namespace AdmissionControl

open BodyGuard Http Identity RateLimit

-- The body names the same request as the header does.
def Http.Response.NamesRequest (response : Response) : Prop :=
  ∃ id, response.header? RequestId.header = some id ∧
    response.member? "request_id" = some (.string id)

namespace Server

-- The rejection has been told what request it is for. A panic is answered where nobody knows
-- that, and an endpoint's own answer is as the endpoint has made it.
def Origin.Names (id : String) : Origin → Prop
  | .layer _ => True
  | .panic _ => False
  | .endpoint response => response.member? "request_id" = some (.string id)
  | .late => False

namespace Service

variable {σ : Type} {service : Service σ} {counting : Counting σ} {clock : Clock}
variable {generatedId : String} {request : Request} {origin : Origin} {rejection : Rejection}
variable {named : Option String}

theorem fields_respond (service : Service σ) (counting : Counting σ) (clock : Clock)
    (generatedId : String) (request : Request) :
    (service.respond counting clock generatedId request).answer.fields RequestId.header =
      [(RequestId.header, (arrivalAt clock generatedId request).id.text)] := by
  obtain ⟨origin, h⟩ := service.exists_comesFrom counting clock generatedId request
  exact (leaves_of_comesFrom h).fields.trans Response.fields_setHeader

theorem namesRequest_respond_iff :
    (service.respond counting clock generatedId request).answer.NamesRequest ↔
      (service.respond counting clock generatedId request).answer.member? "request_id" =
        some (.string (arrivalAt clock generatedId request).id.text) := by
  have hheader := Response.header?_of_fields
    (service.fields_respond counting clock generatedId request)
  simp [Response.NamesRequest, hheader]

theorem ComesFrom.namesRequest_iff
    (h : service.ComesFrom counting clock generatedId request origin)
    (hmethod : request.method ≠ .head)
    (hrenders : rejection.Renders named
      (service.respond counting clock generatedId request).answer) :
    (service.respond counting clock generatedId request).answer.NamesRequest ↔
      origin.Names (arrivalAt clock generatedId request).id.text := by
  have hleaves := leaves_of_comesFrom h
  have hstatus := hleaves.status.symm.trans hrenders.status
  obtain ⟨hrefusing, hlate⟩ := refusing_of_status rejection
  have hbody : (service.respond counting clock generatedId request).answer.body =
      (origin.answer (arrivalAt clock generatedId request).id.text).body :=
    hleaves.body_of_refusing hmethod (hstatus ▸ hrefusing)
  rw [namesRequest_respond_iff, Response.member?_congr hbody]
  cases origin with
  | layer refusal => exact iff_true_intro (refusal.renders_response (some _)).request_id
  | panic detail =>
      have hnone := (Rejection.internal.renders_response none).request_id
      exact iff_false_intro fun hsome => by cases hnone.symm.trans hsome
  | endpoint response => exact Iff.rfl
  | late => exact absurd hstatus.symm hlate

-- The rejections of the layers all name their request, those of a panic never do, and an
-- endpoint's own do if the endpoint has named it. There are no other rejections.
theorem rejection_names_request_iff (service : Service σ) (counting : Counting σ) (clock : Clock)
    (generatedId : String) (request : Request) (hmethod : request.method ≠ .head) :
    let id := (arrivalAt clock generatedId request).id.text
    let answer := (service.respond counting clock generatedId request).answer
    (∃ origin, service.ComesFrom counting clock generatedId request origin) ∧
    ∀ origin, service.ComesFrom counting clock generatedId request origin →
      (∀ rejection, origin = .layer rejection → rejection.Renders (some id) answer) ∧
      (∀ detail, origin = .panic detail → Rejection.internal.Renders none answer) ∧
      (∀ (rejection : Rejection) named, origin = .endpoint (rejection.response named) →
        rejection.Renders named answer) ∧
      ∀ (rejection : Rejection) named, rejection.Renders named answer →
        (answer.NamesRequest ↔ origin.Names id) := by
  intro id answer
  refine ⟨service.exists_comesFrom _ _ _ _, fun origin h => ⟨?_, ?_, ?_, ?_⟩⟩
  · rintro rejection rfl
    exact h.renders hmethod (rejection.renders_response _)
  · rintro detail rfl
    exact h.renders hmethod (Rejection.internal.renders_response _)
  · rintro rejection named rfl
    exact h.renders hmethod (rejection.renders_response _)
  · intro rejection named hrenders
    exact h.namesRequest_iff hmethod hrenders

-- The sample archive with nothing in the way of its handlers, and a request that makes one
-- of them panic.
def archive : Service Unit :=
  .make ⟨.none, ⟨1024, "/api/"⟩, .disabled⟩ (.silent .zero) {} Sample.routes

def uncounted : Counting Unit := ⟨.inMemory (.withLimit 0), ()⟩

def provoking : Request := ⟨.post, ⟨"/api/panic"⟩, [⟨"x-request-id", [97]⟩], [], none⟩

theorem comesFrom_provoking :
    archive.ComesFrom uncounted ⟨0, 0⟩ "b" provoking (.panic (some "static text")) := by
  let source : Source := .guarded (.start 1024 none [])
  have hpassed : ∀ stage ∈ Exposure.checked.stages,
      archive.refusal? (arrivalAt ⟨0, 0⟩ "b" provoking) uncounted stage = none := by
    simp only [Exposure.stages, Stage.inOrder, List.forall_mem_cons]
    decide
  have hread : source.read = (none, .guarded ⟨1024, none, [], 0, false, true⟩, []) := rfl
  have hsource : (archive.pipeline.guardBody provoking).1 = .ok source := rfl
  obtain ⟨claims, hkept, -⟩ :=
    passage_of_passed (.endpoint Sample.panicking []) (by decide) hpassed hsource
  simp only [Sample.panicking, withBody, Source.collect_of_end hread] at hkept
  exact hkept (Or.inr rfl)

theorem rejection_names_request_iff_of_panic :
    let answer := (archive.respond uncounted ⟨0, 0⟩ "b" provoking).answer
    provoking.method ≠ .head ∧ Rejection.internal.Renders none answer ∧ ¬answer.NamesRequest := by
  intro answer
  have hmethod : provoking.method ≠ .head := by decide
  obtain ⟨-, hall⟩ :=
    rejection_names_request_iff archive uncounted ⟨0, 0⟩ "b" provoking hmethod
  obtain ⟨-, hpanic, -, hnames⟩ := hall _ comesFrom_provoking
  have hrenders := hpanic _ rfl
  exact ⟨hmethod, hrenders, (hnames _ _ hrenders).not.mpr id⟩

-- So the answer to a panic is a rejection that does not say what request it is for.
theorem rejections_not_all_named :
    ¬∀ (σ : Type) (service : Service σ) (counting : Counting σ) (clock : Clock)
      (generatedId : String) (request : Request), request.method ≠ .head →
      let answer := (service.respond counting clock generatedId request).answer
      ∀ (rejection : Rejection) named, rejection.Renders named answer → answer.NamesRequest := by
  intro hnamed
  have hmethod : provoking.method ≠ .head := by decide
  have hrenders := comesFrom_provoking.renders hmethod (Rejection.internal.renders_response none)
  have hnames := hnamed Unit archive uncounted ⟨0, 0⟩ "b" provoking hmethod _ _ hrenders
  exact (comesFrom_provoking.namesRequest_iff hmethod hrenders).mp hnames

theorem ComesFrom.request_id (h : service.ComesFrom counting clock generatedId request
    (.layer rejection)) {value : Json}
    (hvalue : (service.respond counting clock generatedId request).answer.member? "request_id" =
      some value) : value = .string (arrivalAt clock generatedId request).id.text := by
  have hnamed := (rejection.renders_response
    (some (arrivalAt clock generatedId request).id.text)).request_id
  rcases (leaves_of_comesFrom h).body with hbody | ⟨hbody, -⟩
  · rw [Response.member?_congr hbody] at hvalue
    exact Option.some.inj (hvalue.symm.trans hnamed)
  · rw [Response.member?, Response.json?_of_empty hbody] at hvalue
    cases hvalue

end Service

end Server

end AdmissionControl
