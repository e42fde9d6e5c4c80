import AdmissionControl.Proofs.Server.Rendered

namespace AdmissionControl

namespace Http.Response

-- The header fields of one name.
def fields (name : String) (response : Response) : List (String × String) :=
  response.headers.filter (·.1 == name)

variable {name other value : String} {response : Response}

theorem fields_setHeader : (response.setHeader name value).fields name = [(name, value)] := by
  simp [fields, setHeader, List.filter_filter]

theorem fields_setHeader_of_ne (hne : other ≠ name) :
    (response.setHeader other value).fields name = response.fields name := by
  have hkept : ∀ field : String × String,
      (field.1 == name && field.1 != other) = (field.1 == name) := by
    intro field
    by_cases hname : field.1 = name <;> simp [hname, hne.symm]
  simp [fields, setHeader, List.filter_filter, hkept, hne]

theorem fields_setHeaderIfAbsent_of_ne (hne : other ≠ name) :
    (response.setHeaderIfAbsent other value).fields name = response.fields name := by
  rw [setHeaderIfAbsent]
  split
  · rfl
  · exact fields_setHeader_of_ne hne

theorem header?_of_fields (h : response.fields name = [(name, value)]) :
    response.header? name = some value := by
  obtain ⟨status, headers, body⟩ := response
  simp only [header?, fields] at h ⊢
  induction headers with
  | nil => cases h
  | cons field rest ih =>
      obtain ⟨held, text⟩ := field
      by_cases hheld : held = name
      · subst hheld
        simp_all
      · have hother : (name == held) = false := beq_eq_false_iff_ne.mpr (Ne.symm hheld)
        have hskip : ((held, text) :: rest).lookup name = rest.lookup name := by
          rw [List.lookup_cons, hother]
        rw [hskip]
        exact ih (by simpa [hheld] using h)

theorem body_setHeaderIfAbsent :
    (response.setHeaderIfAbsent name value).body = response.body := by
  rw [setHeaderIfAbsent]
  split <;> rfl

end Http.Response

namespace Server

open Http Identity

-- How an answer leaves: with other fields around those that name the request, and without
-- its body where only the head was asked for or a connection is opened.
structure Leaves (method : Method) (response left : Response) : Prop where
  status : left.status = response.status
  fields : left.fields RequestId.header = response.fields RequestId.header
  body : left.body = response.body ∨
    left.body = ByteArray.empty ∧ (method = .head ∨ response.status < 300)

theorem Leaves.setHeaderIfAbsent {method : Method} {response left : Response} {name : String}
    (h : Leaves method response left) (hne : name ≠ RequestId.header) (value : String) :
    Leaves method response (left.setHeaderIfAbsent name value) :=
  ⟨(status_setHeaderIfAbsent name value left).trans h.status,
    (Response.fields_setHeaderIfAbsent_of_ne hne).trans h.fields,
    by rw [Response.body_setHeaderIfAbsent]; exact h.body⟩

theorem Leaves.body_of_refusing {method : Method} {response left : Response}
    (h : Leaves method response left) (hmethod : method ≠ .head) (hstatus : 300 ≤ response.status) :
    left.body = response.body :=
  h.body.resolve_right fun hempty => hempty.2.elim hmethod (Nat.not_lt.mpr hstatus)

theorem refusing_of_status (rejection : Rejection) :
    300 ≤ rejection.status ∧ rejection.status ≠ 408 := by
  cases rejection <;> simp [Rejection.status]

theorem Leaves.renders {method : Method} {response left : Response} {rejection : Rejection}
    {named : Option String} (h : Leaves method response left) (hmethod : method ≠ .head)
    (hrenders : rejection.Renders named response) : rejection.Renders named left :=
  ⟨h.status.trans hrenders.status,
    (h.body_of_refusing hmethod (hrenders.status ▸ (refusing_of_status rejection).1)).trans
      hrenders.body⟩

theorem Leaves.measured {method : Method} {response left : Response}
    (h : Leaves method response left) :
    let measured := left.setHeaderIfAbsent "content-length" (toString left.body.size)
    Leaves method response
      (if method = .head then { measured with body := ByteArray.empty } else measured) := by
  intro measured
  have hlength : "content-length" ≠ RequestId.header := by decide
  have hmeasured := h.setHeaderIfAbsent hlength (toString left.body.size)
  split
  · rename_i hhead
    exact ⟨hmeasured.status, hmeasured.fields, Or.inr ⟨rfl, Or.inl hhead⟩⟩
  · exact hmeasured

theorem leaves_finish (method : Method) (allow : Option String) (response : Response) :
    Leaves method response (Service.finish method allow response) := by
  have hallow : "allow" ≠ RequestId.header := by decide
  have hsame : Leaves method response response := ⟨rfl, rfl, Or.inl rfl⟩
  simp only [Service.finish]
  split
  · rename_i hopened
    exact ⟨rfl, rfl, Or.inr ⟨rfl, Or.inr hopened.2.2⟩⟩
  · cases allow with
    | none => exact hsame.measured
    | some methods => exact (hsame.setHeaderIfAbsent hallow methods).measured

namespace Service

variable {σ : Type}

-- What a request has to pass, and where it is going. A path without a route is checked like
-- a checked route.
def exposureOf (service : Service σ) (request : Request) : Exposure :=
  match service.routes.find? request.target.path with
  | some (route, _) => route.exposure
  | none => .checked

def destinationOf (service : Service σ) (request : Request) : Destination :=
  match service.routes.find? request.target.path with
  | some (route, parameters) => route.destination request.method parameters
  | none => .nowhere

-- The client that a request is counted for.
def clientOf (service : Service σ) (request : Request) : Client :=
  (service.pipeline.resolve request.peer request.headers).1

-- The last that is done to an answer.
def leaving (service : Service σ) (request : Request) (response : Response) : Response :=
  match service.routes.find? request.target.path with
  | some (route, _) => finish request.method (route.others? request.method) response
  | none =>
    if request.target.path.startsWith "/" then response else finish request.method none response

-- One equation for every request, whether a route takes its path or not.
theorem respond_eq (service : Service σ) (counting : Counting σ) (clock : Clock)
    (generatedId : String) (request : Request) :
    let arrival := arrivalAt clock generatedId request
    let outcome := service.timed arrival (service.exposureOf request)
      (service.destinationOf request) counting
    service.respond counting clock generatedId request =
      ⟨service.leaving request (outcome.answer.setHeader RequestId.header arrival.id.text),
        outcome.counting, outcome.journal⟩ := by
  intro arrival outcome
  simp only [respond, outcome, arrival, exposureOf, destinationOf, leaving]
  cases service.routes.find? request.target.path with
  | some found => rfl
  | none =>
      simp only
      split <;> rfl

theorem leaves_leaving (service : Service σ) (request : Request) (response : Response) :
    Leaves request.method response (service.leaving request response) := by
  simp only [leaving]
  split
  · exact leaves_finish _ _ _
  · split
    · exact ⟨rfl, rfl, Or.inl rfl⟩
    · exact leaves_finish _ _ _

end Service

end Server

end AdmissionControl
