import AdmissionControl.Proofs.Server.Rendered
import AdmissionControl.Server.Sample

namespace AdmissionControl

open BodyGuard Http

-- No value begins with this letter.
theorem Json.parse?_eq_none {text : String} {rest : List Char} (h : text.toList = 'F' :: rest) :
    parse? text = none := by
  have hdigit : Text.isDigit 10 'F' = false := by decide
  have hspace : skipSpace ('F' :: rest) = 'F' :: rest := by simp [skipSpace]
  rw [parse?, h, value?, hspace]
  simp [number?, wholePart?, hdigit]

namespace Server

variable {route : Route} {method : Method} {endpoint : Endpoint} {left : Span} {source : Source}
variable {response : Response}

theorem MethodTable.mem_of_find? {entries : List (Method × Endpoint)}
    (h : (byMethod entries).find? method = some endpoint) :
    ∃ registered, (registered, endpoint) ∈ entries := by
  obtain ⟨⟨registered, _⟩, hfound, rfl⟩ := Option.map_eq_some_iff.mp h
  exact ⟨registered, List.mem_of_find?_eq_some hfound⟩

theorem ne_handler_of_health {handle : Handler} (hroute : route ∈ healthRoutes) :
    route.methods.find? method ≠ some (.handler handle) := by
  intro hfound
  simp only [healthRoutes, List.mem_cons, List.not_mem_nil, or_false] at hroute
  rcases hroute with rfl | rfl | rfl <;>
    (obtain ⟨_, hmem⟩ := MethodTable.mem_of_find? hfound
     cases List.mem_singleton.mp hmem)

theorem responded_of_withBody {next : ByteArray → Activity}
    (h : ((withBody next).run left source).1 = .responded response) :
    (∃ bytes source, ((next bytes).run left source).1 = .responded response) ∨
      ∃ text, response = .text 400 ("Failed to buffer the request body: " ++ text) := by
  simp only [withBody, Activity.run] at h
  cases hbody : (source.collect ByteArray.empty).1 with
  | ok bytes =>
      rw [hbody] at h
      exact Or.inl ⟨bytes, _, h⟩
  | error text =>
      rw [hbody] at h
      cases h
      exact Or.inr ⟨text, rfl⟩

namespace Sample

-- All is well, or the body could not be read.
def Plain (response : Response) : Prop :=
  response.status ∈ [200, 201, 202] ∨
    ∃ text, response = .text 400 ("Failed to buffer the request body: " ++ text)

def AnswersPlainly (endpoint : Endpoint) : Prop :=
  ∀ handle, endpoint = .handler handle → ∀ visit left source response,
    ((handle visit).run left source).1 = .responded response → Plain response

theorem answersPlainly_respondWith
    (hstatus : response.status ∈ [200, 201, 202]) : AnswersPlainly (respondWith response) := by
  rintro _ ⟨⟩ visit left source _ ⟨⟩
  exact Or.inl hstatus

theorem answersPlainly_lengthOfBody {status : Nat} (hstatus : status ∈ [200, 201, 202]) :
    AnswersPlainly (lengthOfBody status) := by
  rintro _ ⟨⟩ visit left source response hrun
  rcases responded_of_withBody hrun with ⟨bytes, source, hrun⟩ | hfailed
  · cases hrun
    exact Or.inl hstatus
  · exact Or.inr hfailed

theorem answersPlainly_slow : AnswersPlainly slow := by
  rintro _ ⟨⟩ visit left source response hrun
  simp only [Activity.run] at hrun
  split at hrun
  · cases hrun
  · cases hrun
    exact Or.inl (by decide)

theorem answersPlainly_item : AnswersPlainly item := by
  rintro _ ⟨⟩ visit left source _ ⟨⟩
  exact Or.inl (by simp [Response.json])

theorem answersPlainly_panicking : AnswersPlainly panicking := by
  rintro _ ⟨⟩ visit left source response hrun
  rcases responded_of_withBody hrun with ⟨bytes, source, hrun⟩ | hfailed
  · split at hrun
    · cases hrun
    · split at hrun <;> cases hrun
  · exact Or.inr hfailed

theorem answersPlainly_routes (hroute : route ∈ routes)
    (hfound : route.methods.find? method = some endpoint) : AnswersPlainly endpoint := by
  simp only [routes, List.mem_cons, List.not_mem_nil, or_false] at hroute
  rcases hroute with rfl | rfl | rfl | rfl | rfl | rfl
  · obtain ⟨_, hmem⟩ := MethodTable.mem_of_find? hfound
    simp only [List.mem_cons, List.not_mem_nil, or_false, Prod.mk.injEq] at hmem
    rcases hmem with ⟨-, rfl⟩ | ⟨-, rfl⟩
    · exact answersPlainly_respondWith (by decide)
    · exact answersPlainly_lengthOfBody (by decide)
  · obtain ⟨_, hmem⟩ := MethodTable.mem_of_find? hfound
    cases List.mem_singleton.mp hmem
    exact answersPlainly_slow
  · obtain ⟨_, hmem⟩ := MethodTable.mem_of_find? hfound
    simp only [List.mem_cons, List.not_mem_nil, or_false, Prod.mk.injEq] at hmem
    rcases hmem with ⟨-, rfl⟩ | ⟨-, rfl⟩
    · exact answersPlainly_respondWith (by decide)
    · exact answersPlainly_lengthOfBody (by decide)
  · cases hfound
    exact answersPlainly_item
  · obtain ⟨_, hmem⟩ := MethodTable.mem_of_find? hfound
    cases List.mem_singleton.mp hmem
    exact answersPlainly_panicking
  · obtain ⟨_, hmem⟩ := MethodTable.mem_of_find? hfound
    cases List.mem_singleton.mp hmem
    exact answersPlainly_respondWith (by decide)

theorem Plain.status_ne {status : Nat} (hstatus : status ∉ [200, 201, 202, 400])
    (h : Plain response) : response.status ≠ status := by
  rintro rfl
  rcases h with hserved | ⟨text, rfl⟩
  · simp only [List.mem_cons, List.not_mem_nil, or_false] at hserved
    exact hstatus (by simp only [List.mem_cons]; omega)
  · exact hstatus (by simp [Response.text])

-- What is said of a body that could not be read is no rejection.
theorem Plain.json? (h : Plain response) (hstatus : response.status = 400) :
    response.json? = none := by
  rcases h with hserved | ⟨text, rfl⟩
  · simp [hstatus] at hserved
  · rw [Response.json?_of_text rfl]
    exact Json.parse?_eq_none (by rw [String.toList_append]; rfl)

end Sample

end Server

end AdmissionControl
