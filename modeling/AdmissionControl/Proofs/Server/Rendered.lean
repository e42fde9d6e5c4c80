import AdmissionControl.Proofs.Json.RoundTrip
import AdmissionControl.Proofs.Server.Stages

namespace AdmissionControl

open Http

namespace Http.Response

-- The value that the body spells, if it spells one.
def json? (response : Response) : Option Json :=
  (String.fromUTF8? response.body).bind Json.parse?

-- The value under a name in the body.
def member? (name : String) (response : Response) : Option Json :=
  response.json?.bind (Json.member? name)

theorem json?_of_text {response : Response} {content : String}
    (hbody : response.body = content.toUTF8) : response.json? = Json.parse? content := by
  have htext : String.fromUTF8? response.body = some content := by
    rw [hbody, String.toUTF8_eq_toByteArray, String.fromUTF8?, dif_pos content.isValidUTF8]
    rfl
  rw [json?, htext, Option.bind_some]

theorem json?_of_print {response : Response} {value : Json} (hvalue : value.Canonical)
    (hbody : response.body = value.print.toUTF8) : response.json? = some value := by
  rw [json?_of_text hbody, Json.parse?_print hvalue]

theorem json?_of_empty {response : Response} (hbody : response.body = ByteArray.empty) :
    response.json? = none := by
  have hblank : response.body = "".toUTF8 := hbody
  rw [json?_of_text hblank]
  decide

theorem member?_congr {response other : Response} (hbody : response.body = other.body)
    (name : String) : response.member? name = other.member? name := by
  simp only [member?, json?, hbody]

end Http.Response

namespace Rejection

variable {rejection : Rejection} {named : Option String} {answer : Response}

theorem canonical_details {details : Json} (h : rejection.details = some details) :
    details.Canonical := by
  cases rejection with
  | payloadTooLarge limit declared observed =>
      rw [← Option.some.inj h]
      refine Json.canonical_ofMembers fun member hmember => ?_
      simp only [optional, List.mem_cons, List.mem_append, Option.mem_toList,
        Option.map_eq_some_iff] at hmember
      rcases hmember with rfl | ⟨length, -, rfl⟩ | ⟨length, -, rfl⟩ <;> trivial
  | rateLimited limit backend =>
      rw [← Option.some.inj h]
      refine Json.canonical_ofMembers fun member hmember => ?_
      simp only [List.mem_cons, List.not_mem_nil, or_false] at hmember
      rcases hmember with rfl | rfl | rfl <;> trivial
  | badRequest message => cases h
  | unauthorized => cases h
  | forbidden => cases h
  | internal => cases h

theorem canonical_body (rejection : Rejection) (named : Option String) :
    (rejection.body named).Canonical := by
  refine Json.canonical_ofMembers fun member hmember => ?_
  simp only [List.mem_append, List.mem_cons, List.not_mem_nil, or_false, Option.mem_toList,
    Option.map_eq_some_iff] at hmember
  rcases hmember with ((rfl | rfl | rfl) | ⟨id, -, rfl⟩) | ⟨details, hdetails, rfl⟩
  any_goals trivial
  exact canonical_details hdetails

theorem member?_body (asked : String) :
    (rejection.body named).member? asked =
      if asked = "details" ∧ rejection.details.isSome then rejection.details
      else if asked = "request_id" ∧ named.isSome then named.map .string
      else if asked = "error" ∨ asked = "message" then some (.string rejection.message)
      else if asked = "code" then some (.string rejection.code)
      else none := by
  rw [body, Json.member?_ofMembers]
  cases named <;> cases rejection.details <;>
    simp [Json.get?_cons, ite_or]

-- The answer is this rejection in the form in which a client is given it. It says what
-- request it is for if it has been told.
structure Renders (rejection : Rejection) (named : Option String) (answer : Response) : Prop where
  status : answer.status = rejection.status
  body : answer.body = (rejection.body named).print.toUTF8

theorem body_response (rejection : Rejection) (named : Option String) :
    (rejection.response named).body = (rejection.body named).print.toUTF8 := by
  simp only [response]
  split <;> rfl

theorem renders_response (rejection : Rejection) (named : Option String) :
    rejection.Renders named (rejection.response named) :=
  ⟨Server.status_response rejection named, body_response rejection named⟩

theorem Renders.member? (h : rejection.Renders named answer) (asked : String) :
    answer.member? asked = (rejection.body named).member? asked := by
  rw [Response.member?, Response.json?_of_print (canonical_body rejection named) h.body,
    Option.bind_some]

theorem Renders.request_id (h : rejection.Renders named answer) :
    answer.member? "request_id" = named.map .string := by
  rw [h.member?, member?_body]
  cases named <;> simp

theorem Renders.message (h : rejection.Renders named answer) :
    answer.member? "message" = some (.string rejection.message) := by
  rw [h.member?, member?_body]
  simp

end Rejection

end AdmissionControl
