import AdmissionControl.Http.Message
import AdmissionControl.Json.Printer
import AdmissionControl.Settings.Basic

namespace AdmissionControl

open Http

-- A refusal of a request, with the numbers that speak for it.
inductive Rejection where
  | badRequest (message : String)
  | unauthorized
  | forbidden
  | payloadTooLarge (limit : UInt64) (declared observed : Option UInt64)
  | rateLimited (limit : Int) (backend : Backend)
  | internal
deriving DecidableEq

namespace Rejection

def invalidContentLength : Rejection := .badRequest "Invalid Content-Length header"

def status : Rejection → Nat
  | .badRequest _ => 400
  | .unauthorized => 401
  | .forbidden => 403
  | .payloadTooLarge .. => 413
  | .rateLimited .. => 429
  | .internal => 500

def code : Rejection → String
  | .badRequest _ => "BAD_REQUEST"
  | .unauthorized => "UNAUTHORIZED"
  | .forbidden => "FORBIDDEN"
  | .payloadTooLarge .. => "PAYLOAD_TOO_LARGE"
  | .rateLimited .. => "RATE_LIMITED"
  | .internal => "INTERNAL_ERROR"

def message : Rejection → String
  | .badRequest message => message
  | .unauthorized => "Unauthorized"
  | .forbidden => "Forbidden"
  | .payloadTooLarge .. => "Payload Too Large"
  | .rateLimited .. => "Too Many Requests"
  | .internal => "Internal Server Error"

def optional (name : String) (n : Option UInt64) : Json.Members :=
  (n.map fun n => (name, Json.integer n.toNat)).toList

def details : Rejection → Option Json
  | .payloadTooLarge limit declared observed =>
    some (Json.ofMembers (
      ("max_request_body_bytes", .integer limit.toNat) ::
        (optional "content_length" declared ++ optional "request_body_bytes" observed)))
  | .rateLimited limit backend =>
    some (Json.ofMembers [
      ("reason", .string "rate_limit_exceeded"),
      ("limit_per_minute", .integer limit),
      ("backend", .string backend.name)])
  | _ => none

-- The message is given twice, once under the name that older clients know.
def body (rejection : Rejection) (requestId : Option String) : Json :=
  Json.ofMembers (
    [("code", .string rejection.code), ("message", .string rejection.message),
      ("error", .string rejection.message)] ++
    (requestId.map fun id => ("request_id", Json.string id)).toList ++
    (rejection.details.map fun details => ("details", details)).toList)

-- Whether a text can stand in a header field.
def isFieldText (text : String) : Bool :=
  text.toList.all fun c => c == '\t' || (0x20 ≤ c.toNat && c.toNat != 0x7F)

-- The identity of the request is repeated in a header if it can stand there.
def response (rejection : Rejection) (requestId : Option String) : Response :=
  let response := Response.json rejection.status (rejection.body requestId).print
  match requestId.filter isFieldText with
  | some id => response.setHeader "x-request-id" id
  | none => response

end Rejection

end AdmissionControl
