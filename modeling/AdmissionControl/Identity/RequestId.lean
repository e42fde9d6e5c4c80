import AdmissionControl.Http.Headers
import AdmissionControl.Text.Blank

namespace AdmissionControl.Identity

open Http

-- The identity of one request.
structure RequestId where
  text : String
  callerSupplied : Bool

namespace RequestId

def header : String := "x-request-id"

-- The longest identity that is taken from a caller.
def longest : Nat := 128

-- A caller's identity is readable, not blank and not too long.
def ofCaller? (headers : Headers) : Option (List Char) :=
  ((headers.text? header).map Text.trimChars).filter fun id =>
    !id.isEmpty && id.length ≤ longest

-- The caller's identity, or else one that was made up for the request.
def ofHeaders (headers : Headers) (generated : String) : RequestId :=
  match ofCaller? headers with
  | some id => ⟨String.ofList id, true⟩
  | none => ⟨generated, false⟩

end RequestId

end AdmissionControl.Identity
