import AdmissionControl.Http.Message
import AdmissionControl.Rejection
import AdmissionControl.Text.Blank
import AdmissionControl.Text.Digits

namespace AdmissionControl.BodyGuard

open Http Text

-- Which bodies are guarded, and how many bytes each may have.
structure Policy where
  limit : UInt64
  root : String

namespace Policy

-- Writes to paths under the root are guarded.
def appliesTo (policy : Policy) (method : Method) (path : String) : Bool :=
  (method = .post ∨ method = .put ∨ method = .patch) &&
    policy.root.toList.isPrefixOf path.toList

-- A length is a decimal number of at most 64 bits, with blanks around it and
-- perhaps a plus sign. A blank value is as good as none.
def declaredLength (policy : Policy) (headers : Headers) : Except Rejection (Option UInt64) :=
  match headers.first? "content-length" with
  | none => .ok none
  | some value =>
    match Field.text? value with
    | none => .error .invalidContentLength
    | some text =>
      let digits := trimChars text
      if digits.isEmpty then .ok none
      else
        match natOfSigned? digits with
        | none => .error .invalidContentLength
        | some n =>
          if UInt64.size ≤ n then .error .invalidContentLength
          else if policy.limit < n.toUInt64 then
            .error (.payloadTooLarge policy.limit (some n.toUInt64) none)
          else .ok (some n.toUInt64)

end Policy

end AdmissionControl.BodyGuard
