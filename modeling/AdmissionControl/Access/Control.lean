import AdmissionControl.Access.Scope
import AdmissionControl.Http.Headers
import AdmissionControl.Journal

namespace AdmissionControl.Access

open Http Text

-- Whatever accepts tokens and knows their claims. A refusal has a reason.
abbrev TokenValidator := String → Except String Claims

-- The scheme's name may be in any case. One space ends it.
def bearerToken? (headers : Headers) : Option (List Char) := do
  let value ← headers.text? "authorization"
  let (scheme, rest) ← cutAt? ' ' value
  let token := trimChars rest
  if scheme.map Char.toLower = "bearer".toList ∧ token ≠ [] then some token else none

inductive Control where
  | disabled
  | bearer (validate : TokenValidator) (policy : ScopePolicy)

namespace Control

def isEnabled : Control → Bool
  | .disabled => false
  | .bearer .. => true

-- The claims of an accepted request, unless access is not controlled at all.
def check (control : Control) (method : Method) (headers : Headers) :
    Except Denial (Option Claims) × Journal :=
  match control with
  | .disabled => (.ok none, [])
  | .bearer validate policy =>
    match bearerToken? headers with
    | none => (.error .unauthorized, [])
    | some token =>
      match validate (String.ofList token) with
      | .error reason => (.error .unauthorized, [.event (.tokenRefused reason)])
      | .ok claims => ((policy.authorize method claims).map fun _ => some claims, [])

end Control

-- A validator that knows its tokens and their claims by heart.
def tokenTable (tokens : List (String × Claims)) : TokenValidator := fun token =>
  match tokens.lookup token with
  | some claims => .ok claims
  | none => .error "unknown token"

end AdmissionControl.Access
