import AdmissionControl.Http.Method
import AdmissionControl.Json.Value
import AdmissionControl.Settings.Basic
import AdmissionControl.Text.Split

namespace AdmissionControl.Access

open Http Text

-- What a token says about its bearer.
abbrev Claims := Json.Members

-- The request carries no token that is accepted, or one that is accepted but
-- does not reach far enough.
inductive Denial where
  | unauthorized
  | forbidden
deriving DecidableEq

def Denial.message : Denial → String
  | .unauthorized => "unauthorized"
  | .forbidden => "forbidden"

-- The scope that each class of methods needs, and the role that needs none.
structure ScopePolicy where
  read : Option String
  write : Option String
  delete : Option String
  adminRole : Option String

namespace ScopePolicy

def ofSettings (s : AccessSettings) : ScopePolicy where
  read := nonBlank? s.scopeRead
  write := nonBlank? s.scopeWrite
  delete := nonBlank? s.scopeDelete
  adminRole := nonBlank? s.adminRole

def required (policy : ScopePolicy) (method : Method) : Option String :=
  if method = .get ∨ method = .head then policy.read
  else if method = .post ∨ method = .put ∨ method = .patch then policy.write
  else if method = .delete then policy.delete
  else none

end ScopePolicy

namespace Claims

def nonBlankItems (items : List Json) : List String :=
  items.filterMap fun item => item.text?.bind nonBlank?

-- The names that a claim holds. A text under `scope` is a list of words, any
-- other text is one name, and an array holds the names among its items.
def names (key : String) : Json → List String
  | .string text =>
    if key = "scope" then (words text.toList).map String.ofList else (nonBlank? text).toList
  | .array items => nonBlankItems items
  | _ => []

def namesUnder (keys : List String) (claims : Claims) : List String :=
  keys.flatMap fun key => ((Json.Members.get? key claims).map (names key)).getD []

def roles (claims : Claims) : List String := namesUnder ["role", "roles"] claims

def scopes (claims : Claims) : List String := namesUnder ["scope", "scopes"] claims

end Claims

-- Whether the claims reach as far as the method needs.
def ScopePolicy.allows (policy : ScopePolicy) (method : Method) (claims : Claims) : Bool :=
  match policy.required method with
  | none => true
  | some scope =>
    policy.adminRole.any (Claims.roles claims).contains || (Claims.scopes claims).contains scope

def ScopePolicy.authorize (policy : ScopePolicy) (method : Method) (claims : Claims) :
    Except Denial Unit :=
  if policy.allows method claims then .ok () else .error .forbidden

end AdmissionControl.Access
