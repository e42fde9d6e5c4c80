import AdmissionControl.Pipeline
import AdmissionControl.Proofs.Identity.Accepted
import AdmissionControl.Proofs.Text.Pieces

namespace AdmissionControl

namespace Access

open Http Identity Text

-- The token that a request presents: the first value of the field is readable, names the
-- scheme in any case, and has this text behind a space, without the blanks at either end.
structure Presents (headers : Headers) (token : String) : Prop where
  value : ∃ octets scheme rest, headers.first? "authorization" = some octets ∧
    (∀ octet ∈ octets, Field.isTextOctet octet = true) ∧
    octets.map (fun octet => Char.ofNat octet.toNat) = scheme ++ ' ' :: rest ∧
    scheme.map Char.toLower = "bearer".toList ∧ Trimmed rest token.toList
  nonempty : token ≠ ""

-- The claims of the token that a request presents, if it presents one that is accepted.
def Vouched (validate : TokenValidator) (headers : Headers) (claims : Claims) : Prop :=
  ∃ token, Presents headers token ∧ validate token = .ok claims

-- The claims reach as far as the method needs.
def ScopePolicy.Grants (policy : ScopePolicy) (method : Method) (claims : Claims) : Prop :=
  ∀ scope, policy.required method = some scope →
    (∃ role, policy.adminRole = some role ∧ role ∈ Claims.roles claims) ∨
      scope ∈ Claims.scopes claims

variable {headers : Headers} {token : String} {claims : Claims} {method : Method}
variable {validate : TokenValidator} {policy : ScopePolicy}

theorem ScopePolicy.allows_iff :
    policy.allows method claims = true ↔ policy.Grants method claims := by
  cases hrequired : policy.required method with
  | none => simp [allows, Grants, hrequired]
  | some scope => simp [allows, Grants, hrequired, Option.any_eq_true]

theorem space_not_mem_scheme {scheme : List Char}
    (hscheme : scheme.map Char.toLower = "bearer".toList) : ' ' ∉ scheme := by
  intro hspace
  have hmem : ' ' ∈ scheme.map Char.toLower := List.mem_map.mpr ⟨' ', hspace, rfl⟩
  rw [hscheme] at hmem
  exact absurd hmem (by decide)

theorem bearerToken?_eq_some_iff :
    bearerToken? headers = some token.toList ↔ Presents headers token := by
  simp only [bearerToken?, Headers.text?, Option.bind_eq_bind, Option.bind_eq_some_iff,
    RequestId.text?_eq_some_iff, Prod.exists, cutAt?_eq_some_iff, Option.ite_none_right_eq_some,
    Option.some.injEq]
  constructor
  · rintro ⟨_, ⟨octets, hfirst, hreadable, rfl⟩, scheme, rest, ⟨hvalue, -⟩, ⟨hscheme, hne⟩, htrim⟩
    have htrimmed : Trimmed rest token.toList := htrim ▸ trimmed_trimChars rest
    refine ⟨⟨octets, scheme, rest, hfirst, hreadable, hvalue, hscheme, htrimmed⟩, fun h => hne ?_⟩
    rw [htrim, h]
    rfl
  · rintro ⟨⟨octets, scheme, rest, hfirst, hreadable, hvalue, hscheme, htrimmed⟩, hne⟩
    have htrim := htrimmed.eq_trimChars.symm
    refine ⟨_, ⟨octets, hfirst, hreadable, rfl⟩, scheme, rest,
      ⟨hvalue, space_not_mem_scheme hscheme⟩, ⟨hscheme, fun h => hne ?_⟩, htrim⟩
    exact String.toList_eq_nil_iff.mp (htrim.symm.trans h)

namespace Control

-- What is vouched for is judged by how far it reaches, and nothing else is accepted.
theorem check_of_vouched (h : Vouched validate headers claims) (policy : ScopePolicy)
    (method : Method) :
    ((Control.bearer validate policy).check method headers).1 =
      (policy.authorize method claims).map fun _ => some claims := by
  obtain ⟨token, hpresents, haccepted⟩ := h
  simp only [check, bearerToken?_eq_some_iff.mpr hpresents, String.ofList_toList, haccepted]

theorem check_of_not_vouched (hnone : ¬∃ claims, Vouched validate headers claims)
    (policy : ScopePolicy) (method : Method) :
    ((Control.bearer validate policy).check method headers).1 = .error .unauthorized := by
  cases htoken : bearerToken? headers with
  | none => simp only [check, htoken]
  | some chars =>
      have hpresents : Presents headers (String.ofList chars) :=
        bearerToken?_eq_some_iff.mp (by rw [htoken, String.toList_ofList])
      cases hvalidate : validate (String.ofList chars) with
      | error reason => simp only [check, htoken, hvalidate]
      | ok claims => exact absurd ⟨claims, _, hpresents, hvalidate⟩ hnone

end Control

end Access

namespace Pipeline

open Access Http Identity

variable {pipeline : Pipeline} {validate : TokenValidator} {policy : ScopePolicy}
variable {headers : Headers} {claims : Claims}

-- A pipeline that asks for tokens has someone who knows them.
theorem access_of_assemble {s : Settings} {validator : Option TokenValidator}
    (h : assemble s validator = .ok pipeline) (hrequired : s.access.requireToken = true) :
    ∃ validate, validator = some validate ∧
      pipeline.access = .bearer validate (.ofSettings s.access) := by
  simp only [assemble, bind, Except.bind, accessOf, hrequired] at h
  cases htrusted : TrustedProxies.parse s.security.trustedProxies with
  | error entry => simp [htrusted, Except.mapError] at h
  | ok trusted =>
      cases validator with
      | none => simp [htrusted, Except.mapError] at h
      | some validate =>
          refine ⟨validate, rfl, ?_⟩
          simp only [htrusted, Except.mapError] at h
          cases h
          rfl

section

variable (haccess : pipeline.access = .bearer validate policy)

include haccess

theorem authorize_of_granted (hvouched : Vouched validate headers claims) {method : Method}
    (hgrants : policy.Grants method claims) :
    (pipeline.authorize method headers).1 = .ok (some claims) := by
  simp only [authorize, haccess, Control.check_of_vouched hvouched, ScopePolicy.authorize,
    if_pos (ScopePolicy.allows_iff.mpr hgrants)]
  rfl

theorem authorize_of_not_granted (hvouched : Vouched validate headers claims) {method : Method}
    (hdenied : ¬policy.Grants method claims) :
    (pipeline.authorize method headers).1 = .error .forbidden := by
  simp only [authorize, haccess, Control.check_of_vouched hvouched, ScopePolicy.authorize,
    if_neg (mt ScopePolicy.allows_iff.mp hdenied)]
  rfl

theorem authorize_of_not_vouched (hnone : ¬∃ claims, Vouched validate headers claims)
    (method : Method) : (pipeline.authorize method headers).1 = .error .unauthorized := by
  simp only [authorize, haccess, Control.check_of_not_vouched hnone]
  rfl

end

end Pipeline

end AdmissionControl
