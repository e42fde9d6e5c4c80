import AdmissionControl.Proofs.BodyGuard.Declared
import AdmissionControl.Proofs.BodyGuard.Observed
import AdmissionControl.Proofs.Json.Members
import Mathlib.Logic.Function.Iterate

namespace AdmissionControl

open Http

-- What the details of a refusal say under a name.
def Rejection.detail? (name : String) (rejection : Rejection) : Option Json :=
  rejection.details.bind (Json.member? name)

section

variable (limit : UInt64) (declared observed : Option UInt64)

theorem Rejection.detail?_limit :
    (payloadTooLarge limit declared observed).detail? "max_request_body_bytes" =
      some (.integer limit.toNat) := by
  cases declared <;> cases observed <;>
    simp [detail?, details, optional, Json.member?_ofMembers, Json.get?_cons]

theorem Rejection.detail?_declared :
    (payloadTooLarge limit declared observed).detail? "content_length" =
      declared.map fun n => .integer n.toNat := by
  cases declared <;> cases observed <;>
    simp [detail?, details, optional, Json.member?_ofMembers, Json.get?_cons]

theorem Rejection.detail?_observed :
    (payloadTooLarge limit declared observed).detail? "request_body_bytes" =
      observed.map fun n => .integer n.toNat := by
  cases declared <;> cases observed <;>
    simp [detail?, details, optional, Json.member?_ofMembers, Json.get?_cons]

end

namespace BodyGuard

-- The length that a request gives for its body, if its first field for that has a number.
def Announces (headers : Headers) (n : Nat) : Prop :=
  ∃ value, headers.Leads "content-length" value ∧ Declares value n

theorem Announces.unique {headers : Headers} {n m : Nat} (h : Announces headers n)
    (h' : Announces headers m) : n = m := by
  obtain ⟨value, hleads, hn⟩ := h
  obtain ⟨other, hother, hm⟩ := h'
  obtain rfl : value = other := Option.some.inj
    ((Headers.first?_eq_some_iff.mpr hleads).symm.trans (Headers.first?_eq_some_iff.mpr hother))
  exact hn.unique hm

-- A refusal for the length that is given: it is above the limit, and no byte has been seen.
structure DeclaredOver (limit : UInt64) (headers : Headers) (rejection : Rejection) : Prop where
  declared : ∃ n, Announces headers n ∧ limit.toNat < n ∧
    rejection.detail? "content_length" = some (.integer n)
  unseen : rejection.detail? "request_body_bytes" = none

-- A refusal for the bytes that have been taken: they are more than the limit, and a length is
-- told beside them if one is given, which is then within the limit.
structure StreamedOver (limit : UInt64) (headers : Headers) (taken : Body)
    (rejection : Rejection) : Prop where
  observed : rejection.detail? "request_body_bytes" = some (.integer (byteCount taken))
  above : limit.toNat < byteCount taken
  declared (n : Nat) (h : Announces headers n) :
    rejection.detail? "content_length" = some (.integer n) ∧ n ≤ limit.toNat
  undeclared (h : ∀ n, ¬Announces headers n) : rejection.detail? "content_length" = none

-- No refusal is of both kinds.
theorem DeclaredOver.not_streamedOver {limit : UInt64} {headers : Headers} {taken : Body}
    {rejection : Rejection} (h : DeclaredOver limit headers rejection) :
    ¬StreamedOver limit headers taken rejection := by
  intro hstreamed
  have hseen := hstreamed.observed
  rw [h.unseen] at hseen
  cases hseen

namespace Policy

variable {policy : Policy} {request : Request} {headers : Headers} {declared : Option UInt64}
variable {rejection : Rejection} {source : Source} {taken : Body}

-- The refusals for size that can come of a request, with what has been taken of its body by
-- then: one before the body is read, or one after some reads of what the guard lets in.
inductive Refuses (policy : Policy) (request : Request) : Body → Rejection → Prop where
  | entering {rejection : Rejection} (h : policy.enter request = .error rejection)
      (hsize : rejection.status = 413) : Refuses policy request [] rejection
  | reading {source after : Source} {rejection : Rejection} (reads : Nat)
      (h : policy.enter request = .ok source)
      (hafter : after = (fun source => source.read.2.1)^[reads] source)
      (hoverflow : after.rejection? = some rejection) :
      Refuses policy request (after.taken request.body) rejection

theorem declaredLength_of_enter_error (h : policy.enter request = .error rejection) :
    policy.declaredLength request.headers = .error rejection := by
  unfold enter at h
  split at h
  · cases hlength : policy.declaredLength request.headers with
    | error refusal =>
        rw [hlength] at h
        cases h
        rfl
    | ok declared =>
        rw [hlength] at h
        cases h
  · cases h

theorem eq_of_enter_ok (h : policy.enter request = .ok source) :
    source = .unguarded request.body ∨
    ∃ declared, policy.declaredLength request.headers = .ok declared ∧
      source = .guarded (.start policy.limit declared request.body) := by
  unfold enter at h
  split at h
  · cases hlength : policy.declaredLength request.headers with
    | error refusal =>
        rw [hlength] at h
        cases h
    | ok declared =>
        rw [hlength] at h
        cases h
        exact Or.inr ⟨declared, rfl, rfl⟩
  · cases h
    exact Or.inl rfl

-- A length is refused for its size only if it is a number, and then that number is told.
theorem exists_announced_of_too_large (herror : policy.declaredLength headers = .error rejection)
    (hsize : rejection.status = 413) :
    ∃ n, Announces headers n ∧ policy.limit.toNat < n ∧ n < UInt64.size ∧
      rejection = .payloadTooLarge policy.limit (some n.toUInt64) none := by
  cases hfirst : headers.first? "content-length" with
  | none =>
      rw [declaredLength_of_absent hfirst] at herror
      cases herror
  | some value =>
      have hleads := Headers.first?_eq_some_iff.mp hfirst
      rcases declaredLength_of_first hfirst policy with
        ⟨-, hok⟩ | ⟨n, -, -, hok⟩ | ⟨hblank, habove, -⟩
      · rw [hok] at herror
        cases herror
      · rw [hok] at herror
        cases herror
      · by_cases hdeclares : ∃ n, Declares value n
        · obtain ⟨n, h⟩ := hdeclares
          rw [declaredLength_of_above hfirst h (habove n h)] at herror
          split at herror
          · rename_i hsmall
            cases herror
            exact ⟨n, ⟨value, hleads, h⟩, habove n h, hsmall, rfl⟩
          · cases herror
            cases hsize
        · rw [declaredLength_of_neither hfirst hblank hdeclares] at herror
          cases herror
          cases hsize

-- What the guard keeps of the length is what the request gives.
theorem announces_of_some {length : UInt64}
    (hok : policy.declaredLength headers = .ok (some length)) :
    Announces headers length.toNat ∧ length ≤ policy.limit := by
  cases hfirst : headers.first? "content-length" with
  | none =>
      rw [declaredLength_of_absent hfirst] at hok
      cases hok
  | some value =>
      obtain ⟨hdeclares, hwithin⟩ := (declaredLength_eq_some_iff hfirst length).mp hok
      exact ⟨⟨value, Headers.first?_eq_some_iff.mp hfirst, hdeclares⟩, hwithin⟩

theorem not_announces_of_none (hok : policy.declaredLength headers = .ok none) (n : Nat) :
    ¬Announces headers n := by
  rintro ⟨value, hleads, hdeclares⟩
  have hblank := (declaredLength_eq_none_iff (Headers.first?_eq_some_iff.mpr hleads)).mp hok
  exact hdeclares.not_blank hblank

theorem tallied_iterate {limit : UInt64} {body : Body} (reads : Nat)
    (h : Source.Tallied limit declared body source) :
    Source.Tallied limit declared body ((fun source => source.read.2.1)^[reads] source) := by
  induction reads generalizing source with
  | zero => exact h
  | succ reads ih => exact ih h.read

theorem rejection?_iterate_unguarded (reads : Nat) (body : Body) :
    ((fun source => source.read.2.1)^[reads] (Source.unguarded body)).rejection? = none := by
  induction reads generalizing body with
  | zero => rfl
  | succ reads ih =>
      rw [Function.iterate_succ_apply]
      cases body with
      | nil => exact ih []
      | cons item rest => exact ih rest

theorem exists_rejection_of_reading {after : Source} (reads : Nat)
    (h : policy.enter request = .ok source)
    (hafter : after = (fun source => source.read.2.1)^[reads] source)
    (hoverflow : after.rejection? = some rejection)
    (hcountable : Countable policy.limit (after.taken request.body)) :
    ∃ declared, policy.declaredLength request.headers = .ok declared ∧
      policy.limit.toNat < byteCount (after.taken request.body) ∧
      ∃ observed : UInt64, observed.toNat = byteCount (after.taken request.body) ∧
        rejection = .payloadTooLarge policy.limit declared (some observed) := by
  rcases eq_of_enter_ok h with rfl | ⟨declared, hlength, rfl⟩
  · rw [hafter, rejection?_iterate_unguarded] at hoverflow
    cases hoverflow
  · have hstart : Source.Tallied policy.limit declared request.body
        (.guarded (.start policy.limit declared request.body)) :=
      ⟨_, [], rfl, Stream.tallied_start ..⟩
    have htallied := tallied_iterate reads hstart
    rw [← hafter] at htallied
    obtain ⟨observed, hobserved, hrejection⟩ := htallied.rejection?_eq hcountable
    rw [hoverflow] at hrejection
    split at hrejection
    · rename_i habove
      exact ⟨declared, hlength, habove, observed, hobserved, Option.some.inj hrejection⟩
    · cases hrejection

theorem streamedOver_of_length {observed : UInt64}
    (hlength : policy.declaredLength request.headers = .ok declared)
    (habove : policy.limit.toNat < byteCount taken) (hobserved : observed.toNat = byteCount taken) :
    StreamedOver policy.limit request.headers taken
      (.payloadTooLarge policy.limit declared (some observed)) := by
  refine ⟨?_, habove, fun n hn => ?_, fun hnone => ?_⟩
  · rw [Rejection.detail?_observed, Option.map_some, hobserved]
  · cases declared with
    | none => exact absurd hn (not_announces_of_none hlength n)
    | some length =>
        obtain ⟨hannounced, hwithin⟩ := announces_of_some hlength
        obtain rfl := hannounced.unique hn
        exact ⟨Rejection.detail?_declared .., UInt64.le_iff_toNat_le.mp hwithin⟩
  · cases declared with
    | none => exact Rejection.detail?_declared ..
    | some length => exact absurd (announces_of_some hlength).1 (hnone _)

-- Whatever is refused for its size is told the limit, and either a length above the limit that
-- it has given itself, or the bytes above the limit that have been taken of it. The second is
-- told with the length that was given, if one was, and the first without any bytes.
theorem evidence_truthful (h : policy.Refuses request taken rejection)
    (hcountable : Countable policy.limit taken) :
    rejection.status = 413 ∧
    rejection.detail? "max_request_body_bytes" = some (.integer policy.limit.toNat) ∧
    Xor (DeclaredOver policy.limit request.headers rejection)
      (StreamedOver policy.limit request.headers taken rejection) := by
  cases h with
  | entering h hsize =>
      obtain ⟨n, hannounced, habove, hsmall, rfl⟩ :=
        exists_announced_of_too_large (declaredLength_of_enter_error h) hsize
      have hvalue : n.toUInt64.toNat = n := UInt64.toNat_ofNat_of_lt hsmall
      have hdeclared : DeclaredOver policy.limit request.headers
          (.payloadTooLarge policy.limit (some n.toUInt64) none) := by
        refine ⟨⟨n, hannounced, habove, ?_⟩, ?_⟩
        · rw [Rejection.detail?_declared, Option.map_some, hvalue]
        · rw [Rejection.detail?_observed]
          rfl
      exact ⟨rfl, Rejection.detail?_limit .., Or.inl ⟨hdeclared, hdeclared.not_streamedOver⟩⟩
  | reading reads h hafter hoverflow =>
      obtain ⟨declared, hlength, habove, observed, hobserved, rfl⟩ :=
        exists_rejection_of_reading reads h hafter hoverflow hcountable
      have hstreamed := streamedOver_of_length hlength habove hobserved
      exact ⟨rfl, Rejection.detail?_limit ..,
        Or.inr ⟨hstreamed, fun hdeclared => hdeclared.not_streamedOver hstreamed⟩⟩

-- Five bytes in two chunks where four are allowed and three were announced.
theorem evidence_truthful_of_understated :
    let policy : Policy := ⟨4, "/api/"⟩
    let request : Request := ⟨.post, ⟨"/api/items"⟩, [⟨"content-length", [51]⟩],
      [.chunk ⟨#[1, 2, 3]⟩, .chunk ⟨#[4, 5]⟩, .chunk ⟨#[6]⟩], none⟩
    let rejection : Rejection := .payloadTooLarge 4 (some 3) (some 5)
    policy.Refuses request (request.body.take 2) rejection ∧
    rejection.detail? "max_request_body_bytes" = some (.integer 4) ∧
    StreamedOver 4 request.headers (request.body.take 2) rejection := by
  intro policy request rejection
  have happlies : policy.appliesTo request.method request.target.path = true := by decide
  have hlength : policy.declaredLength request.headers = .ok (some 3) := rfl
  have henter : policy.enter request = .ok (.guarded (.start 4 (some 3) request.body)) := by
    unfold enter
    rw [if_pos happlies, hlength]
    rfl
  have hrefuses : policy.Refuses request (request.body.take 2) rejection := by
    have hread := Refuses.reading 2 henter rfl (show _ = some rejection from rfl)
    exact hread
  have hcountable : Countable 4 (request.body.take 2) := by
    refine countable_of_small (by decide) fun bytes hb => ?_
    simp only [request, List.take_succ_cons, List.take_zero, List.mem_cons, BodyItem.chunk.injEq,
      List.not_mem_nil, or_false] at hb
    rcases hb with rfl | rfl <;> decide
  obtain ⟨-, hlimit, ⟨hdeclared, -⟩ | ⟨hstreamed, -⟩⟩ := evidence_truthful hrefuses hcountable
  · exact absurd hdeclared.unseen (by simp [rejection, Rejection.detail?_observed])
  · exact ⟨hrefuses, hlimit, hstreamed⟩

end Policy

end BodyGuard

end AdmissionControl
