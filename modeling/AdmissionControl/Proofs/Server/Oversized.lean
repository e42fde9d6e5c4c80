import AdmissionControl.Proofs.BodyGuard.Declared
import AdmissionControl.Proofs.Server.Accounts

namespace AdmissionControl.Server

open BodyGuard Http Identity Text

namespace Service

variable {σ : Type}

-- A request that the guard turns back for its length. Whatever its body is, the same comes of
-- it, and nothing is counted. If there is time for an answer, the answer is the refusal.
structure TurnedBack (service : Service σ) (counting : Counting σ) (clock : Clock)
    (generatedId : String) (request : Request) (refusal : Rejection) : Prop where
  guard : (service.pipeline.guardBody request).1 = .error refusal
  unread (body : Body) :
    service.respond counting clock generatedId { request with body } =
      service.respond counting clock generatedId request
  uncounted : (service.respond counting clock generatedId request).counting = counting
  answer (htime : service.timeout.nanos ≠ 0) :
    refusal.Renders (some (RequestId.ofHeaders request.headers generatedId).text)
      (service.respond counting clock generatedId request).answer

variable {service : Service σ} {counting : Counting σ} {clock : Clock} {generatedId : String}
variable {request : Request} {refusal : Rejection}

theorem respond_of_error {journal : Journal}
    (hguard : service.pipeline.guardBody request = (.error refusal, journal)) :
    let id := (RequestId.ofHeaders request.headers generatedId).text
    let untimed : Prop := service.timeout.nanos = 0
    let answer := if untimed then .empty 408 else refusal.response (some id)
    service.respond counting clock generatedId request =
      ⟨service.leaving request (answer.setHeader RequestId.header id), counting,
        if untimed then [] else journal⟩ := by
  intro id untimed answer
  have harrival : service.pipeline.guardBody (arrivalAt clock generatedId request).request =
      (.error refusal, journal) := hguard
  simp only [respond_eq, timed, guarded_of_error harrival, untimed, answer]
  split <;> rfl

theorem turnedBack_of_declaredLength
    (hguarded : service.pipeline.bodyPolicy.appliesTo request.method request.target.path = true)
    (hrefused : service.pipeline.bodyPolicy.declaredLength request.headers = .error refusal) :
    service.TurnedBack counting clock generatedId request refusal := by
  obtain ⟨journal, hguard⟩ : ∃ journal, ∀ body,
      service.pipeline.guardBody { request with body } = (.error refusal, journal) := by
    simp only [Pipeline.guardBody, Policy.enter, hguarded, hrefused, if_true, Except.map]
    exact ⟨_, fun _ => rfl⟩
  have hrefusal : (service.pipeline.guardBody request).1 = .error refusal :=
    congrArg Prod.fst (hguard request.body)
  refine ⟨hrefusal, fun body => ?_, ?_, fun htime => ?_⟩
  · rw [respond_of_error (hguard body), respond_of_error (hguard request.body)]
    rfl
  · rw [respond_of_error (hguard request.body)]
  · have hrenders := refusal.renders_response
      (some (RequestId.ofHeaders request.headers generatedId).text)
    rw [respond_of_error (hguard request.body)]
    simp only [if_neg htime]
    exact (leaves_leaving service request _).renders (method_of_guarded hrefusal)
      ⟨hrenders.status, hrenders.body⟩

theorem turnedBack_of_digits {value : Octets} {digits : List Char} {n : Nat}
    (hguarded : service.pipeline.bodyPolicy.appliesTo request.method request.target.path = true)
    (hleads : request.headers.Leads "content-length" value) (hpadded : Padded value digits)
    (hdecimal : Decimal digits n) (hlarge : service.pipeline.bodyPolicy.limit.toNat < n) :
    service.TurnedBack counting clock generatedId request
      (if n < UInt64.size then
        .payloadTooLarge service.pipeline.bodyPolicy.limit (some n.toUInt64) none
      else .invalidContentLength) := by
  have hdeclares : Declares value n := ⟨[], digits, hpadded, Or.inl rfl, hdecimal⟩
  have hfirst := Headers.first?_eq_some_iff.mpr hleads
  exact turnedBack_of_declaredLength hguarded
    (Policy.declaredLength_of_above hfirst hdeclares hlarge)

-- What a guarded request is told for a length in digits above the limit goes by how large it
-- is: up to 64 bits that it is too large, and from there on that it is no length at all.
theorem oversized_digits_refused (service : Service σ) (counting : Counting σ) (clock : Clock)
    (generatedId : String) (request : Request) {value : Octets} {digits : List Char} {n : Nat}
    (hguarded : service.pipeline.bodyPolicy.appliesTo request.method request.target.path = true)
    (hleads : request.headers.Leads "content-length" value) (hpadded : Padded value digits)
    (hdecimal : Decimal digits n) :
    let limit := service.pipeline.bodyPolicy.limit
    let status := (service.respond counting clock generatedId request).answer.status
    (limit.toNat < n → n < UInt64.size →
      service.TurnedBack counting clock generatedId request
        (.payloadTooLarge limit (some n.toUInt64) none)) ∧
    (UInt64.size ≤ n →
      service.TurnedBack counting clock generatedId request .invalidContentLength) ∧
    (service.timeout.nanos ≠ 0 → limit.toNat < n →
      (status = 413 ↔ n < UInt64.size) ∧ (status = 400 ↔ UInt64.size ≤ n)) ∧
    (n ≤ limit.toNat → (service.pipeline.guardBody request).1 =
      .ok (.guarded (.start limit (some n.toUInt64) request.body))) := by
  intro limit status
  have hback (hlarge : limit.toNat < n) : service.TurnedBack counting clock generatedId request _ :=
    turnedBack_of_digits hguarded hleads hpadded hdecimal hlarge
  refine ⟨fun hlarge hsmall => ?_, fun hhuge => ?_, fun htime hlarge => ?_, fun hwithin => ?_⟩
  · have h := hback hlarge
    rwa [if_pos hsmall] at h
  · have h := hback (Nat.lt_of_lt_of_le limit.toNat_lt hhuge)
    rwa [if_neg (Nat.not_lt.mpr hhuge)] at h
  · have hstatus : status = _ := ((hback hlarge).answer htime).status
    by_cases hsmall : n < UInt64.size
    · have hhuge : ¬UInt64.size ≤ n := Nat.not_le.mpr hsmall
      simp [hstatus, Rejection.status, hsmall, hhuge]
    · have hhuge : UInt64.size ≤ n := Nat.le_of_not_lt hsmall
      simp [hstatus, Rejection.status, Rejection.invalidContentLength, hsmall, hhuge]
  · have hdeclares : Declares value n := ⟨[], digits, hpadded, Or.inl rfl, hdecimal⟩
    have hfirst := Headers.first?_eq_some_iff.mpr hleads
    rw [guardBody_of_admitted hguarded
      (Policy.declaredLength_of_within hfirst hdeclares hwithin)]

-- The sample archive with a limit of 64 bytes, and a write to it that declares its length so.
def smallArchive : Service Unit :=
  { archive with pipeline := ⟨.none, ⟨64, "/api/"⟩, .disabled⟩ }

def declaring (text : String) : Request :=
  ⟨.post, ⟨"/api/items"⟩, [⟨"content-length", text.toList.map (·.toNat.toUInt8)⟩], [], none⟩

theorem guarded_declaring (text : String) :
    smallArchive.pipeline.bodyPolicy.appliesTo (declaring text).method
      (declaring text).target.path = true := by
  have hitems : smallArchive.pipeline.bodyPolicy.appliesTo .post "/api/items" = true := by decide
  exact hitems

theorem leads_declaring (text : String) :
    (declaring text).headers.Leads "content-length" (text.toList.map (·.toNat.toUInt8)) :=
  ⟨[], [], rfl, nofun⟩

theorem decimal_of_64_bits : Decimal "18446744073709551616".toList UInt64.size :=
  natOfDigits?_eq_some_iff.mp (by decide)

theorem oversized_digits_refused_around_64_bits :
    let status (text : String) :=
      (smallArchive.respond uncounted ⟨0, 0⟩ "a" (declaring text)).answer.status
    status "\t065 " = 413 ∧ status "18446744073709551615" = 413 ∧
    status "18446744073709551616" = 400 ∧
    (smallArchive.pipeline.guardBody (declaring "64")).1 =
      .ok (.guarded (.start 64 (some 64) [])) := by
  intro status
  have htime : smallArchive.timeout.nanos ≠ 0 := by decide
  have habove : Decimal "065".toList 65 := natOfDigits?_eq_some_iff.mp (by decide)
  have hlargest : Decimal "18446744073709551615".toList 18446744073709551615 :=
    natOfDigits?_eq_some_iff.mp (by decide)
  have hlimit : Decimal "64".toList 64 := natOfDigits?_eq_some_iff.mp (by decide)
  obtain ⟨-, -, hfirst, -⟩ := oversized_digits_refused smallArchive uncounted ⟨0, 0⟩ "a" _
    (guarded_declaring "\t065 ") (leads_declaring _) ⟨['\t'], [' '], rfl, by simp⟩ habove
  obtain ⟨-, -, hsecond, -⟩ := oversized_digits_refused smallArchive uncounted ⟨0, 0⟩ "a" _
    (guarded_declaring "18446744073709551615") (leads_declaring _) ⟨[], [], rfl, nofun⟩ hlargest
  obtain ⟨-, -, hthird, -⟩ := oversized_digits_refused smallArchive uncounted ⟨0, 0⟩ "a" _
    (guarded_declaring "18446744073709551616") (leads_declaring _) ⟨[], [], rfl, nofun⟩
    decimal_of_64_bits
  obtain ⟨-, -, -, hfourth⟩ := oversized_digits_refused smallArchive uncounted ⟨0, 0⟩ "a" _
    (guarded_declaring "64") (leads_declaring _) ⟨[], [], rfl, nofun⟩ hlimit
  exact ⟨(hfirst htime (by decide)).1.mpr (by decide),
    (hsecond htime (by decide)).1.mpr (by decide),
    (hthird htime (by decide)).2.mpr (Nat.le_refl _), hfourth (by decide)⟩

-- So there are lengths above the limit that a client is told are none.
theorem oversized_digits_not_all_too_large :
    ¬∀ (σ : Type) (service : Service σ) (counting : Counting σ) (clock : Clock)
      (generatedId : String) (request : Request) (value : Octets) (digits : List Char) (n : Nat),
      service.timeout.nanos ≠ 0 →
      service.pipeline.bodyPolicy.appliesTo request.method request.target.path = true →
      request.headers.Leads "content-length" value → Padded value digits → Decimal digits n →
      service.pipeline.bodyPolicy.limit.toNat < n →
      (service.respond counting clock generatedId request).answer.status = 413 := by
  intro hall
  let request := declaring "18446744073709551616"
  have hpadded : Padded ("18446744073709551616".toList.map (·.toNat.toUInt8))
      "18446744073709551616".toList := ⟨[], [], rfl, nofun⟩
  have hlarge : smallArchive.pipeline.bodyPolicy.limit.toNat < UInt64.size := by decide
  have htime : smallArchive.timeout.nanos ≠ 0 := by decide
  have hback : smallArchive.TurnedBack uncounted ⟨0, 0⟩ "a" request _ :=
    turnedBack_of_digits (guarded_declaring _) (leads_declaring _) hpadded decimal_of_64_bits hlarge
  have hstatus := hall Unit smallArchive uncounted ⟨0, 0⟩ "a" request _ _ _ htime
    (guarded_declaring _) (leads_declaring _) hpadded decimal_of_64_bits hlarge
  rw [(hback.answer htime).status, if_neg (Nat.lt_irrefl _)] at hstatus
  cases hstatus

end Service

end AdmissionControl.Server
