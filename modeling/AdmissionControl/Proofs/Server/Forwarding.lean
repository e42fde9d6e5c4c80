import AdmissionControl.Proofs.Server.Accounts
import AdmissionControl.Proofs.Window.Minutes

namespace AdmissionControl

open Http Identity RateLimit

namespace Identity

variable {trusted : TrustedProxies} {peer : Net.Address} {one other : Headers}

theorem TrustedProxies.contains_eq_false_iff :
    trusted.contains peer = false ↔
      ∀ network ∈ trusted.networks, network.contains peer = false := by
  simp [contains]

theorem Client.resolve_of_untrusted (huntrusted : trusted.contains peer = false)
    (headers : Headers) : resolve trusted (some peer) headers = (ofAddress peer, []) := by
  simp [resolve, huntrusted]

-- Of all that is sent, the first hop list alone is looked at.
theorem Client.resolve_congr (hfirst : one.first? forwardedForHeader =
    other.first? forwardedForHeader) :
    resolve trusted (some peer) one = resolve trusted (some peer) other := by
  simp only [resolve, forwarded?, Headers.text?, hfirst]

end Identity

namespace Server.Service

variable {σ ι : Type} {service : Service σ} {counting : Counting σ} {arrival : Arrival}
variable {exposure : Exposure} {destination : Destination}

-- The request as a limiter that counts in memory meets it.
def countedAs (service : Service σ) (encounter : Encounter σ) : RateLimit.Arrival :=
  ⟨encounter.clock.bucket, service.clientOf encounter.request⟩

-- The request is for a checked path, and nothing keeps it from its endpoint.
def admits (service : Service σ) (encounter : Encounter σ) : Bool :=
  service.timeout.nanos ≠ 0 && service.exposureOf encounter.request = .checked &&
    Stage.inOrder.all fun stage =>
      (service.refusal? (arrivalAt encounter.clock encounter.generatedId encounter.request)
        encounter.counting stage).isNone

theorem limiter_visit {claims : Option Access.Claims} {source : BodyGuard.Source} :
    (service.visit arrival destination claims source counting).counting.limiter =
      counting.limiter := by
  rw [counting_visit]
  split <;> rfl

theorem limiter_countingAt (htime : service.timeout.nanos ≠ 0)
    (hpassed : ∀ stage ∈ exposure.stages, service.refusal? arrival counting stage = none) :
    (service.countingAt arrival exposure counting).limiter =
      if service.reachesLimiter arrival exposure counting then
        (service.countingAfter arrival counting .rate).limiter
      else counting.limiter := by
  cases exposure with
  | anyone => simp [countingAt, reachesLimiter]
  | checked =>
      cases henabled : counting.limiter.isEnabled with
      | true =>
          have hlength := hpassed .length (by simp [Exposure.stages, Stage.inOrder])
          have haccess := hpassed .access (by simp [Exposure.stages, Stage.inOrder])
          simp [countingAt, reachesLimiter, htime, hlength, haccess, henabled]
      | false =>
          simp [countingAt, countingAfter, reachesLimiter, henabled,
            Pipeline.checkRate_of_disabled henabled]

-- A request touches the limiter only where it is counted.
theorem Passage.limiter_eq {origin : Origin} {outcome : Outcome σ Response}
    (h : service.Passage arrival exposure destination counting origin outcome) :
    outcome.counting.limiter =
      if service.reachesLimiter arrival exposure counting then
        (service.countingAfter arrival counting .rate).limiter
      else counting.limiter := by
  cases h with
  | untimed htime => simp [reachesLimiter, htime]
  | refused htime horder hpassed hrefused =>
      rcases stages_eq horder with ⟨rfl, rfl⟩ | ⟨rfl, ⟨rfl, rfl⟩ | ⟨rfl, rfl⟩⟩
      · simp [reachesLimiter, hrefused, countingAfter]
      · simp [reachesLimiter, hrefused, countingAfter]
      · have henabled := isEnabled_of_limited hrefused
        simp_all [reachesLimiter]
  | replaced htime hpassed hsource hvisited hcaught hoverflow =>
      rw [← hvisited, limiter_visit, limiter_countingAt htime hpassed]
  | ended htime hpassed hsource hvisited hkept =>
      rw [← hvisited, limiter_visit, limiter_countingAt htime hpassed]

theorem limiter_meet (service : Service σ) (encounter : Encounter σ) :
    (service.meet encounter).counting.limiter =
      if service.reaches encounter then
        (service.countingAfter (arrivalAt encounter.clock encounter.generatedId encounter.request)
          encounter.counting .rate).limiter
      else encounter.counting.limiter := by
  obtain ⟨origin, hpassage⟩ := service.exists_comesFrom encounter.counting encounter.clock
    encounter.generatedId encounter.request
  have h : service.Passage _ _ _ _ _ _ := hpassage
  rw [meet, respond_eq]
  exact h.limiter_eq

section InMemory

variable {limiter : LocalLimiter}

-- In memory the rate is decided by one count.
theorem rate_of_inMemory (service : Service σ) (arrival : Arrival)
    (hmemory : counting.limiter = .inMemory limiter) (hlimit : 0 < limiter.limit) :
    let counted := limiter.count arrival.clock.bucket (service.clientOf arrival.request)
    (service.refusal? arrival counting .rate).isNone = counted.1 ∧
    (service.countingAfter arrival counting .rate).limiter = .inMemory counted.2 := by
  intro counted
  have henabled : counting.limiter.isEnabled = true := by
    simpa [hmemory, Limiter.isEnabled, Limiter.limit] using hlimit
  have hallow : limiter.allow arrival.clock (service.clientOf arrival.request) = counted :=
    LocalLimiter.allow_eq_count limiter ⟨arrival.clock, service.clientOf arrival.request⟩ hlimit
  have hruling : counting.limiter.allow service.store counting.store arrival.clock
      (service.clientOf arrival.request) =
      ⟨counted.1, .inMemory counted.2, counting.store, []⟩ := by
    simp only [hmemory, Limiter.allow, hallow]
  simp only [refusal?, countingAfter, Pipeline.checkRate_of_enabled henabled]
  simp only [clientOf] at hruling
  rw [hruling]
  cases counted.1 <;> simp [refusalOf]

theorem meet_of_inMemory (service : Service σ) (encounter : Encounter σ)
    (hmemory : encounter.counting.limiter = .inMemory limiter) (hlimit : 0 < limiter.limit) :
    let counted := limiter.count (service.countedAs encounter).bucket
      (service.countedAs encounter).client
    service.admits encounter = (service.reaches encounter && counted.1) ∧
    (service.meet encounter).counting.limiter =
      if service.reaches encounter then .inMemory counted.2 else .inMemory limiter := by
  intro counted
  obtain ⟨hallowed, hlimiter⟩ := service.rate_of_inMemory
    (arrivalAt encounter.clock encounter.generatedId encounter.request) hmemory hlimit
  have henabled : encounter.counting.limiter.isEnabled = true := by
    simpa [hmemory, Limiter.isEnabled, Limiter.limit] using hlimit
  refine ⟨?_, ?_⟩
  · rw [show counted.1 = _ from hallowed.symm]
    simp [admits, reaches, reachesLimiter, Stage.inOrder, henabled, Bool.and_assoc]
  · rw [limiter_meet, hlimiter, hmemory]
    rfl

-- In the course of a run the limiter counts the requests that come to it, and no others.
theorem admitted_eq_count (hmemory : counting.limiter = .inMemory limiter)
    (hlimit : 0 < limiter.limit) (happenings : List (Happening ι σ))
    (arrival : RateLimit.Arrival) :
    let encounters := service.encounters counting happenings
    encounters.countP (fun encounter =>
      service.countedAs encounter = arrival && service.admits encounter) =
      (limiter.answers ((encounters.filter service.reaches).map service.countedAs)).count
        (arrival, true) := by
  induction happenings generalizing counting limiter with
  | nil => rfl
  | cons happening rest ih =>
      cases happening with
      | changed change => exact ih hmemory hlimit
      | asked label clock generatedId request =>
          obtain ⟨hadmits, hlimiter⟩ := service.meet_of_inMemory
            ⟨counting, clock, generatedId, request⟩ hmemory hlimit
          simp only [encounters, List.countP_cons, List.filter_cons, hadmits]
          cases hreaches : service.reaches ⟨counting, clock, generatedId, request⟩ with
          | false =>
              rw [hreaches] at hlimiter
              simpa using ih hlimiter hlimit
          | true =>
              rw [hreaches] at hlimiter
              simp only [if_true, List.map_cons, LocalLimiter.answers, List.count_cons,
                ih hlimiter hlimit]
              simp

end InMemory

theorem admitted_le_limit (service : Service σ) (limit : Nat) (hlimit : 0 < limit) (s : σ)
    (happenings : List (Happening ι σ)) (arrival : RateLimit.Arrival)
    (horder : (service.encounters ⟨.inMemory (.withLimit limit), s⟩ happenings).Pairwise
      fun a b => a.clock.bucket ≤ b.clock.bucket) :
    (service.encounters ⟨.inMemory (.withLimit limit), s⟩ happenings).countP (fun encounter =>
      service.countedAs encounter = arrival && service.admits encounter) ≤ limit := by
  rw [admitted_eq_count rfl hlimit, LocalLimiter.answers_eq_judged, LocalLimiter.count_judged]
  · exact Nat.min_le_right _ _
  · exact List.pairwise_map.mpr (horder.filter _)

-- What a peer sends lets it pass for nobody else. Outside the trusted networks it is
-- itself the client, and inside them the first hop list alone may name another. So from
-- outside no more requests are let in per minute than the limit, in any run with the
-- requests of anyone else and whatever is sent with them.
theorem forwarding_forges_no_client (trusted : TrustedProxies) (peer : Net.Address) :
    ((∀ network ∈ trusted.networks, network.contains peer = false) →
      ∀ headers, (Client.resolve trusted (some peer) headers).1 = .ofAddress peer) ∧
    (∀ one other : Headers,
      one.first? Client.forwardedForHeader = other.first? Client.forwardedForHeader →
      (Client.resolve trusted (some peer) one).1 =
        (Client.resolve trusted (some peer) other).1) ∧
    ((∀ network ∈ trusted.networks, network.contains peer = false) →
      ∀ (σ ι : Type) (service : Service σ) (limit : Nat) (s : σ)
        (happenings : List (Happening ι σ)), service.pipeline.trusted = trusted → 0 < limit →
      let encounters := service.encounters ⟨.inMemory (.withLimit limit), s⟩ happenings
      (encounters.Pairwise fun a b => a.clock.bucket ≤ b.clock.bucket) → ∀ bucket,
      encounters.countP (fun encounter => encounter.request.peer = some peer &&
        encounter.clock.bucket = bucket && service.admits encounter) ≤ limit) := by
  refine ⟨fun huntrusted headers => ?_, fun one other hfirst => ?_, fun huntrusted => ?_⟩
  · rw [Client.resolve_of_untrusted (TrustedProxies.contains_eq_false_iff.mpr huntrusted)]
  · rw [Client.resolve_congr hfirst]
  · intro σ ι service limit s happenings htrusted hlimit encounters horder bucket
    subst htrusted
    have hclient (request : Request) (hpeer : request.peer = some peer) :
        service.clientOf request = .ofAddress peer := by
      rw [clientOf, Pipeline.resolve, hpeer,
        Client.resolve_of_untrusted (TrustedProxies.contains_eq_false_iff.mpr huntrusted)]
    refine Nat.le_trans (List.countP_mono_left fun encounter _ hcounted => ?_)
      (admitted_le_limit service limit hlimit s happenings ⟨bucket, .ofAddress peer⟩ horder)
    simp only [Bool.and_eq_true, decide_eq_true_eq] at hcounted ⊢
    obtain ⟨⟨hpeer, hbucket⟩, hadmits⟩ := hcounted
    exact ⟨by rw [countedAs, hclient _ hpeer, hbucket], hadmits⟩

-- One request a minute, and a peer that gives itself another name with each.
theorem forwarding_forges_no_client_of_spoofed :
    let trusted : TrustedProxies := ⟨[.v4 0x0a000000 8]⟩
    let peer : Net.Address := .v4 0xcb007105
    let spoofed (octets : Octets) : Request :=
      ⟨.get, ⟨"/api"⟩, [⟨"x-forwarded-for", octets⟩], [], some peer⟩
    let service : Service Unit :=
      ⟨⟨trusted, ⟨4, "/api"⟩, .disabled⟩, .silent .zero, .ofSeconds 30,
        [⟨[.literal "api"], .checked, .any .live⟩]⟩
    let asked (request : Request) : Happening Unit Unit := .asked () ⟨60, 0⟩ "a" request
    let encounters := service.encounters ⟨.inMemory (.withLimit 1), ()⟩
      [asked (spoofed [49, 46, 49, 46, 49, 46, 49]), asked (spoofed [50, 46, 50, 46, 50, 46, 50])]
    trusted.contains peer = false ∧
    (Client.resolve trusted (some peer) (spoofed [49, 46, 49, 46, 49, 46, 49]).headers).1 =
      .ofAddress peer ∧
    encounters.countP (fun encounter => encounter.request.peer = some peer &&
      encounter.clock.bucket = 1 && service.admits encounter) ≤ 1 := by
  intro trusted peer spoofed service asked encounters
  have huntrusted : trusted.contains peer = false := by decide
  have houtside := TrustedProxies.contains_eq_false_iff.mp huntrusted
  obtain ⟨hitself, -, hbudget⟩ := forwarding_forges_no_client trusted peer
  exact ⟨huntrusted, hitself houtside _,
    hbudget houtside Unit Unit service 1 () _ rfl (by decide) (by decide) 1⟩

-- Without a limit everyone is let in.
theorem zero_limit_not_kept :
    let peer : Net.Address := .v4 0xcb007105
    let service : Service Unit :=
      ⟨⟨.none, ⟨4, "/api"⟩, .disabled⟩, .silent .zero, .ofSeconds 30,
        [⟨[.literal "api"], .checked, .any .live⟩]⟩
    let read : Request := ⟨.get, ⟨"/api"⟩, [], [], some peer⟩
    let encounters := service.encounters ⟨.inMemory (.withLimit 0), ()⟩
      [(.asked () ⟨60, 0⟩ "a" read : Happening Unit Unit)]
    (∀ network ∈ service.pipeline.trusted.networks, network.contains peer = false) ∧
    (encounters.Pairwise fun a b => a.clock.bucket ≤ b.clock.bucket) ∧
    ¬encounters.countP (fun encounter => encounter.request.peer = some peer &&
      encounter.clock.bucket = 1 && service.admits encounter) ≤ 0 := by
  intro peer service read encounters
  exact ⟨nofun, by decide, by decide⟩

end Server.Service

end AdmissionControl
