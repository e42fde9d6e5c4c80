import AdmissionControl.Proofs.Server.Alike
import AdmissionControl.Server.Sample

namespace AdmissionControl.Server

open BodyGuard Http Identity RateLimit

variable {σ τ : Type} {view : σ → τ}

def healthPaths : List String := ["/health", "/health/live", "/health/ready"]

-- Someone asks for the health of the service.
def ChecksHealth (request : Request) : Prop :=
  request.target.path ∈ healthPaths ∧ (request.method = .get ∨ request.method = .head)

instance (request : Request) : Decidable (ChecksHealth request) :=
  inferInstanceAs (Decidable (_ ∧ _))

-- What happens to a service: a request arrives, the health of the counters is asked for
-- from within, or the store changes without the service.
inductive Occurrence (σ : Type) where
  | asked (clock : Clock) (generatedId : String) (request : Request)
  | probed
  | changed (change : σ → σ)

namespace Occurrence

-- A check of the health, or a change that shows in nothing but pings.
def Silent (view : σ → τ) : Occurrence σ → Prop
  | .asked _ _ request => ChecksHealth request
  | .probed => True
  | .changed change => ∀ s, view (change s) = view s

-- Whatever happens, it may not go by what only pings show.
def Respects (view : σ → τ) : Occurrence σ → Prop
  | .asked .. => True
  | .probed => True
  | .changed change => ∀ one other, view one = view other → view (change one) = view (change other)

-- The same on a store that also keeps a record.
def recorded : Occurrence σ → Occurrence (σ × List Exchange)
  | .asked clock generatedId request => .asked clock generatedId request
  | .probed => .probed
  | .changed change => .changed fun s => (change s.1, s.2)

end Occurrence

-- The second run is the first with checks of the health put in, any number at any point,
-- and with pings to end in any way.
inductive Sprinkled (view : σ → τ) : List (Occurrence σ) → List (Occurrence σ) → Prop where
  | nil : Sprinkled view [] []
  | kept {occurrence : Occurrence σ} {base more : List (Occurrence σ)}
      (hrespects : occurrence.Respects view) (hrest : Sprinkled view base more) :
      Sprinkled view (occurrence :: base) (occurrence :: more)
  | added {occurrence : Occurrence σ} {base more : List (Occurrence σ)}
      (hsilent : occurrence.Silent view) (hrest : Sprinkled view base more) :
      Sprinkled view base (occurrence :: more)

theorem Sprinkled.recorded {base more : List (Occurrence σ)} (h : Sprinkled view base more) :
    Sprinkled (viewRecorded view) (base.map Occurrence.recorded)
      (more.map Occurrence.recorded) := by
  induction h with
  | nil => exact .nil
  | @kept occurrence base more hrespects hrest ih =>
      refine .kept ?_ ih
      cases occurrence with
      | asked clock generatedId request => trivial
      | probed => trivial
      | changed change =>
          intro one other hview
          obtain ⟨hstore, hmade⟩ := Prod.mk.inj hview
          exact Prod.ext (hrespects _ _ hstore) hmade
  | @added occurrence base more hsilent hrest ih =>
      refine .added ?_ ih
      cases occurrence with
      | asked clock generatedId request => exact hsilent
      | probed => trivial
      | changed change => exact fun s => Prod.ext (hsilent s.1) rfl

namespace Service

-- What comes of an occurrence. Only a request has an answer, and only for a request
-- anything is written down.
def undergo (service : Service σ) (counting : Counting σ) :
    Occurrence σ → Outcome σ (Option Response)
  | .asked clock generatedId request =>
    let outcome := service.respond counting clock generatedId request
    ⟨some outcome.answer, outcome.counting, outcome.journal⟩
  | .probed => ⟨none, (counting.health service.store).2, []⟩
  | .changed change => ⟨none, { counting with store := change counting.store }, []⟩

-- A run, each occurrence with what comes of it.
def history (service : Service σ) :
    Counting σ → List (Occurrence σ) → List (Occurrence σ × Outcome σ (Option Response))
  | _, [] => []
  | counting, occurrence :: rest =>
    let outcome := service.undergo counting occurrence
    (occurrence, outcome) :: service.history outcome.counting rest

-- The counters in the end.
def through (service : Service σ) (counting : Counting σ) (occurrences : List (Occurrence σ)) :
    Counting σ :=
  occurrences.foldl (fun counting occurrence => (service.undergo counting occurrence).counting)
    counting

-- A request that is after something else than health.
def Serves (service : Service σ) : Occurrence σ → Prop
  | .asked _ _ request =>
    ¬ChecksHealth request ∧ (service.destinationOf request).tells = false
  | .probed => False
  | .changed _ => False

instance (service : Service σ) : DecidablePred service.Serves
  | .asked .. => inferInstanceAs (Decidable (_ ∧ _))
  | .probed => inferInstanceAs (Decidable False)
  | .changed _ => inferInstanceAs (Decidable False)

-- How such requests are answered, and what is written down for them.
def served (service : Service σ) (counting : Counting σ) (occurrences : List (Occurrence σ)) :
    List (Option Response × Journal) :=
  ((service.history counting occurrences).filter fun met => service.Serves met.1).map
    fun met => (met.2.answer, met.2.journal)

-- What is counted in the course of a run.
def counted (service : Service σ) (counting : Counting σ) (occurrences : List (Occurrence σ)) :
    List Counter :=
  (service.history counting occurrences).flatMap fun met => met.2.journal.counters

-- What is asked of the store in the course of a run, apart from pings.
def demands (service : Service σ) (counting : Counting σ) (occurrences : List (Occurrence σ)) :
    List Exchange :=
  (service.recorded.through ⟨counting.limiter, (counting.store, [])⟩
    (occurrences.map Occurrence.recorded)).store.2.filter fun made => !made.isPing

-- Whoever asks for the health comes to an endpoint that tells it, and is not checked.
def ServesHealth (service : Service σ) : Prop :=
  ∀ request, ChecksHealth request → service.exposureOf request = .anyone ∧
    (service.destinationOf request = .endpoint .live [] ∨
      service.destinationOf request = .endpoint .ready [])

variable {service : Service σ} {request : Request} {destination : Destination}
variable {one other counting : Counting σ} {occurrence : Occurrence σ}
variable {base more : List (Occurrence σ)}

theorem served_cons_of_serves (hserves : service.Serves occurrence) :
    let outcome := service.undergo counting occurrence
    service.served counting (occurrence :: base) =
      (outcome.answer, outcome.journal) :: service.served outcome.counting base := by
  simp [served, history, hserves]

theorem served_cons_of_not_serves (hserves : ¬service.Serves occurrence) :
    service.served counting (occurrence :: base) =
      service.served (service.undergo counting occurrence).counting base := by
  simp [served, history, hserves]

theorem counted_cons :
    service.counted counting (occurrence :: base) =
      (service.undergo counting occurrence).journal.counters ++
        service.counted (service.undergo counting occurrence).counting base := by
  simp [counted, history]

theorem find?_of_checksHealth (h : ChecksHealth request) (routes : Routes) :
    ∃ route, (healthRoutes ++ routes).find? request.target.path = some (route, []) ∧
      route.exposure = .anyone ∧
      (route.methods = getOnly .live ∨ route.methods = getOnly .ready) := by
  have hfirst (route : Route) (hfound : healthRoutes.find? request.target.path = some (route, [])) :
      (healthRoutes ++ routes).find? request.target.path = some (route, []) := by
    simp only [Routes.find?] at hfound ⊢
    rw [List.findSome?_append, hfound, Option.some_or]
  have hpath := h.1
  simp only [healthPaths, List.mem_cons, List.not_mem_nil, or_false] at hpath
  rcases hpath with hpath | hpath | hpath <;> rw [hpath] at hfirst ⊢
  · exact ⟨_, hfirst ⟨.ofPath "/health", .anyone, getOnly .live⟩ rfl, rfl, Or.inl rfl⟩
  · exact ⟨_, hfirst ⟨.ofPath "/health/live", .anyone, getOnly .live⟩ rfl, rfl, Or.inl rfl⟩
  · exact ⟨_, hfirst ⟨.ofPath "/health/ready", .anyone, getOnly .ready⟩ rfl, rfl, Or.inr rfl⟩

theorem servesHealth_make (pipeline : Pipeline) (store : CounterStore σ)
    (timeouts : TimeoutSettings) (routes : Routes) :
    (make pipeline store timeouts routes).ServesHealth := by
  intro request h
  obtain ⟨route, hroute, hexposure, hmethods⟩ := find?_of_checksHealth h routes
  have hfound : (make pipeline store timeouts routes).routes.find? request.target.path =
      some (route, []) := hroute
  simp only [exposureOf, destinationOf, hfound, Route.destination]
  refine ⟨hexposure, ?_⟩
  rcases hmethods with hmethods | hmethods <;> rcases h.2 with hmethod | hmethod <;>
    rw [hmethods, hmethod]
  · exact Or.inl rfl
  · exact Or.inl rfl
  · exact Or.inr rfl
  · exact Or.inr rfl

-- Only bodies that write are guarded.
theorem guardBody_of_checksHealth (h : ChecksHealth request) (pipeline : Pipeline) :
    pipeline.guardBody request = (.ok (.unguarded request.body), []) := by
  have hunguarded : pipeline.bodyPolicy.appliesTo request.method request.target.path = false := by
    rcases h.2 with hmethod | hmethod <;> (rw [hmethod]; rfl)
  simp [Pipeline.guardBody, Policy.enter, hunguarded]

theorem visit_of_health (arrival : Arrival) (hunseen : PingsUnseen service.store view)
    (hdestination : destination = .endpoint .live [] ∨ destination = .endpoint .ready [])
    (claims : Option Access.Claims) (source : Source) (counting : Counting σ) :
    let visited := service.visit arrival destination claims source counting
    visited.counting.Alike view counting ∧ visited.answer.2 = source := by
  rcases hdestination with rfl | rfl
  · exact ⟨⟨rfl, rfl⟩, rfl⟩
  · exact ⟨counting.health_alike hunseen, rfl⟩

theorem timed_of_health (arrival : Arrival) (hunseen : PingsUnseen service.store view)
    (hdestination : destination = .endpoint .live [] ∨ destination = .endpoint .ready [])
    (hguard : service.pipeline.guardBody arrival.request =
      (.ok (.unguarded arrival.request.body), [])) (counting : Counting σ) :
    let outcome := service.timed arrival .anyone destination counting
    outcome.counting.Alike view counting ∧ outcome.journal.counters = [] := by
  obtain ⟨hcounting, hsource⟩ := visit_of_health arrival hunseen hdestination none
    (.unguarded arrival.request.body) counting
  simp only [timed]
  split
  · exact ⟨⟨rfl, rfl⟩, rfl⟩
  · have hwithin : overflows (service.dispatch arrival .anyone destination
        (.unguarded arrival.request.body) counting).answer = false := by
      simp [overflows, dispatch, hsource, Source.rejection?]
    rw [guarded_eq_concluded hguard, counting_concluded, counters_concluded, hwithin]
    exact ⟨hcounting, by simp only [dispatch, counters_visit]; rfl⟩

-- A check of the health leaves everything as it was but for what pings show, and nothing is
-- counted for it.
theorem respond_of_checksHealth (hhealth : service.ServesHealth)
    (hunseen : PingsUnseen service.store view) (h : ChecksHealth request) (counting : Counting σ)
    (clock : Clock) (generatedId : String) :
    let outcome := service.respond counting clock generatedId request
    outcome.counting.Alike view counting ∧ outcome.journal.counters = [] := by
  obtain ⟨hexposure, hdestination⟩ := hhealth request h
  simp only [respond_eq, hexposure]
  exact timed_of_health (arrivalAt clock generatedId request) hunseen hdestination
    (guardBody_of_checksHealth h service.pipeline) counting

theorem undergo_of_silent (hhealth : service.ServesHealth)
    (hunseen : PingsUnseen service.store view) (hsilent : occurrence.Silent view)
    (counting : Counting σ) :
    let outcome := service.undergo counting occurrence
    outcome.counting.Alike view counting ∧ outcome.journal.counters = [] := by
  cases occurrence with
  | asked clock generatedId request =>
      exact respond_of_checksHealth hhealth hunseen hsilent counting clock generatedId
  | probed => exact ⟨counting.health_alike hunseen, rfl⟩
  | changed change => exact ⟨⟨rfl, hsilent counting.store⟩, rfl⟩

theorem not_serves_of_silent (hsilent : occurrence.Silent view) : ¬service.Serves occurrence := by
  cases occurrence with
  | asked clock generatedId request => exact fun hserves => hserves.1 hsilent
  | probed => exact id
  | changed change => exact id

theorem undergo_alike (hunseen : PingsUnseen service.store view) (halike : one.Alike view other)
    (hrespects : occurrence.Respects view) :
    (service.undergo one occurrence).Alike view (service.Serves occurrence)
      (service.undergo other occurrence) := by
  cases occurrence with
  | asked clock generatedId request =>
      have hrespond := respond_alike hunseen halike clock generatedId request
      exact ⟨hrespond.counting, hrespond.counters,
        fun hserves => congrArg some (hrespond.answer hserves.2),
        fun hserves => hrespond.journal hserves.2⟩
  | probed =>
      exact .of_counting (((one.health_alike hunseen).trans halike).trans
        (other.health_alike hunseen).symm) _ _ _
  | changed change =>
      have hafter : Counting.Alike view { one with store := change one.store }
          { other with store := change other.store } :=
        ⟨halike.limiter, hrespects _ _ halike.store⟩
      exact .of_counting hafter _ _ _

-- Both runs stay alike to the end, whatever has been put into the second.
theorem sprinkled_alike (hhealth : service.ServesHealth)
    (hunseen : PingsUnseen service.store view) (hsprinkled : Sprinkled view base more)
    (halike : one.Alike view other) :
    service.served one base = service.served other more ∧
      service.counted one base = service.counted other more ∧
      (service.through one base).Alike view (service.through other more) := by
  induction hsprinkled generalizing one other with
  | nil => exact ⟨rfl, rfl, halike⟩
  | @kept occurrence base more hrespects hrest ih =>
      have hundergo := undergo_alike hunseen halike hrespects
      obtain ⟨hserved, hcounted, hthrough⟩ := ih hundergo.counting
      refine ⟨?_, ?_, hthrough⟩
      · by_cases hserves : service.Serves occurrence
        · rw [served_cons_of_serves hserves, served_cons_of_serves hserves, hserved,
            hundergo.answer hserves, hundergo.journal hserves]
        · rw [served_cons_of_not_serves hserves, served_cons_of_not_serves hserves, hserved]
      · rw [counted_cons, counted_cons, hundergo.counters, hcounted]
  | @added occurrence base more hsilent hrest ih =>
      obtain ⟨hcounting, hcounters⟩ := undergo_of_silent hhealth hunseen hsilent other
      obtain ⟨hserved, hcounted, hthrough⟩ := ih (halike.trans hcounting.symm)
      refine ⟨?_, ?_, hthrough⟩
      · rw [hserved, served_cons_of_not_serves (not_serves_of_silent hsilent)]
      · rw [hcounted, counted_cons, hcounters, List.nil_append]

theorem demands_of_sprinkled (hhealth : service.ServesHealth)
    (hunseen : PingsUnseen service.store view) (hsprinkled : Sprinkled view base more)
    (halike : one.Alike view other) : service.demands one base = service.demands other more := by
  have hstart : Counting.Alike (viewRecorded view) ⟨one.limiter, (one.store, [])⟩
      ⟨other.limiter, (other.store, [])⟩ := ⟨halike.limiter, Prod.ext halike.store rfl⟩
  have hrecorded : service.recorded.ServesHealth := hhealth
  obtain ⟨-, -, hthrough⟩ := sprinkled_alike hrecorded hunseen.recorded hsprinkled.recorded hstart
  exact (Prod.mk.inj hthrough.store).2

-- The health goes by the ping alone, and not by what the limiter takes its store to be.
theorem health_ok_iff {store : CounterStore σ} {counting : Counting σ} {limiter : SharedLimiter}
    (hshared : counting.limiter = .shared limiter) (henabled : limiter.isEnabled = true) :
    (counting.health store).1.ok = true ↔ (store.ping counting.store).1 = .ok () := by
  simp only [Counting.health, hshared, Limiter.health, henabled, not_true_eq_false, if_false]
  rcases store.ping counting.store with ⟨_ | _, s⟩ <;> simp

-- Checks of the health are seen by nobody. Wherever they are put into a run, and however
-- their pings end, every other request is answered as without them, the same is counted, the
-- limiter comes to the same windows, handle and deadline, and the same loads and evaluations
-- are made, with the same results. Nor is the check that pings the store led by anything but
-- that ping: a limiter that takes its store to be down tells that it is well if it is.
theorem health_checks_unnoticed {store : CounterStore σ} (hunseen : PingsUnseen store view)
    (pipeline : Pipeline) (timeouts : TimeoutSettings) (routes : Routes)
    (hsprinkled : Sprinkled view base more) (halike : one.Alike view other) :
    let service := make pipeline store timeouts routes
    service.served one base = service.served other more ∧
    service.counted one base = service.counted other more ∧
    (service.through one base).limiter = (service.through other more).limiter ∧
    view (service.through one base).store = view (service.through other more).store ∧
    service.demands one base = service.demands other more ∧
    ∀ (counting : Counting σ) (limiter : SharedLimiter), counting.limiter = .shared limiter →
      limiter.isEnabled = true →
      ((counting.health store).1.ok = true ↔ (store.ping counting.store).1 = .ok ()) := by
  intro service
  have hhealth : service.ServesHealth := servesHealth_make pipeline store timeouts routes
  obtain ⟨hserved, hcounted, hthrough⟩ := sprinkled_alike hhealth hunseen hsprinkled halike
  exact ⟨hserved, hcounted, hthrough.limiter, hthrough.store,
    demands_of_sprinkled hhealth hunseen hsprinkled halike,
    fun counting limiter hshared henabled => health_ok_iff hshared henabled⟩

-- A limiter that takes its store to be down, while pings of the store succeed, and fail once.
theorem health_checks_unnoticed_of_outage :
    let service :=
      make ⟨.none, ⟨4, "/api/"⟩, .disabled⟩ ScriptedStore.store {}
        [checkedRoute "/api/items" (getOnly Sample.items)]
    let limiter : SharedLimiter := ⟨⟨1, "rl", 120, .ofSeconds 5, false⟩, none, ⟨7⟩⟩
    let counting : Counting ScriptedStore := ⟨.shared limiter, {}⟩
    let asked (nanos : UInt64) (path : String) : Occurrence ScriptedStore :=
      .asked ⟨0, nanos⟩ "a" ⟨.get, ⟨path⟩, [], [], none⟩
    let failing : Occurrence ScriptedStore :=
      .changed fun s => s.script [] [] [.failure ScriptedStore.refused]
    let base := [asked 0 "/api/items", asked 8 "/api/items"]
    let more := [.probed, asked 0 "/api/items", failing, asked 0 "/health/ready", .probed,
      asked 8 "/api/items", asked 8 "/health"]
    service.served counting base = service.served counting more ∧
    service.demands counting base = service.demands counting more ∧
    (service.served counting base).length = 2 ∧
    limiter.breaker.isDegraded ⟨0⟩ = true ∧ (counting.health service.store).1.ok = true := by
  intro service limiter counting asked failing base more
  have hsame : counting.Alike ScriptedStore.apartFromPings counting := ⟨rfl, rfl⟩
  have hfailing : failing.Silent ScriptedStore.apartFromPings := by
    intro s
    simp [ScriptedStore.apartFromPings, ScriptedStore.script]
  have hready : ChecksHealth ⟨.get, ⟨"/health/ready"⟩, [], [], none⟩ := by decide
  have hlive : ChecksHealth ⟨.get, ⟨"/health"⟩, [], [], none⟩ := by decide
  have hsprinkled : Sprinkled ScriptedStore.apartFromPings base more :=
    .added trivial <| .kept trivial <| .added hfailing <| .added hready <|
      .added trivial <| .kept trivial <| .added hlive .nil
  obtain ⟨hserved, -, -, -, hdemands, hhealth⟩ :=
    health_checks_unnoticed ScriptedStore.pingsUnseen ⟨.none, ⟨4, "/api/"⟩, .disabled⟩ {}
      [checkedRoute "/api/items" (getOnly Sample.items)] hsprinkled hsame
  exact ⟨hserved, hdemands, rfl, by decide, (hhealth counting limiter rfl (by decide)).mpr rfl⟩

end Service

end AdmissionControl.Server
