import AdmissionControl.Proofs.Server.Origin
import AdmissionControl.Proofs.Server.Ruling

namespace AdmissionControl

open BodyGuard Http Identity RateLimit

namespace Journal

-- How many of the counts bear one of these labels.
def countsOf (labels : List Counter) (journal : Journal) : Nat :=
  journal.counters.countP (· ∈ labels)

variable {labels : List Counter} {journal : Journal}

theorem countsOf_append (front back : Journal) :
    countsOf labels (front ++ back) = front.countsOf labels + back.countsOf labels := by
  rw [countsOf, counters_append, List.countP_append]
  rfl

theorem countsOf_of_none (h : journal.counters = []) : journal.countsOf labels = 0 := by
  rw [countsOf, h, List.countP_nil]

theorem countsOf_flatMap_of_zero {stages : List α} {entries : α → Journal}
    (h : ∀ stage ∈ stages, (entries stage).countsOf labels = 0) :
    countsOf labels (stages.flatMap entries) = 0 := by
  induction stages with
  | nil => rfl
  | cons stage stages ih =>
      obtain ⟨hstage, hstages⟩ := List.forall_mem_cons.mp h
      rw [List.flatMap_cons, countsOf_append, hstage, ih hstages]

end Journal

namespace Server

-- The labels that the refusals with a status are counted under.
def refusalLabels : Nat → List Counter
  | 400 => [.bodyRejection .invalidLength]
  | 413 => [.bodyRejection .declaredLength, .bodyRejection .streamedOverflow]
  | 429 => [.decision .memory false, .decision .sharedStore false]
  | _ => []

def decisionLabels : List Counter :=
  [.decision .memory true, .decision .memory false, .decision .sharedStore true,
    .decision .sharedStore false]

def degradedLabels : List Counter := [.degradedEntry true, .degradedEntry false]

-- A layer has refused the request with this status.
def Origin.refusesWith (status : Nat) : Origin → Bool
  | .layer rejection => rejection.status == status
  | _ => false

namespace Service

variable {σ : Type} {service : Service σ} {arrival : Arrival} {exposure : Exposure}
variable {destination : Destination} {counting : Counting σ} {status : Nat}

theorem isEnabled_of_limited {rejection : Rejection}
    (h : service.refusal? arrival counting .rate = some rejection) :
    counting.limiter.isEnabled = true := by
  cases henabled : counting.limiter.isEnabled with
  | true => rfl
  | false =>
      rw [refusal?, Pipeline.checkRate_of_disabled henabled] at h
      cases h

-- A limiter in use enters its decision once, after a failure of its store if there was one.
theorem exists_counters_rate (service : Service σ) (arrival : Arrival) (counting : Counting σ) :
    ∃ failOpen, (service.entries arrival counting .rate).counters =
      if counting.limiter.isEnabled then
        (if counting.limiter.endsInError service.store counting.store arrival.clock
          (service.clientOf arrival.request) then [.degradedEntry failOpen] else []) ++
          [.decision counting.limiter.backend (service.refusal? arrival counting .rate).isNone]
      else [] := by
  obtain ⟨failOpen, hcounters⟩ := counting.limiter.exists_counters_allow service.store
    counting.store arrival.clock (service.clientOf arrival.request)
  refine ⟨failOpen, ?_⟩
  cases henabled : counting.limiter.isEnabled with
  | false => rw [entries, Pipeline.checkRate_of_disabled henabled]; rfl
  | true =>
      rw [← hcounters, entries, refusal?, Pipeline.checkRate_of_enabled henabled]
      simp only [Journal.counters_append, Pipeline.counters_resolve, clientOf]
      generalize counting.limiter.allow service.store counting.store arrival.clock _ = ruling
      cases ruling.allowed <;> simp [Journal.counters, refusalOf]

theorem counters_length (service : Service σ) (arrival : Arrival) (counting : Counting σ) :
    (service.entries arrival counting .length).counters =
      match service.refusal? arrival counting .length with
      | none => []
      | some (.badRequest _) => [.bodyRejection .invalidLength]
      | some _ => [.bodyRejection .declaredLength] := by
  simp only [entries, refusal?, Pipeline.guardBody]
  cases service.pipeline.bodyPolicy.enter arrival.request with
  | ok source => rfl
  | error rejection => cases rejection <;> rfl

theorem counters_access (service : Service σ) (arrival : Arrival) (counting : Counting σ) :
    (service.entries arrival counting .access).counters = [] := by
  simp only [entries, Pipeline.authorize, Access.Control.check]
  split
  · rfl
  · split
    · rfl
    · split <;> rfl

-- A stage that refuses a request enters that once, under the labels for the status.
theorem countsOf_entries (service : Service σ) (arrival : Arrival) (counting : Counting σ)
    (hstatus : status ∈ [400, 413, 429]) (stage : Stage) :
    (service.entries arrival counting stage).countsOf (refusalLabels status) =
      if (service.refusal? arrival counting stage).any (·.status == status) then 1 else 0 := by
  simp only [List.mem_cons, List.not_mem_nil, or_false] at hstatus
  cases stage with
  | length =>
      rw [Journal.countsOf, counters_length]
      cases hrefused : service.refusal? arrival counting .length with
      | none => rfl
      | some rejection =>
          rcases guardBody_error (refusalOf_eq_some.mp hrefused) with rfl | ⟨length, rfl⟩ <;>
            (rcases hstatus with rfl | rfl | rfl <;> rfl)
  | access =>
      rw [Journal.countsOf_of_none (counters_access service arrival counting)]
      cases hrefused : service.refusal? arrival counting .access with
      | none => rfl
      | some rejection =>
          have hmem := status_mem_statuses hrefused
          have hne : rejection.status ≠ status := by
            rintro rfl
            rcases hstatus with h | h | h <;> simp [h, Stage.statuses] at hmem
          simp [hne]
  | rate =>
      obtain ⟨failOpen, hcounters⟩ := exists_counters_rate service arrival counting
      have hdegraded : Counter.degradedEntry failOpen ∉ refusalLabels status := by
        rcases hstatus with rfl | rfl | rfl <;> simp [refusalLabels]
      have hdecision (allowed : Bool) :
          Counter.decision counting.limiter.backend allowed ∈ refusalLabels status ↔
            status = 429 ∧ allowed = false := by
        rcases hstatus with rfl | rfl | rfl <;> cases counting.limiter.backend <;>
          simp [refusalLabels]
      have hfailed : List.countP (· ∈ refusalLabels status)
          (if counting.limiter.endsInError service.store counting.store arrival.clock
            (service.clientOf arrival.request) then [Counter.degradedEntry failOpen] else []) =
          0 := by
        split <;> simp [hdegraded]
      rw [Journal.countsOf, hcounters]
      cases hrefused : service.refusal? arrival counting .rate with
      | none => split <;> simp [List.countP_append, hfailed, hdecision]
      | some rejection =>
          have hmem := status_mem_statuses hrefused
          rw [if_pos (isEnabled_of_limited hrefused), List.countP_append, hfailed]
          simp only [Stage.statuses, List.mem_singleton] at hmem
          have hsame : (rejection.status == status) = decide (status = 429) := by
            rw [hmem, Bool.beq_eq_decide_eq, decide_eq_decide]
            exact eq_comm
          simp [hdecision, hsame]

-- What becomes of a request behind the stages is counted only if its body overflows.
theorem counters_visited {claims : Option Access.Claims} {source : Source}
    {visited : Outcome σ (Conclusion × Source)}
    (hvisited : service.visit arrival destination claims source counting = visited) :
    Journal.counters (visited.journal ++ (caught visited.answer.1).2) = [] := by
  have hvisit : visited.journal.counters = [] := hvisited ▸ counters_visit
  have hcaught : Journal.counters (caught visited.answer.1).2 = [] := by
    cases visited.answer.1 <;> rfl
  rw [Journal.counters_append, hvisit, hcaught, List.append_nil]

theorem countsOf_behind {claims : Option Access.Claims} {source : Source}
    {visited : Outcome σ (Conclusion × Source)}
    (hvisited : service.visit arrival destination claims source counting = visited)
    (labels : List Counter) (front : Journal) :
    Journal.countsOf labels (front ++ visited.journal ++ (caught visited.answer.1).2) =
      front.countsOf labels := by
  rw [List.append_assoc, Journal.countsOf_append,
    Journal.countsOf_of_none (counters_visited hvisited), Nat.add_zero]

theorem countsOf_passed {stages : List Stage} (hstatus : status ∈ [400, 413, 429])
    (hpassed : ∀ stage ∈ stages, service.refusal? arrival counting stage = none) :
    Journal.countsOf (refusalLabels status) (stages.flatMap (service.entries arrival counting)) =
      0 := by
  refine Journal.countsOf_flatMap_of_zero fun stage hmem => ?_
  rw [service.countsOf_entries arrival counting hstatus, hpassed stage hmem]
  rfl

-- A request is entered once under the labels for the status that a layer has refused it
-- with, and not at all if it is not refused.
theorem Passage.countsOf_refusals {origin : Origin} {outcome : Outcome σ Response}
    (h : service.Passage arrival exposure destination counting origin outcome)
    (hstatus : status ∈ [400, 413, 429]) :
    outcome.journal.countsOf (refusalLabels status) =
      if origin.refusesWith status then 1 else 0 := by
  cases h with
  | untimed htime => rfl
  | @refused earlier later stage rejection htime horder hpassed hrefused =>
      have hearlier := countsOf_passed hstatus hpassed
      have hstage := service.countsOf_entries arrival counting hstatus stage
      rw [List.flatMap_append, Journal.countsOf_append, hearlier, Nat.zero_add,
        List.flatMap_singleton, hstage, hrefused]
      rfl
  | @replaced source claims rejection visited answer panicked htime hpassed hsource hvisited
      hcaught hoverflow =>
      have hbehind := countsOf_behind hvisited (refusalLabels status)
        (exposure.stages.flatMap (service.entries arrival counting))
      rw [hcaught] at hbehind
      rw [Journal.countsOf_append, hbehind, countsOf_passed hstatus hpassed, Origin.refusesWith,
        status_of_rejection? hoverflow]
      simp only [List.mem_cons, List.not_mem_nil, or_false] at hstatus
      rcases hstatus with rfl | rfl | rfl <;> rfl
  | @ended source claims visited htime hpassed hsource hvisited hkept =>
      rw [countsOf_behind hvisited, countsOf_passed hstatus hpassed]
      cases visited.answer.1 <;> rfl

-- The request comes to a limiter that is in use.
def reachesLimiter (service : Service σ) (arrival : Arrival) (exposure : Exposure)
    (counting : Counting σ) : Bool :=
  service.timeout.nanos ≠ 0 && exposure = .checked &&
    (service.refusal? arrival counting .length).isNone &&
    (service.refusal? arrival counting .access).isNone && counting.limiter.isEnabled

theorem stages_eq {earlier later : List Stage} {stage : Stage}
    (horder : exposure.stages = earlier ++ stage :: later) :
    (earlier = [] ∧ stage = .length) ∨
    (exposure = .checked ∧ ((earlier = [.length] ∧ stage = .access) ∨
      (earlier = [.length, .access] ∧ stage = .rate))) := by
  cases exposure with
  | anyone => rcases earlier with _ | ⟨first, rest⟩ <;> simp_all [Exposure.stages]
  | checked => exact (Stage.inOrder_eq horder).imp_right fun h => ⟨rfl, h⟩

-- The guard refuses the request for a length that it cannot make out.
def malformed (service : Service σ) (request : Request) : Bool :=
  service.timeout.nanos ≠ 0 &&
    (refusalOf (service.pipeline.guardBody request).1).any (·.status == 400)

-- Of the layers the guard alone refuses with 400.
theorem stage_eq_length {stage : Stage} {rejection : Rejection}
    (hrefused : service.refusal? arrival counting stage = some rejection)
    (hstatus : rejection.status = 400) : stage = .length := by
  have hmem := status_mem_statuses hrefused
  rw [hstatus] at hmem
  cases stage with
  | length => rfl
  | access => simp [Stage.statuses] at hmem
  | rate => simp [Stage.statuses] at hmem

theorem Passage.refusesWith_eq_malformed {origin : Origin} {outcome : Outcome σ Response}
    (h : service.Passage arrival exposure destination counting origin outcome) :
    origin.refusesWith 400 = service.malformed arrival.request := by
  have hmem : .length ∈ exposure.stages := by cases exposure <;> exact List.mem_cons_self
  have hwell (hpassed : service.refusal? arrival counting .length = none) :
      service.malformed arrival.request = false := by
    rw [refusal?] at hpassed
    rw [malformed, hpassed, Option.any_none, Bool.and_false]
  cases h with
  | untimed htime => simp [Origin.refusesWith, malformed, htime]
  | refused htime horder hpassed hrefused =>
      rcases stages_eq horder with ⟨rfl, rfl⟩ | ⟨-, ⟨rfl, rfl⟩ | ⟨rfl, rfl⟩⟩
      · have hguard := hrefused
        rw [refusal?] at hguard
        simp [Origin.refusesWith, malformed, htime, hguard]
      · rw [hwell (hpassed .length (by simp)), Origin.refusesWith, beq_eq_false_iff_ne]
        intro hstatus
        cases stage_eq_length hrefused hstatus
      · rw [hwell (hpassed .length (by simp)), Origin.refusesWith, beq_eq_false_iff_ne]
        intro hstatus
        cases stage_eq_length hrefused hstatus
  | @replaced source claims rejection visited answer panicked htime hpassed hsource hvisited
      hcaught hoverflow =>
      rw [hwell (hpassed .length hmem), Origin.refusesWith, status_of_rejection? hoverflow]
      rfl
  | @ended source claims visited htime hpassed hsource hvisited hkept =>
      rw [hwell (hpassed .length hmem)]
      cases visited.answer.1 <;> rfl

theorem countsOf_length {labels : List Counter}
    (hlabels : ∀ fault, .bodyRejection fault ∉ labels) (service : Service σ)
    (arrival : Arrival) (counting : Counting σ) :
    (service.entries arrival counting .length).countsOf labels = 0 := by
  rw [Journal.countsOf, counters_length]
  split <;> simp [hlabels]

theorem countsOf_access (labels : List Counter) (service : Service σ) (arrival : Arrival)
    (counting : Counting σ) : (service.entries arrival counting .access).countsOf labels = 0 :=
  Journal.countsOf_of_none (counters_access service arrival counting)

theorem countsOf_rate_of_disabled {labels : List Counter}
    (hdisabled : counting.limiter.isEnabled = false) :
    (service.entries arrival counting .rate).countsOf labels = 0 := by
  rw [entries, Pipeline.checkRate_of_disabled hdisabled]
  rfl

theorem countsOf_stages {labels : List Counter} (hlabels : ∀ fault, .bodyRejection fault ∉ labels)
    (htime : service.timeout.nanos ≠ 0)
    (hpassed : ∀ stage ∈ exposure.stages, service.refusal? arrival counting stage = none) :
    Journal.countsOf labels (exposure.stages.flatMap (service.entries arrival counting)) =
      if service.reachesLimiter arrival exposure counting then
        (service.entries arrival counting .rate).countsOf labels
      else 0 := by
  have hlength := countsOf_length hlabels service arrival counting
  cases exposure with
  | anyone => simp [Exposure.stages, reachesLimiter, hlength]
  | checked =>
      have haccess := countsOf_access labels service arrival counting
      have hrate : Journal.countsOf labels
          (Exposure.checked.stages.flatMap (service.entries arrival counting)) =
          (service.entries arrival counting .rate).countsOf labels := by
        simp [Exposure.stages, Stage.inOrder, Journal.countsOf_append, hlength, haccess]
      rw [hrate]
      cases henabled : counting.limiter.isEnabled with
      | true =>
          have hfirst := hpassed .length (by simp [Exposure.stages, Stage.inOrder])
          have hsecond := hpassed .access (by simp [Exposure.stages, Stage.inOrder])
          simp [reachesLimiter, htime, hfirst, hsecond, henabled]
      | false => simp [countsOf_rate_of_disabled henabled]

-- Apart from bodies, only the limiter enters anything.
theorem Passage.countsOf_limiter {origin : Origin} {outcome : Outcome σ Response}
    {labels : List Counter} (hlabels : ∀ fault, .bodyRejection fault ∉ labels)
    (h : service.Passage arrival exposure destination counting origin outcome) :
    outcome.journal.countsOf labels =
      if service.reachesLimiter arrival exposure counting then
        (service.entries arrival counting .rate).countsOf labels
      else 0 := by
  have hlength := countsOf_length hlabels service arrival counting
  have haccess := countsOf_access labels service arrival counting
  cases h with
  | untimed htime => simp [reachesLimiter, htime, Journal.countsOf, Journal.counters]
  | refused htime horder hpassed hrefused =>
      rcases stages_eq horder with ⟨rfl, rfl⟩ | ⟨rfl, ⟨rfl, rfl⟩ | ⟨rfl, rfl⟩⟩
      · simp [reachesLimiter, hrefused, hlength]
      · simp [reachesLimiter, hrefused, Journal.countsOf_append, hlength, haccess]
      · have henabled := isEnabled_of_limited hrefused
        simp_all [reachesLimiter, Journal.countsOf_append]
  | @replaced source claims rejection visited answer panicked htime hpassed hsource hvisited
      hcaught hoverflow =>
      have hbehind := countsOf_behind hvisited labels
        (exposure.stages.flatMap (service.entries arrival counting))
      have hreplaced : Journal.countsOf labels [
          .event (.responseReplaced arrival.id.text answer.status),
          .count (.bodyRejection .streamedOverflow)] = 0 := by
        simp [Journal.countsOf, Journal.counters, hlabels]
      rw [hcaught] at hbehind
      rw [Journal.countsOf_append, hreplaced, hbehind]
      exact countsOf_stages hlabels htime hpassed
  | ended htime hpassed hsource hvisited hkept =>
      rw [countsOf_behind hvisited]
      exact countsOf_stages hlabels htime hpassed

theorem isEnabled_of_reachesLimiter
    (h : service.reachesLimiter arrival exposure counting = true) :
    counting.limiter.isEnabled = true :=
  (Bool.and_eq_true _ _ ▸ h).2

theorem Passage.countsOf_decisions {origin : Origin} {outcome : Outcome σ Response}
    (h : service.Passage arrival exposure destination counting origin outcome) :
    outcome.journal.countsOf decisionLabels =
      if service.reachesLimiter arrival exposure counting then 1 else 0 := by
  rw [h.countsOf_limiter fun fault => by simp [decisionLabels]]
  split
  · rename_i hreaches
    obtain ⟨failOpen, hcounters⟩ := exists_counters_rate service arrival counting
    rw [Journal.countsOf, hcounters, if_pos (isEnabled_of_reachesLimiter hreaches)]
    have hdecision (allowed : Bool) :
        Counter.decision counting.limiter.backend allowed ∈ decisionLabels := by
      cases counting.limiter.backend <;> cases allowed <;> simp [decisionLabels]
    have hdegraded : Counter.degradedEntry failOpen ∉ decisionLabels := by simp [decisionLabels]
    split <;> simp [hdecision, hdegraded]
  · rfl

theorem Passage.countsOf_degraded {origin : Origin} {outcome : Outcome σ Response}
    (h : service.Passage arrival exposure destination counting origin outcome) :
    outcome.journal.countsOf degradedLabels =
      if service.reachesLimiter arrival exposure counting &&
        counting.limiter.endsInError service.store counting.store arrival.clock
          (service.clientOf arrival.request) then 1
      else 0 := by
  rw [h.countsOf_limiter fun fault => by simp [degradedLabels]]
  cases hreaches : service.reachesLimiter arrival exposure counting with
  | false => rfl
  | true =>
      obtain ⟨failOpen, hcounters⟩ := exists_counters_rate service arrival counting
      rw [Journal.countsOf, hcounters, if_pos (isEnabled_of_reachesLimiter hreaches)]
      cases counting.limiter.endsInError service.store counting.store arrival.clock
        (service.clientOf arrival.request) <;> cases failOpen <;> simp [degradedLabels]

end Service

end Server

end AdmissionControl
