import AdmissionControl.Proofs.BodyGuard.Observed
import AdmissionControl.Server.Respond

namespace AdmissionControl.Server

open BodyGuard Http RateLimit

variable {σ : Type} {P : Source → Prop}

theorem guardBody_of_admitted {declared : Option UInt64} {pipeline : Pipeline} {request : Request}
    (hguarded : pipeline.bodyPolicy.appliesTo request.method request.target.path = true)
    (hadmitted : pipeline.bodyPolicy.declaredLength request.headers = .ok declared) :
    pipeline.guardBody request =
      (.ok (.guarded (.start pipeline.bodyPolicy.limit declared request.body)), []) := by
  simp [Pipeline.guardBody, Policy.enter, hguarded, hadmitted, Except.map]

-- A handler gets at its body by reading only.
theorem Activity.run_keeps (hkeeps : ∀ source, P source → P source.read.2.1) (left : Span)
    (activity : Activity) (source : Source) (h : P source) : P (activity.run left source).2.1 := by
  induction activity generalizing left source with
  | respond response => exact h
  | panic detail => exact h
  | take next ih => exact ih _ left _ (hkeeps source h)
  | collect next ih => exact ih _ left _ (Source.collect_keeps hkeeps source _ h)
  | wait span next ih =>
      simp only [Activity.run]
      split
      · exact h
      · exact ih _ source h

namespace Service

theorem visit_keeps (hkeeps : ∀ source, P source → P source.read.2.1) (service : Service σ)
    (arrival : Arrival) (destination : Destination) (claims : Option Access.Claims)
    (source : Source) (counting : Counting σ) (h : P source) :
    P (service.visit arrival destination claims source counting).answer.2 := by
  cases destination with
  | nowhere => exact h
  | methodMissing => exact h
  | endpoint endpoint parameters =>
      cases endpoint with
      | live => exact h
      | ready => exact h
      | handler handle => exact Activity.run_keeps hkeeps _ _ _ h

theorem checked_keeps (hkeeps : ∀ source, P source → P source.read.2.1) (service : Service σ)
    (arrival : Arrival) (destination : Destination) (source : Source) (counting : Counting σ)
    (h : P source) : P (service.checked arrival destination source counting).answer.2 := by
  simp only [checked]
  split
  · exact h
  · split
    · exact h
    · exact visit_keeps hkeeps service _ _ _ _ _ h

theorem dispatch_keeps (hkeeps : ∀ source, P source → P source.read.2.1) (service : Service σ)
    (arrival : Arrival) (exposure : Exposure) (destination : Destination) (source : Source)
    (counting : Counting σ) (h : P source) :
    P (service.dispatch arrival exposure destination source counting).answer.2 := by
  cases exposure with
  | anyone => exact visit_keeps hkeeps service _ _ _ _ _ h
  | checked => exact checked_keeps hkeeps service _ _ _ _ h

theorem exists_caught {conclusion : Conclusion} (hfinished : conclusion ≠ .interrupted) :
    ∃ response panicked, caught conclusion = (some response, panicked) := by
  cases conclusion with
  | responded response => exact ⟨response, [], rfl⟩
  | panicked detail => exact ⟨_, _, rfl⟩
  | interrupted => exact absurd rfl hfinished

variable {service : Service σ} {arrival : Arrival} {exposure : Exposure}
variable {destination : Destination} {counting : Counting σ} {journal : Journal}

theorem guarded_of_error {rejection : Rejection}
    (hguard : service.pipeline.guardBody arrival.request = (.error rejection, journal)) :
    service.guarded arrival exposure destination counting =
      ⟨some (rejection.response (some arrival.id.text)), counting, journal⟩ := by
  simp only [guarded, hguard]

theorem guarded_of_overflow {source last : Source} {conclusion : Conclusion} {rejection : Rejection}
    {response : Response} {panicked : Journal}
    (hguard : service.pipeline.guardBody arrival.request = (.ok source, journal))
    (hanswer : (service.dispatch arrival exposure destination source counting).answer =
      (conclusion, last))
    (hcaught : caught conclusion = (some response, panicked))
    (hoverflow : last.rejection? = some rejection) :
    let downstream := service.dispatch arrival exposure destination source counting
    service.guarded arrival exposure destination counting =
      ⟨some (rejection.response (some arrival.id.text)), downstream.counting,
        journal ++ downstream.journal ++ panicked ++ [
          .event (.responseReplaced arrival.id.text response.status),
          .count (.bodyRejection .streamedOverflow)]⟩ := by
  simp only [guarded, hguard, hanswer, hcaught, hoverflow]

theorem guarded_of_within {source last : Source} {conclusion : Conclusion}
    (hguard : service.pipeline.guardBody arrival.request = (.ok source, journal))
    (hanswer : (service.dispatch arrival exposure destination source counting).answer =
      (conclusion, last))
    (hwithin : last.rejection? = none) :
    let downstream := service.dispatch arrival exposure destination source counting
    service.guarded arrival exposure destination counting =
      ⟨(caught conclusion).1, downstream.counting,
        journal ++ downstream.journal ++ (caught conclusion).2⟩ := by
  simp only [guarded, hguard, hanswer, hwithin]
  split <;> simp_all

-- Whatever comes of a request behind the guard, a body of which more than the limit has
-- been taken is the answer, and any other body changes nothing about the answer.
theorem overflow_decides_answer (service : Service σ) (arrival : Arrival) (exposure : Exposure)
    (destination : Destination) (counting : Counting σ) (declared : Option UInt64)
    (hguarded : service.pipeline.bodyPolicy.appliesTo arrival.request.method
      arrival.request.target.path = true)
    (hadmitted : service.pipeline.bodyPolicy.declaredLength arrival.request.headers =
      .ok declared) :
    let limit := service.pipeline.bodyPolicy.limit
    let downstream := service.dispatch arrival exposure destination
      (.guarded (.start limit declared arrival.request.body)) counting
    let taken := downstream.answer.2.taken arrival.request.body
    let answer := (service.guarded arrival exposure destination counting).answer
    downstream.answer.1 ≠ .interrupted → Countable limit taken →
    (limit.toNat < byteCount taken → ∃ observed : UInt64, observed.toNat = byteCount taken ∧
      answer = some ((Rejection.payloadTooLarge limit declared (some observed)).response
        (some arrival.id.text))) ∧
    (byteCount taken ≤ limit.toNat →
      (∀ response, downstream.answer.1 = .responded response → answer = some response) ∧
      ∀ detail, downstream.answer.1 = .panicked detail →
        answer = some (Rejection.internal.response none)) := by
  intro limit downstream taken answer hfinished hcountable
  have hguard := guardBody_of_admitted hguarded hadmitted
  have htallied : Source.Tallied limit declared arrival.request.body downstream.answer.2 :=
    dispatch_keeps (fun source h => h.read) service arrival exposure destination _
      counting ⟨_, [], rfl, Stream.tallied_start limit declared arrival.request.body⟩
  obtain ⟨observed, hobserved, hrejection⟩ := htallied.rejection?_eq hcountable
  have hanswer : downstream.answer = (downstream.answer.1, downstream.answer.2) := rfl
  refine ⟨fun hover => ⟨observed, hobserved, ?_⟩, fun hwithin => ?_⟩
  · obtain ⟨response, panicked, hcaught⟩ := exists_caught hfinished
    rw [if_pos hover] at hrejection
    exact congrArg Outcome.answer (guarded_of_overflow hguard hanswer hcaught hrejection)
  · rw [if_neg (Nat.not_lt.mpr hwithin)] at hrejection
    have hsame : answer = (caught downstream.answer.1).1 :=
      congrArg Outcome.answer (guarded_of_within hguard hanswer hrejection)
    exact ⟨fun response h => by rw [hsame, h]; rfl, fun detail h => by rw [hsame, h]; rfl⟩

-- Six bytes in two chunks where four are allowed, and a handler that takes three items,
-- the last of them never sent, and panics.
theorem overflow_decides_answer_of_panic :
    let service : Service Unit :=
      ⟨⟨.none, ⟨4, "/api/"⟩, .disabled⟩, .silent .zero, .ofSeconds 30, []⟩
    let body : Body := [.chunk ⟨#[1, 2, 3]⟩, .chunk ⟨#[4, 5, 6]⟩, .chunk ⟨#[7]⟩]
    let arrival : Arrival := ⟨⟨.post, ⟨"/api/items"⟩, [], body, none⟩, ⟨0, 0⟩, ⟨"a", true⟩⟩
    let handler : Handler := fun _ => .take fun _ => .take fun _ => .take fun _ => .panic none
    let counting : Counting Unit := ⟨.inMemory (.withLimit 0), ()⟩
    ∃ observed : UInt64, observed.toNat = 6 ∧
      (service.guarded arrival .anyone (.endpoint (.handler handler) []) counting).answer =
        some ((Rejection.payloadTooLarge 4 none (some observed)).response (some "a")) := by
  intro service body arrival handler counting
  have hcountable : Countable 4 [.chunk ⟨#[1, 2, 3]⟩, .chunk ⟨#[4, 5, 6]⟩] := by
    refine countable_of_small (by decide) fun bytes hb => ?_
    simp only [List.mem_cons, BodyItem.chunk.injEq, List.not_mem_nil, or_false] at hb
    rcases hb with rfl | rfl <;> decide
  have hfinished : (service.dispatch arrival .anyone (.endpoint (.handler handler) [])
      (.guarded (.start 4 none body)) counting).answer.1 ≠ .interrupted := by
    intro hinterrupted
    cases hinterrupted
  obtain ⟨hover, -⟩ := overflow_decides_answer service arrival .anyone
    (.endpoint (.handler handler) []) counting none (by decide) rfl hfinished hcountable
  exact hover (by decide)

end Service

end AdmissionControl.Server
