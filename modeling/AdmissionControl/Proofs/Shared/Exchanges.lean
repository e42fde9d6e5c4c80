import AdmissionControl.Proofs.Shared.Turn

namespace AdmissionControl.RateLimit

open Identity

-- A store that also keeps a record of the calls to it.
def CounterStore.recorded (store : CounterStore σ) : CounterStore (σ × List Exchange) where
  load script s :=
    let (result, after) := store.load script s.1
    (result, after, s.2 ++ [.load script result])
  evaluate handle key secondsKept s :=
    let (result, after) := store.evaluate handle key secondsKept s.1
    (result, after, s.2 ++ [.evaluate handle key secondsKept result])
  ping s :=
    let (result, after) := store.ping s.1
    (result, after, s.2 ++ [.ping result])

namespace SharedLimiter

variable {σ : Type} {store : CounterStore σ} {s after : σ} {limiter : SharedLimiter} {call : Call}

def exchanges (store : CounterStore σ) (s : σ) (limiter : SharedLimiter) (clock : Clock)
    (client : Client) : List Exchange :=
  (limiter.allow store.recorded (s, []) clock client).2.2.1.2

-- A whole call, with what it exchanges with the store and what it comes to.
inductive Course (store : CounterStore σ) :
    σ → SharedLimiter → Call → List Exchange → Bool × SharedLimiter × σ × Journal → Prop where
  | last {s after : σ} {limiter later : SharedLimiter} {call : Call} {exchange : Exchange}
      {allowed : Bool} {journal : Journal}
      (hturn : Turn store s limiter call exchange ⟨.answered allowed, later, journal⟩ after) :
      Course store s limiter call [exchange] (allowed, later, after, journal)
  | more {s after : σ} {limiter later : SharedLimiter} {call next : Call} {exchange : Exchange}
      {rest : List Exchange} {journal : Journal} {result : Bool × SharedLimiter × σ × Journal}
      (hturn : Turn store s limiter call exchange ⟨.asking next, later, journal⟩ after)
      (hrest : Course store after later next rest result) :
      Course store s limiter call (exchange :: rest)
        (result.1, result.2.1, result.2.2.1, journal ++ result.2.2.2)

theorem finish_of_answered {allowed : Bool} {later : SharedLimiter} {journal : Journal}
    (hstep : step store s limiter call = (⟨.answered allowed, later, journal⟩, after)) :
    finish store s limiter call = (allowed, later, after, journal) := by
  rw [finish]
  split <;> simp_all

theorem finish_of_asking {next : Call} {later : SharedLimiter} {journal : Journal}
    (hstep : step store s limiter call = (⟨.asking next, later, journal⟩, after)) :
    finish store s limiter call =
      ((finish store after later next).1, (finish store after later next).2.1,
        (finish store after later next).2.2.1,
        journal ++ (finish store after later next).2.2.2) := by
  rw [finish]
  split <;> simp_all

theorem step_recorded (store : CounterStore σ) (s : σ) (log : List Exchange)
    (limiter : SharedLimiter) (call : Call) :
    step store.recorded (s, log) limiter call =
      ((step store s limiter call).1, (step store s limiter call).2,
        log ++ [exchange store s limiter call]) := by
  cases hphase : call.phase <;> simp [step, exchange, CounterStore.recorded, hphase]

-- Keeping a record changes nothing else, and what is recorded is the course of the call.
theorem exists_course (store : CounterStore σ) (s : σ) (log : List Exchange)
    (limiter : SharedLimiter) (call : Call) :
    ∃ made, Course store s limiter call made (finish store s limiter call) ∧
      finish store.recorded (s, log) limiter call =
        ((finish store s limiter call).1, (finish store s limiter call).2.1,
          ((finish store s limiter call).2.2.1, log ++ made),
          (finish store s limiter call).2.2.2) := by
  -- the rank of the phase falls with each step
  induction hrank : call.phase.rank using Nat.strongRecOn generalizing s log limiter call with
  | ind rank ih =>
      have hrecorded := step_recorded store s log limiter call
      rcases hstep : step store s limiter call with ⟨⟨progress, later, journal⟩, after⟩
      rw [hstep] at hrecorded
      have hturn := turn_of_step hstep
      cases progress with
      | answered allowed =>
          rw [finish_of_answered hstep, finish_of_answered hrecorded]
          exact ⟨_, .last hturn, rfl⟩
      | asking next =>
          have hlt : next.phase.rank < rank := by
            rw [← hrank]
            exact rank_step_lt (by rw [hstep])
          obtain ⟨rest, hcourse, hrest⟩ := ih _ hlt after
            (log ++ [exchange store s limiter call]) later next rfl
          rw [finish_of_asking hstep, finish_of_asking hrecorded, hrest]
          exact ⟨_, .more hturn hcourse, by simp⟩

theorem Course.ne_nil {made : List Exchange} {result : Bool × SharedLimiter × σ × Journal}
    (hcourse : Course store s limiter call made result) : made ≠ [] := by
  cases hcourse <;> simp

theorem Course.settings {made : List Exchange} {result : Bool × SharedLimiter × σ × Journal}
    (hcourse : Course store s limiter call made result) :
    result.2.1.settings = limiter.settings := by
  induction hcourse with
  | last hturn => exact hturn.settings
  | more hturn hrest ih => exact ih.trans hturn.settings

-- A call whose last exchange fails is answered by the policy for failures, and it
-- trips the breaker as of its start.
theorem Course.of_failed {made : List Exchange} {result : Bool × SharedLimiter × σ × Journal}
    (hcourse : Course store s limiter call made result)
    (hfailed : ∃ exchange ∈ made.getLast?, exchange.failed) :
    result.1 = limiter.settings.failOpen ∧
    result.2.1.breaker = limiter.breaker.trip call.startedAt limiter.settings.cooldown := by
  induction hcourse with
  | last hturn =>
      cases hturn with
      | counted handle again count after hphase hstore => simp [Exchange.failed] at hfailed
      | notLoaded again error after hphase hstore => exact ⟨rfl, rfl⟩
      | notCounted handle again error after hphase hstore hfinal => exact ⟨rfl, rfl⟩
  | more hturn hrest ih =>
      obtain ⟨first, others, rfl⟩ := List.exists_cons_of_ne_nil hrest.ne_nil
      have hlast := ih (by simpa only [List.getLast?_cons_cons] using hfailed)
      cases hturn with
      | loaded again handle after hphase hstore => exact hlast
      | scriptLost handle after hphase hstore => exact hlast

theorem course_of_asking (store : CounterStore σ) (s : σ) {clock : Clock} {client : Client}
    (hstart : limiter.start clock client = .asking call) :
    Course store s limiter call (exchanges store s limiter clock client)
      (limiter.allow store s clock client) := by
  obtain ⟨made, hcourse, hrecorded⟩ := exists_course store s [] limiter call
  simpa only [exchanges, allow, hstart, hrecorded, List.nil_append] using hcourse

theorem exchanges_of_answered {clock : Clock} {client : Client} {allowed : Bool}
    (hstart : limiter.start clock client = .answered allowed) :
    exchanges store s limiter clock client = [] := by
  simp only [exchanges, allow, hstart]

-- The store is asked unless the limiter is not in use or takes the store to be down.
theorem exchanges_eq_nil_iff (store : CounterStore σ) (s : σ) (limiter : SharedLimiter)
    (clock : Clock) (client : Client) :
    exchanges store s limiter clock client = [] ↔
      limiter.isEnabled = false ∨ limiter.breaker.isDegraded clock.monotonic = true := by
  cases hstart : limiter.start clock client with
  | answered allowed =>
      simp only [exchanges_of_answered hstart, true_iff]
      simp only [start] at hstart
      split_ifs at hstart <;> simp_all
  | asking call =>
      simp only [(course_of_asking store s hstart).ne_nil, false_iff]
      simp only [start] at hstart
      split_ifs at hstart
      simp_all

end SharedLimiter

end AdmissionControl.RateLimit
