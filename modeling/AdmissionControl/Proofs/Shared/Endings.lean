import AdmissionControl.Proofs.Shared.Exchanges

namespace AdmissionControl

theorem Journal.counters_append (front back : Journal) :
    Journal.counters (front ++ back) = front.counters ++ back.counters :=
  List.filterMap_append

namespace RateLimit.SharedLimiter

open Identity

variable {σ : Type} {store : CounterStore σ} {s : σ} {limiter : SharedLimiter} {clock : Clock}
variable {client : Client} {call : Call} {made : List Exchange}
variable {result : Bool × SharedLimiter × σ × Journal}

-- The store is asked, and the last that comes back is an error.
def endsInError (store : CounterStore σ) (s : σ) (limiter : SharedLimiter) (clock : Clock)
    (client : Client) : Bool :=
  (exchanges store s limiter clock client).getLast?.any Exchange.failed

-- The last that comes back from the store is a count.
def EndsInCount (store : CounterStore σ) (s : σ) (limiter : SharedLimiter) (clock : Clock)
    (client : Client) (count : Int) : Prop :=
  ∃ handle key secondsKept, (exchanges store s limiter clock client).getLast? =
    some (.evaluate handle key secondsKept (.ok count))

theorem Course.of_counted {handle key : String} {secondsKept : UInt64} {count : Int}
    (hcourse : Course store s limiter call made result)
    (hcounted : made.getLast? = some (.evaluate handle key secondsKept (.ok count))) :
    result.1 = decide (count ≤ limiter.settings.limit) := by
  induction hcourse with
  | last hturn =>
      cases hturn with
      | counted handle again counted after hphase hstore =>
          cases hcounted
          rfl
      | notLoaded again error after hphase hstore => cases hcounted
      | notCounted handle again error after hphase hstore hfinal => cases hcounted
  | more hturn hrest ih =>
      obtain ⟨first, others, rfl⟩ := List.exists_cons_of_ne_nil hrest.ne_nil
      have hlast := ih (by simpa only [List.getLast?_cons_cons] using hcounted)
      rwa [hturn.settings] at hlast

-- Only a call that ends in an error is entered as a failure, and it is entered once.
theorem Course.counters_eq (hcourse : Course store s limiter call made result) :
    result.2.2.2.counters =
      if made.getLast?.any Exchange.failed then [.degradedEntry limiter.settings.failOpen]
      else [] := by
  induction hcourse with
  | last hturn =>
      cases hturn with
      | counted handle again count after hphase hstore => rfl
      | notLoaded again error after hphase hstore => rfl
      | notCounted handle again error after hphase hstore hfinal => rfl
  | more hturn hrest ih =>
      obtain ⟨first, others, rfl⟩ := List.exists_cons_of_ne_nil hrest.ne_nil
      rw [Journal.counters_append, ih, hturn.settings, List.getLast?_cons_cons]
      cases hturn <;> rfl

theorem settings_allow (store : CounterStore σ) (s : σ) (limiter : SharedLimiter) (clock : Clock)
    (client : Client) : (limiter.allow store s clock client).2.1.settings = limiter.settings := by
  cases hstart : limiter.start clock client with
  | answered allowed => simp only [allow, hstart]
  | asking call => exact (course_of_asking store s hstart).settings

theorem counters_allow (store : CounterStore σ) (s : σ) (limiter : SharedLimiter) (clock : Clock)
    (client : Client) :
    (limiter.allow store s clock client).2.2.2.counters =
      if limiter.endsInError store s clock client then [.degradedEntry limiter.settings.failOpen]
      else [] := by
  cases hstart : limiter.start clock client with
  | answered allowed =>
      simp only [endsInError, exchanges_of_answered hstart, allow, hstart]
      rfl
  | asking call => exact (course_of_asking store s hstart).counters_eq

theorem allow_of_endsInError (h : limiter.endsInError store s clock client = true) :
    (limiter.allow store s clock client).1 = limiter.settings.failOpen := by
  cases hstart : limiter.start clock client with
  | answered allowed => simp [endsInError, exchanges_of_answered hstart] at h
  | asking call =>
      have hfailed := (Option.any_eq_true _ _).mp h
      exact ((course_of_asking store s hstart).of_failed hfailed).1

theorem allow_of_endsInCount {count : Int} (h : limiter.EndsInCount store s clock client count) :
    (limiter.allow store s clock client).1 = decide (count ≤ limiter.settings.limit) := by
  obtain ⟨handle, key, secondsKept, hlast⟩ := h
  cases hstart : limiter.start clock client with
  | answered allowed => simp [exchanges_of_answered hstart] at hlast
  | asking call => exact (course_of_asking store s hstart).of_counted hlast

theorem isEnabled_of_endsInCount {count : Int}
    (h : limiter.EndsInCount store s clock client count) : limiter.isEnabled = true := by
  obtain ⟨handle, key, secondsKept, hlast⟩ := h
  cases henabled : limiter.isEnabled with
  | true => rfl
  | false =>
      have hnone := (exchanges_eq_nil_iff store s limiter clock client).mpr (Or.inl henabled)
      simp [hnone] at hlast

-- A script that the store still has is answered with a count at once.
theorem endsInCount_of_evaluate {handle : String} {count : Int} {after : σ}
    (hstart : limiter.start clock client = .asking call)
    (hphase : call.phase = .evaluating handle false)
    (hstore : store.evaluate handle call.key limiter.settings.secondsKept s = (.ok count, after)) :
    limiter.EndsInCount store s clock client count := by
  have hstep : step store.recorded (s, []) limiter call = (limiter.succeed count, (after,
      [.evaluate handle call.key limiter.settings.secondsKept (.ok count)])) := by
    simp [step, hphase, CounterStore.recorded, hstore, evaluated]
  refine ⟨handle, call.key, limiter.settings.secondsKept, ?_⟩
  simp only [exchanges, allow, hstart, finish_of_answered hstep]
  rfl

theorem allow_of_degraded (henabled : limiter.isEnabled = true)
    (hdegraded : limiter.breaker.isDegraded clock.monotonic = true) :
    (limiter.allow store s clock client).1 = limiter.settings.failOpen := by
  simp [allow, start, henabled, hdegraded]

theorem allow_of_disabled (hdisabled : limiter.isEnabled = false) :
    (limiter.allow store s clock client).1 = true := by
  simp [allow, start, hdisabled]

end RateLimit.SharedLimiter

end AdmissionControl
