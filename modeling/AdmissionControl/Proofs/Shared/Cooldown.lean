import AdmissionControl.Proofs.Breaker.Deadline
import AdmissionControl.Proofs.Shared.Exchanges
import AdmissionControl.RateLimit.ScriptedStore
import Mathlib.Data.List.Induction

namespace AdmissionControl.RateLimit

open Identity

-- One limiter with its store and its clock, while its calls come one after another.
structure Moment (σ : Type) where
  limiter : SharedLimiter
  store : σ
  clock : Clock

-- Between two calls the clock may be moved and the store may turn into any other.
inductive Change (σ : Type) where
  | called (client : Client)
  | clockMoved (clock : Clock)
  | storeChanged (store : σ)

namespace Moment

variable {σ : Type} (store : CounterStore σ)

def now (m : Moment σ) : Nat := m.clock.monotonic.nanos

def answer (m : Moment σ) (client : Client) : Bool :=
  (m.limiter.allow store m.store m.clock client).1

def exchanges (m : Moment σ) (client : Client) : List Exchange :=
  m.limiter.exchanges store m.store m.clock client

def step (m : Moment σ) : Change σ → Moment σ
  | .called client => { m with
      limiter := (m.limiter.allow store m.store m.clock client).2.1
      store := (m.limiter.allow store m.store m.clock client).2.2.1 }
  | .clockMoved clock => { m with clock }
  | .storeChanged store => { m with store }

def run (m : Moment σ) (changes : List (Change σ)) : Moment σ := changes.foldl (step store) m

-- The wall clock may jump, but monotonic time never goes back.
def Forward : Moment σ → List (Change σ) → Prop
  | _, [] => True
  | m, change :: rest => m.now ≤ (m.step store change).now ∧ Forward (m.step store change) rest

-- No call of the run is at the deadline or later.
def CalledBefore (deadline : Nat) (m : Moment σ) (changes : List (Change σ)) : Prop :=
  ∀ earlier client rest, changes = earlier ++ .called client :: rest →
    (m.run store earlier).now < deadline

-- A limiter in use whose breaker tells degraded mode from normal at the deadline.
structure Suspended (deadline : Nat) (limiter : SharedLimiter) : Prop where
  enabled : limiter.isEnabled = true
  degraded_iff : ∀ span, limiter.breaker.isDegraded span = true ↔ span.nanos < deadline

variable {store} {m : Moment σ} {deadline : Nat} {changes : List (Change σ)}

theorem now_le_run (hforward : Forward store m changes) : m.now ≤ (m.run store changes).now := by
  induction changes generalizing m with
  | nil => exact Nat.le_refl _
  | cons change rest ih => exact Nat.le_trans hforward.1 (ih hforward.2)

theorem forward_append {earlier later : List (Change σ)} :
    Forward store m (earlier ++ later) ↔
      Forward store m earlier ∧ Forward store (m.run store earlier) later := by
  induction earlier generalizing m with
  | nil => simp [Forward, run]
  | cons change rest ih =>
      simp only [List.cons_append, Forward, ih, and_assoc]
      rfl

-- Time only goes on, so nothing has come after a deadline that is still ahead.
theorem calledBefore_of_forward (hforward : Forward store m changes)
    (hbefore : (m.run store changes).now < deadline) : CalledBefore store deadline m changes := by
  rintro earlier client rest rfl
  have hle := now_le_run (forward_append.mp hforward).2
  simp only [run, List.foldl_append] at hbefore hle ⊢
  omega

theorem call_of_suspended (store : CounterStore σ) (hsuspended : Suspended deadline m.limiter)
    (hbefore : m.now < deadline) (client : Client) :
    m.answer store client = m.limiter.settings.failOpen ∧
    m.exchanges store client = [] ∧ m.step store (.called client) = m := by
  have hdegraded : m.limiter.breaker.isDegraded m.clock.monotonic = true :=
    (hsuspended.degraded_iff _).mpr hbefore
  have hstart : m.limiter.start m.clock client = .answered m.limiter.settings.failOpen := by
    simp [SharedLimiter.start, hsuspended.enabled, hdegraded]
  refine ⟨?_, SharedLimiter.exchanges_of_answered hstart, ?_⟩
  · simp only [answer, SharedLimiter.allow, hstart]
  · simp only [step, SharedLimiter.allow, hstart]

-- No change before the deadline touches the limiter but a call, and no call does.
theorem limiter_run_of_suspended (hsuspended : Suspended deadline m.limiter)
    (hcalls : CalledBefore store deadline m changes) :
    (m.run store changes).limiter = m.limiter := by
  induction changes using List.reverseRecOn with
  | nil => rfl
  | append_singleton earlier change ih =>
      have hkept := ih fun first client rest he =>
        hcalls first client (rest ++ [change]) (by simp [he])
      have hrun : m.run store (earlier ++ [change]) = (m.run store earlier).step store change := by
        simp [run]
      rw [hrun]
      cases change with
      | called client =>
          have hbefore := hcalls earlier client [] rfl
          rw [(call_of_suspended store (by rwa [hkept]) hbefore client).2.2]
          exact hkept
      | clockMoved clock => exact hkept
      | storeChanged store => exact hkept

theorem suspended_of_failed {client : Client} (hlimit : 0 < m.limiter.settings.limit)
    (hcooldown : 0 < m.limiter.settings.cooldown.nanos)
    (hfits : m.now + m.limiter.settings.cooldown.nanos < UInt64.size - 1)
    (hfailed : ∃ exchange ∈ (m.exchanges store client).getLast?, exchange.failed) :
    m.answer store client = m.limiter.settings.failOpen ∧
    (m.step store (.called client)).limiter.settings = m.limiter.settings ∧
    Suspended (m.now + m.limiter.settings.cooldown.nanos)
      (m.step store (.called client)).limiter := by
  cases hstart : m.limiter.start m.clock client with
  | answered allowed =>
      rw [exchanges, SharedLimiter.exchanges_of_answered hstart] at hfailed
      simp at hfailed
  | asking call =>
      have hcourse := SharedLimiter.course_of_asking store m.store hstart
      obtain ⟨hanswer, hbreaker⟩ := hcourse.of_failed hfailed
      have hsettings := hcourse.settings
      refine ⟨hanswer, hsettings, ?_, fun span => ?_⟩
      · simpa [SharedLimiter.isEnabled, step, hsettings] using hlimit
      · simp only [step, hbreaker, SharedLimiter.startedAt_of_start hstart]
        exact Breaker.isDegraded_trip_iff _ hcooldown (Nat.le_of_lt hfits) span

-- One failed call answers for the whole cooldown and not longer: until then the
-- store is left alone, whoever calls and whatever the wall clock does, and the
-- first call after that asks it again.
theorem cooldown_exact (store : CounterStore σ) (m : Moment σ) (client : Client)
    (hlimit : 0 < m.limiter.settings.limit)
    (hcooldown : 0 < m.limiter.settings.cooldown.nanos)
    (hfits : m.now + m.limiter.settings.cooldown.nanos < UInt64.size - 1)
    (hfailed : ∃ exchange ∈ (m.exchanges store client).getLast?, exchange.failed) :
    m.answer store client = m.limiter.settings.failOpen ∧
    ∀ changes, Forward store (m.step store (.called client)) changes → ∀ other,
      let later := (m.step store (.called client)).run store changes
      (later.now < m.now + m.limiter.settings.cooldown.nanos →
        later.answer store other = m.limiter.settings.failOpen ∧
        later.exchanges store other = [] ∧ later.step store (.called other) = later) ∧
      (m.now + m.limiter.settings.cooldown.nanos ≤ later.now →
        CalledBefore store (m.now + m.limiter.settings.cooldown.nanos)
          (m.step store (.called client)) changes →
        later.exchanges store other ≠ []) := by
  obtain ⟨hanswer, hsettings, hsuspended⟩ := suspended_of_failed hlimit hcooldown hfits hfailed
  refine ⟨hanswer, fun changes hforward other => ⟨fun hbefore => ?_, fun hafter hcalls => ?_⟩⟩
  · have hkept := limiter_run_of_suspended hsuspended (calledBefore_of_forward hforward hbefore)
    have hcall := call_of_suspended store (by rwa [hkept]) hbefore other
    rwa [hkept, hsettings] at hcall
  · have hkept := limiter_run_of_suspended hsuspended hcalls
    have hnormal := mt (hsuspended.degraded_iff _).mp (Nat.not_lt.mpr hafter)
    rw [exchanges, ne_eq, SharedLimiter.exchanges_eq_nil_iff, hkept]
    simp only [hsuspended.enabled, Bool.true_eq_false, false_or]
    exact hnormal

-- A store that is down, a wall clock that is set back, and a store that is up again
-- one nanosecond before the end of the cooldown and at its end.
theorem cooldown_exact_of_down :
    let m : Moment ScriptedStore :=
      ⟨.fresh ⟨5, "budget", 120, .ofSeconds 30, true⟩, { down := true }, .startingAt 60⟩
    let failed := m.step ScriptedStore.store (.called ⟨"203.0.113.5"⟩)
    let before := failed.run ScriptedStore.store
      [.clockMoved ⟨0, 29999999999⟩, .storeChanged {}]
    let after := failed.run ScriptedStore.store
      [.clockMoved ⟨0, 30000000000⟩, .storeChanged {}]
    m.answer ScriptedStore.store ⟨"203.0.113.5"⟩ = true ∧
    before.answer ScriptedStore.store ⟨"203.0.113.6"⟩ = true ∧
    before.exchanges ScriptedStore.store ⟨"203.0.113.6"⟩ = [] ∧
    after.exchanges ScriptedStore.store ⟨"203.0.113.6"⟩ ≠ [] := by
  intro m failed before after
  have hstart : m.limiter.start m.clock ⟨"203.0.113.5"⟩ = .asking
      ⟨m.clock.monotonic, SharedLimiter.key m.limiter.settings m.clock.bucket ⟨"203.0.113.5"⟩,
        .loading false⟩ := rfl
  have hexchanges : m.exchanges ScriptedStore.store ⟨"203.0.113.5"⟩ =
      [.load windowScript (.error ScriptedStore.refused)] := by
    simp only [exchanges, SharedLimiter.exchanges, SharedLimiter.allow, hstart]
    rw [SharedLimiter.finish_of_answered rfl]
    rfl
  have hfailed : ∃ exchange ∈ (m.exchanges ScriptedStore.store ⟨"203.0.113.5"⟩).getLast?,
      exchange.failed := by
    simp [hexchanges, Exchange.failed]
  obtain ⟨hanswer, hruns⟩ := cooldown_exact ScriptedStore.store m ⟨"203.0.113.5"⟩ (by decide)
    (by decide) (by decide) hfailed
  have hbefore := (hruns [.clockMoved ⟨0, 29999999999⟩, .storeChanged {}]
    ⟨by decide, by decide, trivial⟩ ⟨"203.0.113.6"⟩).1 (by decide)
  have hafter := (hruns [.clockMoved ⟨0, 30000000000⟩, .storeChanged {}]
    ⟨by decide, by decide, trivial⟩ ⟨"203.0.113.6"⟩).2 (by decide)
    (by
      intro earlier client rest he
      simp [List.cons_eq_append_iff] at he)
  exact ⟨hanswer, hbefore.1, hbefore.2.1, hafter⟩

end Moment

end AdmissionControl.RateLimit
