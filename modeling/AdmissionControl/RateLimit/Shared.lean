import AdmissionControl.Identity.Client
import AdmissionControl.RateLimit.Breaker
import AdmissionControl.RateLimit.Store
import AdmissionControl.Time.Clock

namespace AdmissionControl.RateLimit

open Identity

structure SharedSettings where
  limit : Nat
  keyRoot : String
  secondsKept : UInt64
  cooldown : Span
  failOpen : Bool

-- A limiter whose counters are kept in a store that several instances share.
-- It remembers the handle of the script and whether the store has failed.
structure SharedLimiter where
  settings : SharedSettings
  handle : Option String
  breaker : Breaker

namespace SharedLimiter

def fresh (settings : SharedSettings) : SharedLimiter := ⟨settings, none, .closed⟩

def isEnabled (limiter : SharedLimiter) : Bool := 0 < limiter.settings.limit

-- One counter for each client and minute.
def key (settings : SharedSettings) (bucket : UInt64) (client : Client) : String :=
  settings.keyRoot ++ ":" ++ toString bucket.toNat ++ ":" ++ client.name

end SharedLimiter

-- What a call asks the store next. `again` tells whether the store has already
-- lost the script once in this call.
inductive Phase where
  | loading (again : Bool)
  | evaluating (handle : String) (again : Bool)

-- A call for one request that is on its way. It holds the time of its start.
structure Call where
  startedAt : Span
  key : String
  phase : Phase

-- A call either goes on or has its answer.
inductive Progress where
  | asking (call : Call)
  | answered (allowed : Bool)

structure Step where
  progress : Progress
  limiter : SharedLimiter
  journal : Journal

namespace SharedLimiter

-- Nothing is asked of the store while it is taken to be down.
def start (limiter : SharedLimiter) (clock : Clock) (client : Client) : Progress :=
  if ¬ limiter.isEnabled then .answered true
  else if limiter.breaker.isDegraded clock.monotonic then .answered limiter.settings.failOpen
  else
    .asking {
      startedAt := clock.monotonic
      key := key limiter.settings clock.bucket client
      phase :=
        match limiter.handle with
        | some handle => .evaluating handle false
        | none => .loading false }

-- One failure opens the breaker, from the start of the call for the whole cooldown.
def fail (limiter : SharedLimiter) (call : Call) (error : StoreError) : Step where
  progress := .answered limiter.settings.failOpen
  limiter := { limiter with
    breaker := limiter.breaker.trip call.startedAt limiter.settings.cooldown }
  journal := [
    .event (.storeFailed error limiter.settings.cooldown.wholeSeconds limiter.settings.failOpen),
    .count (.degradedEntry limiter.settings.failOpen)]

def succeed (limiter : SharedLimiter) (count : Int) : Step where
  progress := .answered (count ≤ limiter.settings.limit)
  limiter := { limiter with breaker := limiter.breaker.reset }
  journal := []

def loaded (limiter : SharedLimiter) (call : Call) (again : Bool) :
    Except StoreError String → Step
  | .error error => limiter.fail call error
  | .ok handle => {
      progress := .asking { call with phase := .evaluating handle again }
      limiter := { limiter with handle := some handle }
      journal := [] }

-- A script that the store has lost is loaded again, but only once.
def evaluated (limiter : SharedLimiter) (call : Call) (again : Bool) :
    Except StoreError Int → Step
  | .ok count => limiter.succeed count
  | .error .unknownScript =>
    if again then limiter.fail call .unknownScript
    else {
      progress := .asking { call with phase := .loading true }
      limiter := limiter
      journal := [.event .scriptEvicted] }
  | .error error => limiter.fail call error

-- One call to the store and what follows from its answer.
def step (store : CounterStore σ) (s : σ) (limiter : SharedLimiter) (call : Call) : Step × σ :=
  match call.phase with
  | .loading again =>
    let (result, s) := store.load windowScript s
    (limiter.loaded call again result, s)
  | .evaluating handle again =>
    let (result, s) := store.evaluate handle call.key limiter.settings.secondsKept s
    (limiter.evaluated call again result, s)

end SharedLimiter

-- How many calls to the store may still follow.
def Phase.rank : Phase → Nat
  | .loading false => 3
  | .evaluating _ false => 2
  | .loading true => 1
  | .evaluating _ true => 0

namespace SharedLimiter

theorem rank_step_lt {store : CounterStore σ} {s : σ} {limiter : SharedLimiter} {call next : Call}
    (h : (step store s limiter call).1.progress = .asking next) :
    next.phase.rank < call.phase.rank := by
  unfold step at h
  split at h
  · rename_i again hphase
    simp only at h
    unfold loaded at h
    split at h
    · simp [fail] at h
    · simp only [Progress.asking.injEq] at h
      subst h
      cases again <;> simp [hphase, Phase.rank]
  · rename_i handle again hphase
    simp only at h
    unfold evaluated at h
    split at h
    · simp [succeed] at h
    · split at h
      · simp [fail] at h
      · simp only [Progress.asking.injEq] at h
        subst h
        cases again <;> simp_all [Phase.rank]
    · simp [fail] at h

-- Runs a call to its end with nothing in between.
def finish (store : CounterStore σ) (s : σ) (limiter : SharedLimiter) (call : Call) :
    Bool × SharedLimiter × σ × Journal :=
  match h : step store s limiter call with
  | (⟨.answered allowed, limiter, journal⟩, s) => (allowed, limiter, s, journal)
  | (⟨.asking next, limiter, journal⟩, s) =>
    have : next.phase.rank < call.phase.rank := rank_step_lt (by rw [h])
    let (allowed, limiter, s, later) := finish store s limiter next
    (allowed, limiter, s, journal ++ later)
termination_by call.phase.rank

def allow (store : CounterStore σ) (s : σ) (limiter : SharedLimiter) (clock : Clock)
    (client : Client) : Bool × SharedLimiter × σ × Journal :=
  match limiter.start clock client with
  | .answered allowed => (allowed, limiter, s, [])
  | .asking call => finish store s limiter call

end SharedLimiter

end AdmissionControl.RateLimit
