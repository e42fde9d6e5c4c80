import AdmissionControl.RateLimit.Shared
import Mathlib.Tactic.SplitIfs

namespace AdmissionControl.RateLimit

open Identity

-- A call to the store and what came back.
inductive Exchange where
  | load (script : String) (result : Except StoreError String)
  | evaluate (handle key : String) (secondsKept : UInt64) (result : Except StoreError Int)
  | ping (result : Except StoreError Unit)

def Exchange.failed : Exchange → Bool
  | .load _ (.error _) | .evaluate _ _ _ (.error _) | .ping (.error _) => true
  | _ => false

namespace SharedLimiter

variable {σ : Type}

def exchange (store : CounterStore σ) (s : σ) (limiter : SharedLimiter) (call : Call) : Exchange :=
  match call.phase with
  | .loading _ => .load windowScript (store.load windowScript s).1
  | .evaluating handle _ =>
    .evaluate handle call.key limiter.settings.secondsKept
      (store.evaluate handle call.key limiter.settings.secondsKept s).1

-- All that can come of one call to the store. It is not the last one only when the
-- script could be loaded or is found lost for the first time.
inductive Turn (store : CounterStore σ) (s : σ) (limiter : SharedLimiter) (call : Call) :
    Exchange → Step → σ → Prop where
  | loaded (again : Bool) (handle : String) (after : σ)
      (hphase : call.phase = .loading again)
      (hstore : store.load windowScript s = (.ok handle, after)) :
      Turn store s limiter call (.load windowScript (.ok handle))
        ⟨.asking { call with phase := .evaluating handle again },
          { limiter with handle := some handle }, []⟩ after
  | notLoaded (again : Bool) (error : StoreError) (after : σ)
      (hphase : call.phase = .loading again)
      (hstore : store.load windowScript s = (.error error, after)) :
      Turn store s limiter call (.load windowScript (.error error)) (limiter.fail call error) after
  | counted (handle : String) (again : Bool) (count : Int) (after : σ)
      (hphase : call.phase = .evaluating handle again)
      (hstore : store.evaluate handle call.key limiter.settings.secondsKept s =
        (.ok count, after)) :
      Turn store s limiter call
        (.evaluate handle call.key limiter.settings.secondsKept (.ok count))
        (limiter.succeed count) after
  | scriptLost (handle : String) (after : σ)
      (hphase : call.phase = .evaluating handle false)
      (hstore : store.evaluate handle call.key limiter.settings.secondsKept s =
        (.error .unknownScript, after)) :
      Turn store s limiter call
        (.evaluate handle call.key limiter.settings.secondsKept (.error .unknownScript))
        ⟨.asking { call with phase := .loading true }, limiter, [.event .scriptEvicted]⟩ after
  | notCounted (handle : String) (again : Bool) (error : StoreError) (after : σ)
      (hphase : call.phase = .evaluating handle again)
      (hstore : store.evaluate handle call.key limiter.settings.secondsKept s =
        (.error error, after))
      (hfinal : error = .unknownScript → again = true) :
      Turn store s limiter call
        (.evaluate handle call.key limiter.settings.secondsKept (.error error))
        (limiter.fail call error) after

theorem turn (store : CounterStore σ) (s : σ) (limiter : SharedLimiter) (call : Call) :
    Turn store s limiter call (exchange store s limiter call) (step store s limiter call).1
      (step store s limiter call).2 := by
  cases hphase : call.phase with
  | loading again =>
      cases hstore : store.load windowScript s with
      | mk result after =>
          cases result with
          | ok handle =>
              simpa [step, exchange, hphase, hstore, loaded] using
                Turn.loaded again handle after hphase hstore
          | error error =>
              simpa [step, exchange, hphase, hstore, loaded] using
                Turn.notLoaded again error after hphase hstore
  | evaluating handle again =>
      cases hstore : store.evaluate handle call.key limiter.settings.secondsKept s with
      | mk result after =>
          cases result with
          | ok count =>
              simpa [step, exchange, hphase, hstore, evaluated] using
                Turn.counted handle again count after hphase hstore
          | error error =>
              by_cases hlost : error = .unknownScript ∧ again = false
              · obtain ⟨rfl, rfl⟩ := hlost
                simpa [step, exchange, hphase, hstore, evaluated] using
                  Turn.scriptLost handle after hphase hstore
              · have hfinal : error = .unknownScript → again = true := by
                  simpa using hlost
                have hfail : limiter.evaluated call again (.error error) =
                    limiter.fail call error := by
                  cases error <;> simp_all [evaluated]
                simpa [step, exchange, hphase, hstore, hfail] using
                  Turn.notCounted handle again error after hphase hstore hfinal

theorem turn_of_step {store : CounterStore σ} {s after : σ} {limiter : SharedLimiter} {call : Call}
    {result : Step} (hstep : step store s limiter call = (result, after)) :
    Turn store s limiter call (exchange store s limiter call) result after := by
  have h := turn store s limiter call
  rwa [hstep] at h

-- In use and with its breaker closed, a limiter without a handle begins by loading.
theorem start_of_closed {limiter : SharedLimiter} (hlimit : 0 < limiter.settings.limit)
    (hbreaker : limiter.breaker = .closed) (hhandle : limiter.handle = none) (clock : Clock)
    (client : Client) :
    limiter.start clock client = .asking
      ⟨clock.monotonic, key limiter.settings clock.bucket client, .loading false⟩ := by
  simp [start, isEnabled, hlimit, hbreaker, hhandle, Breaker.isDegraded, Breaker.state,
    Breaker.closed]

theorem startedAt_of_start {limiter : SharedLimiter} {clock : Clock} {client : Client} {call : Call}
    (hstart : limiter.start clock client = .asking call) : call.startedAt = clock.monotonic := by
  simp only [start] at hstart
  split_ifs at hstart
  cases hstart
  rfl

section Turn

variable {store : CounterStore σ} {s after : σ} {limiter : SharedLimiter} {call : Call}
variable {exchange : Exchange} {turn : Step}

theorem Turn.settings (hturn : Turn store s limiter call exchange turn after) :
    turn.limiter.settings = limiter.settings := by
  cases hturn <;> rfl

theorem Turn.startedAt_of_asking {next : Call}
    (hturn : Turn store s limiter call exchange turn after)
    (hprogress : turn.progress = .asking next) : next.startedAt = call.startedAt := by
  cases hturn <;> cases hprogress <;> rfl

theorem Turn.key_of_asking {next : Call} (hturn : Turn store s limiter call exchange turn after)
    (hprogress : turn.progress = .asking next) : next.key = call.key := by
  cases hturn <;> cases hprogress <;> rfl

-- A turn touches the breaker only when it ends the call.
theorem Turn.breaker_of_asking {next : Call} (hturn : Turn store s limiter call exchange turn after)
    (hprogress : turn.progress = .asking next) : turn.limiter.breaker = limiter.breaker := by
  cases hturn with
  | loaded again handle after hphase hstore => rfl
  | scriptLost handle after hphase hstore => rfl
  | notLoaded again error after hphase hstore => cases hprogress
  | counted handle again count after hphase hstore => cases hprogress
  | notCounted handle again error after hphase hstore hfinal => cases hprogress

theorem Turn.breaker_of_answered {allowed : Bool}
    (hturn : Turn store s limiter call exchange turn after)
    (hprogress : turn.progress = .answered allowed) :
    turn.limiter.breaker =
      if exchange.failed then limiter.breaker.trip call.startedAt limiter.settings.cooldown
      else limiter.breaker.reset := by
  cases hturn with
  | loaded again handle after hphase hstore => cases hprogress
  | scriptLost handle after hphase hstore => cases hprogress
  | notLoaded again error after hphase hstore => rfl
  | counted handle again count after hphase hstore => rfl
  | notCounted handle again error after hphase hstore hfinal => rfl

end Turn

end SharedLimiter

end AdmissionControl.RateLimit
