import AdmissionControl.Proofs.Shared.Endings
import AdmissionControl.Proofs.Shared.Instances
import AdmissionControl.RateLimit.Limiter

namespace AdmissionControl.RateLimit

open Identity

-- The handle that a load has returned.
def Exchange.loadedHandle? : Exchange → Option String
  | .load _ (.ok handle) => some handle
  | _ => none

-- Only an evaluation counts, and not one for which the script was lost.
def Exchange.mayCount : Exchange → Bool
  | .evaluate _ _ _ (.error .unknownScript) => false
  | .evaluate .. => true
  | _ => false

-- A store that gives the answers of a record, one after the other.
def CounterStore.replaying : CounterStore (List Exchange) where
  load _
    | .load _ answer :: rest => (answer, rest)
    | rest => (.error .unknownScript, rest)
  evaluate _ _ _
    | .evaluate _ _ _ answer :: rest => (answer, rest)
    | rest => (.error .unknownScript, rest)
  ping
    | .ping answer :: rest => (answer, rest)
    | rest => (.error .unknownScript, rest)

namespace SharedLimiter

section Conversation

variable (key : String) (secondsKept : UInt64)

-- What is asked once the script is lost. The handle is the new one, and nothing comes after
-- the second evaluation, whatever it brings.
inductive Retried : List Exchange → Prop where
  | notLoaded (error : StoreError) : Retried [.load windowScript (.error error)]
  | loaded (handle : String) (answer : Except StoreError Int) :
      Retried [.load windowScript (.ok handle), .evaluate handle key secondsKept answer]

-- What is asked by a handle: the script is run once, and more follows only if it is lost.
inductive Evaluated (handle : String) : List Exchange → Prop where
  | settled (answer : Except StoreError Int) (hanswer : answer ≠ .error .unknownScript) :
      Evaluated handle [.evaluate handle key secondsKept answer]
  | lost (rest : List Exchange) (hrest : Retried key secondsKept rest) :
      Evaluated handle (.evaluate handle key secondsKept (.error .unknownScript) :: rest)

-- What one call asks of the store, and in which order, by the handle that the limiter has.
inductive Conversation : Option String → List Exchange → Prop where
  | cached (handle : String) (made : List Exchange)
      (hmade : Evaluated key secondsKept handle made) : Conversation (some handle) made
  | notLoaded (error : StoreError) : Conversation none [.load windowScript (.error error)]
  | loaded (handle : String) (rest : List Exchange)
      (hrest : Evaluated key secondsKept handle rest) :
      Conversation none (.load windowScript (.ok handle) :: rest)

variable {key secondsKept} {handle : String} {made : List Exchange}

theorem Retried.countP_mayCount_le (h : Retried key secondsKept made) :
    made.countP Exchange.mayCount ≤ 1 := by
  cases h with
  | notLoaded error => simp [Exchange.mayCount]
  | loaded handle answer =>
      rw [List.countP_cons_of_neg (by simp [Exchange.mayCount])]
      exact List.countP_le_length

theorem Evaluated.countP_mayCount_le (h : Evaluated key secondsKept handle made) :
    made.countP Exchange.mayCount ≤ 1 := by
  cases h with
  | settled answer hanswer => exact List.countP_le_length
  | lost rest hrest =>
      rw [List.countP_cons_of_neg (by simp [Exchange.mayCount])]
      exact hrest.countP_mayCount_le

theorem Conversation.countP_mayCount_le {cached : Option String}
    (h : Conversation key secondsKept cached made) : made.countP Exchange.mayCount ≤ 1 := by
  cases h with
  | cached handle made hmade => exact hmade.countP_mayCount_le
  | notLoaded error => exact List.countP_le_length
  | loaded handle rest hrest =>
      rw [List.countP_cons_of_neg (by simp [Exchange.mayCount])]
      exact hrest.countP_mayCount_le

end Conversation

-- How the last that comes back from the store ends a call: its answer, and the breaker that
-- it leaves.
inductive Settled (settings : SharedSettings) (startedAt : Span) : Exchange → Bool → Breaker → Prop
    where
  | counted (handle key : String) (secondsKept : UInt64) (count : Int) :
      Settled settings startedAt (.evaluate handle key secondsKept (.ok count))
        (decide (count ≤ settings.limit)) .closed
  | failed (last : Exchange) (hfailed : last.failed) :
      Settled settings startedAt last settings.failOpen
        ⟨Breaker.deadline startedAt settings.cooldown⟩

section Course

variable {σ : Type} {store : CounterStore σ} {s after : σ} {limiter : SharedLimiter} {call : Call}
variable {made : List Exchange} {result : Bool × SharedLimiter × σ × Journal}

theorem Turn.settled {exchange : Exchange} {turn : Step} {allowed : Bool}
    (hturn : Turn store s limiter call exchange turn after)
    (hprogress : turn.progress = .answered allowed) :
    Settled limiter.settings call.startedAt exchange allowed turn.limiter.breaker := by
  cases hturn with
  | loaded again handle after hphase hstore => cases hprogress
  | scriptLost handle after hphase hstore => cases hprogress
  | counted handle again count after hphase hstore =>
      cases hprogress
      exact .counted handle call.key limiter.settings.secondsKept count
  | notLoaded again error after hphase hstore =>
      cases hprogress
      exact .failed _ rfl
  | notCounted handle again error after hphase hstore hfinal =>
      cases hprogress
      exact .failed _ rfl

-- A turn keeps the handle unless it has loaded another.
theorem Turn.handle_eq {exchange : Exchange} {turn : Step}
    (hturn : Turn store s limiter call exchange turn after) :
    turn.limiter.handle = exchange.loadedHandle?.or limiter.handle := by
  cases hturn <;> rfl

theorem Course.of_evaluating_again (hcourse : Course store s limiter call made result)
    {handle : String} (hphase : call.phase = .evaluating handle true) :
    ∃ answer, made = [.evaluate handle call.key limiter.settings.secondsKept answer] := by
  cases hcourse with
  | last hturn =>
      cases hturn with
      | notLoaded again error after hother hstore => cases hphase.symm.trans hother
      | counted other again count after hother hstore =>
          cases hphase.symm.trans hother
          exact ⟨_, rfl⟩
      | notCounted other again error after hother hstore hfinal =>
          cases hphase.symm.trans hother
          exact ⟨_, rfl⟩
  | more hturn hrest =>
      cases hturn with
      | loaded again other after hother hstore => cases hphase.symm.trans hother
      | scriptLost other after hother hstore => cases hphase.symm.trans hother

theorem Course.retried (hcourse : Course store s limiter call made result)
    (hphase : call.phase = .loading true) :
    Retried call.key limiter.settings.secondsKept made := by
  cases hcourse with
  | last hturn =>
      cases hturn with
      | notLoaded again error after hother hstore => exact .notLoaded error
      | counted handle again count after hother hstore => cases hphase.symm.trans hother
      | notCounted handle again error after hother hstore hfinal => cases hphase.symm.trans hother
  | more hturn hrest =>
      cases hturn with
      | scriptLost handle after hother hstore => cases hphase.symm.trans hother
      | loaded again handle after hother hstore =>
          cases hphase.symm.trans hother
          obtain ⟨answer, rfl⟩ := hrest.of_evaluating_again rfl
          exact .loaded handle answer

theorem Course.evaluated (hcourse : Course store s limiter call made result) {handle : String}
    (hphase : call.phase = .evaluating handle false) :
    Evaluated call.key limiter.settings.secondsKept handle made := by
  cases hcourse with
  | last hturn =>
      cases hturn with
      | notLoaded again error after hother hstore => cases hphase.symm.trans hother
      | counted other again count after hother hstore =>
          cases hphase.symm.trans hother
          apply Evaluated.settled
          intro he
          cases he
      | notCounted other again error after hother hstore hfinal =>
          cases hphase.symm.trans hother
          apply Evaluated.settled
          intro he
          cases he
          cases hfinal rfl
  | more hturn hrest =>
      cases hturn with
      | loaded again other after hother hstore => cases hphase.symm.trans hother
      | scriptLost other after hother hstore =>
          cases hphase.symm.trans hother
          exact .lost _ (hrest.retried rfl)

theorem Course.of_first_loading (hcourse : Course store s limiter call made result)
    (hphase : call.phase = .loading false) :
    Conversation call.key limiter.settings.secondsKept none made := by
  cases hcourse with
  | last hturn =>
      cases hturn with
      | notLoaded again error after hother hstore => exact .notLoaded error
      | counted handle again count after hother hstore => cases hphase.symm.trans hother
      | notCounted handle again error after hother hstore hfinal => cases hphase.symm.trans hother
  | more hturn hrest =>
      cases hturn with
      | scriptLost handle after hother hstore => cases hphase.symm.trans hother
      | loaded again handle after hother hstore =>
          cases hphase.symm.trans hother
          exact .loaded handle _ (hrest.evaluated rfl)

-- The answer and the breaker come from the last exchange alone.
theorem Course.settled (hcourse : Course store s limiter call made result) :
    ∃ last ∈ made.getLast?,
      Settled limiter.settings call.startedAt last result.1 result.2.1.breaker := by
  induction hcourse with
  | last hturn => exact ⟨_, rfl, hturn.settled rfl⟩
  | more hturn hrest ih =>
      obtain ⟨last, hlast, hsettled⟩ := ih
      obtain ⟨first, others, rfl⟩ := List.exists_cons_of_ne_nil hrest.ne_nil
      rw [hturn.settings, hturn.startedAt_of_asking rfl] at hsettled
      exact ⟨last, by rwa [List.getLast?_cons_cons], hsettled⟩

theorem Course.handle_eq (hcourse : Course store s limiter call made result) :
    result.2.1.handle = (made.filterMap Exchange.loadedHandle?).getLast?.or limiter.handle := by
  induction hcourse with
  | last hturn =>
      rw [hturn.handle_eq, List.filterMap_cons]
      split <;> simp_all
  | @more _ _ limiter later _ _ exchange rest _ _ hturn hrest ih =>
      have hlater : later.handle = exchange.loadedHandle?.or limiter.handle := hturn.handle_eq
      rw [ih, hlater, List.filterMap_cons]
      cases exchange.loadedHandle? with
      | none => rfl
      | some handle =>
          rw [List.getLast?_cons]
          cases (rest.filterMap Exchange.loadedHandle?).getLast? <;> rfl

-- Before its last turn a call is not counted, and by that at most once.
theorem Course.kept_or_bumped (hcourse : Course store s limiter call made result)
    (counting : Counting store) (hs : counting.sound s) :
    counting.counters result.2.2.1 = counting.counters s ∨
    counting.counters result.2.2.1 = bumped (counting.counters s) call.key := by
  induction hcourse with
  | last hturn => exact Instances.kept_or_bumped hs hturn
  | more hturn hrest ih =>
      have hlater := ih (Instances.sound_turn hs hturn)
      have hkey := hturn.key_of_asking rfl
      rw [hkey] at hlater
      cases hturn with
      | loaded again handle after hphase hstore =>
          rwa [counting.counters_load hs hstore] at hlater
      | scriptLost handle after hphase hstore =>
          rwa [counting.counters_unknownScript hs hstore] at hlater

end Course

theorem start_of_normal {limiter : SharedLimiter} {clock : Clock}
    (hlimit : 0 < limiter.settings.limit)
    (hnormal : limiter.breaker.state clock.monotonic = .normal) (client : Client) :
    ∃ call, limiter.start clock client = .asking call ∧ call.startedAt = clock.monotonic ∧
      call.key = key limiter.settings clock.bucket client ∧
      call.phase = match limiter.handle with
        | some handle => .evaluating handle false
        | none => .loading false := by
  have hcalm : limiter.breaker.isDegraded clock.monotonic = false := by
    unfold Breaker.isDegraded
    rw [hnormal]
  refine ⟨⟨clock.monotonic, key limiter.settings clock.bucket client,
    match limiter.handle with
    | some handle => .evaluating handle false
    | none => .loading false⟩, ?_, rfl, rfl, rfl⟩
  simp only [start, isEnabled, hlimit, hcalm]
  rfl

theorem Course.conversation {σ : Type} {store : CounterStore σ} {s : σ} {limiter : SharedLimiter}
    {call : Call} {made : List Exchange} {result : Bool × SharedLimiter × σ × Journal}
    (hcourse : Course store s limiter call made result)
    (hphase : call.phase = match limiter.handle with
      | some handle => .evaluating handle false
      | none => .loading false) :
    Conversation call.key limiter.settings.secondsKept limiter.handle made := by
  cases hhandle : limiter.handle with
  | none =>
      rw [hhandle] at hphase
      exact hcourse.of_first_loading hphase
  | some handle =>
      rw [hhandle] at hphase
      exact .cached handle made (hcourse.evaluated hphase)

section Replay

variable {limiter : SharedLimiter} {startedAt : Span} {key handle : String}
variable {made log : List Exchange}

theorem finish_replaying_retried (h : Retried key limiter.settings.secondsKept made) :
    (finish CounterStore.replaying.recorded (made, log) limiter
      ⟨startedAt, key, .loading true⟩).2.2.1.2 = log ++ made := by
  cases h with
  | notLoaded error =>
      rw [finish_of_answered rfl]
      rfl
  | loaded handle answer =>
      cases answer with
      | ok count =>
          rw [finish_of_asking rfl, finish_of_answered rfl]
          exact List.append_assoc ..
      | error error =>
          cases error <;>
            · rw [finish_of_asking rfl, finish_of_answered rfl]
              exact List.append_assoc ..

theorem finish_replaying_evaluated
    (h : Evaluated key limiter.settings.secondsKept handle made) :
    (finish CounterStore.replaying.recorded (made, log) limiter
      ⟨startedAt, key, .evaluating handle false⟩).2.2.1.2 = log ++ made := by
  cases h with
  | lost rest hrest =>
      rw [finish_of_asking rfl]
      refine (finish_replaying_retried hrest).trans ?_
      exact List.append_assoc ..
  | settled answer hanswer =>
      cases answer with
      | ok count =>
          rw [finish_of_answered rfl]
          rfl
      | error error =>
          cases error with
          | unknownScript => exact absurd rfl hanswer
          | timeout limit =>
              rw [finish_of_answered rfl]
              rfl
          | backend text =>
              rw [finish_of_answered rfl]
              rfl

-- Every conversation comes about, whatever the store is to answer.
theorem exchanges_replaying {clock : Clock} {client : Client}
    (hlimit : 0 < limiter.settings.limit)
    (hnormal : limiter.breaker.state clock.monotonic = .normal)
    (h : Conversation (SharedLimiter.key limiter.settings clock.bucket client)
      limiter.settings.secondsKept limiter.handle made) :
    exchanges CounterStore.replaying made limiter clock client = made := by
  obtain ⟨⟨_, _, _⟩, hstart, rfl, rfl, rfl⟩ := start_of_normal hlimit hnormal client
  simp only [exchanges, allow, hstart]
  generalize hhandle : limiter.handle = cached at h ⊢
  cases h with
  | cached handle made hmade => exact finish_replaying_evaluated hmade
  | notLoaded error =>
      rw [finish_of_answered rfl]
      rfl
  | loaded handle rest hrest =>
      rw [finish_of_asking rfl]
      exact finish_replaying_evaluated hrest

end Replay

variable {limiter : SharedLimiter} {clock : Clock} {rate : RateLimitSettings}

-- A call in normal operation asks the store for a script only if there is no handle, runs it
-- by the handle that there is, and after it was found lost loads and runs it once more. All
-- evaluations are of one key and keep it for a second at least. The last exchange decides the
-- answer and the breaker, and the handle is the last that was loaded. So a call is counted at
-- most once by a store that does not count what it has lost the script for.
theorem conversation_exchanges
    (hsettings : limiter.settings = (Limiter.sharedOfSettings rate).settings)
    (hlimit : 0 < rate.budget) (hnormal : limiter.breaker.state clock.monotonic = .normal)
    {σ : Type} (store : CounterStore σ) (s : σ) (client : Client) :
    let made := exchanges store s limiter clock client
    let used := key limiter.settings clock.bucket client
    let result := limiter.allow store s clock client
    Conversation used (max rate.windowSeconds 1) limiter.handle made ∧
    (∃ last ∈ made.getLast?,
      Settled limiter.settings clock.monotonic last result.1 result.2.1.breaker) ∧
    result.2.1.handle = (made.filterMap Exchange.loadedHandle?).getLast?.or limiter.handle ∧
    made.countP Exchange.mayCount ≤ 1 ∧
    ∀ counting : Counting store, counting.sound s →
      counting.counters result.2.2.1 = counting.counters s ∨
      counting.counters result.2.2.1 = bumped (counting.counters s) used := by
  intro made used result
  have henabled : 0 < limiter.settings.limit := by
    rw [hsettings]
    exact hlimit
  have hseconds : limiter.settings.secondsKept = max rate.windowSeconds 1 := by
    rw [hsettings]
    rfl
  obtain ⟨call, hstart, hstarted, hkey, hphase⟩ := start_of_normal henabled hnormal client
  have hcourse : Course store s limiter call made result := course_of_asking store s hstart
  have hconversation := hcourse.conversation hphase
  have hsettled := hcourse.settled
  rw [hkey, hseconds] at hconversation
  rw [hstarted] at hsettled
  refine ⟨hconversation, hsettled, hcourse.handle_eq, hconversation.countP_mayCount_le, ?_⟩
  intro counting hs
  have hcounted := hcourse.kept_or_bumped counting hs
  rwa [hkey] at hcounted

-- The cached handle is stale, and the new one is found lost as well. That ends the call.
theorem conversation_exchanges_of_second_loss :
    let rate : RateLimitSettings := { requestsPerMinute := 5, windowSeconds := 0 }
    let limiter : SharedLimiter := ⟨(Limiter.sharedOfSettings rate).settings, some "old", ⟨7⟩⟩
    let s : ScriptedStore := { evaluateOutcomes := [.normal, .failure .unknownScript] }
    let loaded : ScriptedStore := { loads := 1 }
    let clock : Clock := ⟨60, 7⟩
    let made := exchanges ScriptedStore.store s limiter clock ⟨"203.0.113.5"⟩
    let used := key limiter.settings clock.bucket ⟨"203.0.113.5"⟩
    made = [.evaluate "old" used 1 (.error .unknownScript), .load windowScript (.ok loaded.handle),
      .evaluate loaded.handle used 1 (.error .unknownScript)] ∧
    Conversation used 1 (some "old") made ∧
    (limiter.allow ScriptedStore.store s clock ⟨"203.0.113.5"⟩).2.1.handle =
      some loaded.handle := by
  intro rate limiter s loaded clock made used
  have hlimit : 0 < rate.budget := by decide
  have hnormal : limiter.breaker.state clock.monotonic = .normal := by decide
  have hmade : made = [.evaluate "old" used 1 (.error .unknownScript),
      .load windowScript (.ok loaded.handle),
      .evaluate loaded.handle used 1 (.error .unknownScript)] := by
    have hstart : limiter.start clock ⟨"203.0.113.5"⟩ =
        .asking ⟨clock.monotonic, used, .evaluating "old" false⟩ := rfl
    simp only [made, exchanges, allow, hstart]
    rw [finish_of_asking rfl, finish_of_asking rfl, finish_of_answered rfl]
    rfl
  have hsettings : limiter.settings = (Limiter.sharedOfSettings rate).settings := rfl
  obtain ⟨hconversation, -, hhandle, -, -⟩ := conversation_exchanges hsettings hlimit hnormal
    ScriptedStore.store s ⟨"203.0.113.5"⟩
  refine ⟨hmade, hconversation, hhandle.trans ?_⟩
  rw [show exchanges ScriptedStore.store s limiter clock ⟨"203.0.113.5"⟩ = _ from hmade]
  rfl

end SharedLimiter

end AdmissionControl.RateLimit
