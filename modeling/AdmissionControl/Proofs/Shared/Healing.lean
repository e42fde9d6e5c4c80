import AdmissionControl.Proofs.Shared.Cooldown
import AdmissionControl.Proofs.Shared.Instances
import AdmissionControl.Proofs.Shared.Serving

namespace AdmissionControl.RateLimit

open Identity

-- A handle by which a key has been counted stays good.
structure Steady {σ : Type} {store : CounterStore σ} {counting : Counting store}
    (serving : Serving counting) : Prop where
  known_counted {s after : σ} {handle key : String} {secondsKept : UInt64} {count : Int}
    (hs : counting.sound s) (hknown : serving.known s handle)
    (h : store.evaluate handle key secondsKept s = (.ok count, after)) :
    serving.known after handle

theorem ScriptedStore.steady : Steady ScriptedStore.serving where
  known_counted {s after handle key secondsKept count} hs hknown h := by
    have hevaluate := evaluate_of_knows hs hknown key secondsKept
    rw [show s.evaluate handle key secondsKept = (.ok count, after) from h] at hevaluate
    rw [show after = _ from congrArg Prod.snd hevaluate]
    exact hknown

namespace SharedLimiter

variable {σ : Type} {store : CounterStore σ} {counting : Counting store}
variable {serving : Serving counting} {s : σ} {limiter : SharedLimiter} {call : Call}
variable {made : List Exchange} {result : Bool × SharedLimiter × σ × Journal}
variable {settings : SharedSettings} {handle key : String}

-- The exchange by which a sound store counts a key.
def countedBy (counting : Counting store) (s : σ) (settings : SharedSettings)
    (handle key : String) : Exchange :=
  .evaluate handle key settings.secondsKept (.ok (counting.counters s key + 1))

-- What a call comes to that is counted once, by a handle that stays good.
structure CountedBy (serving : Serving counting) (s : σ) (settings : SharedSettings)
    (handle key : String) (allowed : Bool) (later : SharedLimiter) (after : σ) : Prop where
  answer : allowed = decide (counting.counters s key + 1 ≤ settings.limit)
  limiter : later = ⟨settings, some handle, .closed⟩
  sound : counting.sound after
  counters : counting.counters after = bumped (counting.counters s) key
  known : serving.known after handle

theorem CountedBy.of_counters_eq {before after : σ} {allowed : Bool} {later : SharedLimiter}
    (h : CountedBy serving before settings handle key allowed later after)
    (hcounters : counting.counters before = counting.counters s) :
    CountedBy serving s settings handle key allowed later after :=
  ⟨hcounters ▸ h.answer, h.limiter, h.sound, hcounters ▸ h.counters, h.known⟩

-- No call takes a store out of its sound states, whatever fails in it.
theorem Course.sound (hcourse : Course store s limiter call made result)
    (counting : Counting store) (hs : counting.sound s) : counting.sound result.2.2.1 := by
  induction hcourse with
  | last hturn => exact Instances.sound_turn hs hturn
  | more hturn hrest ih => exact ih (Instances.sound_turn hs hturn)

-- A handle that the store knows takes one exchange.
theorem Course.of_known (hcourse : Course store s limiter call made result)
    (steady : Steady serving) (hs : counting.sound s) {again : Bool}
    (hphase : call.phase = .evaluating handle again) (hhandle : limiter.handle = some handle)
    (hknown : serving.known s handle) :
    made = [countedBy counting s limiter.settings handle call.key] ∧
    CountedBy serving s limiter.settings handle call.key result.1 result.2.1 result.2.2.1 := by
  have hready : Ready serving s call := fun other he => by
    cases hphase.symm.trans he
    exact hknown
  obtain ⟨count, next, hstore⟩ :=
    serving.evaluate_ok hs hknown call.key limiter.settings.secondsKept
  cases hcourse with
  | last hturn =>
      cases hturn.served serving hs hready with
      | counted other _ _ after hother hcounted =>
          cases hphase.symm.trans hother
          obtain ⟨rfl, hcounters⟩ := counting.counters_ok hs hcounted
          refine ⟨rfl, ?_, ?_, counting.sound_evaluate hs hcounted, hcounters,
            steady.known_counted hs hknown hcounted⟩
          · exact decide_eq_decide.mpr (by omega)
          · rw [← hhandle]
            rfl
  | more hturn hrest =>
      cases hturn.served serving hs hready with
      | loaded _ other after hother hload _ => cases hphase.symm.trans hother
      | scriptLost other after hother hlost =>
          cases hphase.symm.trans hother
          rw [hstore] at hlost
          cases hlost

-- Without a handle there is a load before it, which counts nothing.
theorem Course.of_loading (hcourse : Course store s limiter call made result)
    (steady : Steady serving) (hs : counting.sound s) {again : Bool}
    (hphase : call.phase = .loading again) :
    ∃ handle, made = [.load windowScript (.ok handle),
        countedBy counting s limiter.settings handle call.key] ∧
      CountedBy serving s limiter.settings handle call.key result.1 result.2.1 result.2.2.1 := by
  have hready : Ready serving s call := fun other he => by cases hphase.symm.trans he
  cases hcourse with
  | last hturn =>
      cases hturn.served serving hs hready with
      | counted _ _ _ after hother _ => cases hphase.symm.trans hother
  | more hturn hrest =>
      cases hturn.served serving hs hready with
      | loaded _ handle after hother hload hknown =>
          obtain ⟨rfl, h⟩ := hrest.of_known steady (counting.sound_load hs hload) rfl rfl hknown
          have hcounters := counting.counters_load hs hload
          exact ⟨handle, by simp only [countedBy, hcounters], h.of_counters_eq hcounters⟩
      | scriptLost _ after hother _ => cases hphase.symm.trans hother

-- With a handle that the store does not know, its saying so comes before that.
theorem Course.of_unknown (hcourse : Course store s limiter call made result)
    (steady : Steady serving) (hs : counting.sound s) {stale : String}
    (hphase : call.phase = .evaluating stale false) (hstale : ¬serving.known s stale) :
    ∃ handle, made = [
        .evaluate stale call.key limiter.settings.secondsKept (.error .unknownScript),
        .load windowScript (.ok handle), countedBy counting s limiter.settings handle call.key] ∧
      CountedBy serving s limiter.settings handle call.key result.1 result.2.1 result.2.2.1 := by
  have hready : Ready serving s call := fun other he => by cases hphase.symm.trans he
  obtain ⟨next, hstore⟩ :=
    serving.evaluate_unknown hs hstale call.key limiter.settings.secondsKept
  cases hcourse with
  | last hturn =>
      cases hturn.served serving hs hready with
      | counted _ _ _ after hother hcounted =>
          cases hphase.symm.trans hother
          rw [hstore] at hcounted
          cases hcounted
  | more hturn hrest =>
      cases hturn.served serving hs hready with
      | loaded _ _ after hother hload _ => cases hphase.symm.trans hother
      | scriptLost _ after hother hunknown =>
          cases hphase.symm.trans hother
          obtain ⟨handle, rfl, h⟩ :=
            hrest.of_loading steady (counting.sound_evaluate hs hunknown) rfl
          have hcounters := counting.counters_unknownScript hs hunknown
          exact ⟨handle, by simp only [countedBy, hcounters], h.of_counters_eq hcounters⟩

end SharedLimiter

namespace Moment

variable {σ : Type} {store : CounterStore σ} {counting : Counting store}
variable {serving : Serving counting} {m : Moment σ} {settings : SharedSettings}

-- The key that a client is counted under now.
def used (m : Moment σ) (client : Client) : String :=
  SharedLimiter.key m.limiter.settings m.clock.bucket client

-- A limiter with its breaker closed and a handle that its store knows.
structure Mended (serving : Serving counting) (settings : SharedSettings) (m : Moment σ) :
    Prop where
  limiter : ∃ handle, m.limiter = ⟨settings, some handle, .closed⟩ ∧ serving.known m.store handle
  sound : counting.sound m.store

-- Whatever else is done to the store, it does not fail and keeps the scripts that it knows.
def Kept (serving : Serving counting) : Moment σ → List (Change σ) → Prop
  | _, [] => True
  | m, change :: rest =>
    (∀ after, change = .storeChanged after →
      counting.sound after ∧ ∀ handle, serving.known m.store handle → serving.known after handle) ∧
    Kept serving (m.step store change) rest

theorem start_of_calm (hlimit : 0 < m.limiter.settings.limit)
    (hcalm : m.limiter.breaker.isDegraded m.clock.monotonic = false) (client : Client) :
    m.limiter.start m.clock client = .asking ⟨m.clock.monotonic, m.used client,
      match m.limiter.handle with
      | some handle => .evaluating handle false
      | none => .loading false⟩ := by
  simp only [SharedLimiter.start, SharedLimiter.isEnabled, hlimit, hcalm, used]
  rfl

theorem sound_step (counting : Counting store) (hs : counting.sound m.store) (change : Change σ)
    (hchanged : ∀ after, change = .storeChanged after → counting.sound after) :
    counting.sound (m.step store change).store := by
  cases change with
  | called client =>
      simp only [step]
      cases hstart : m.limiter.start m.clock client with
      | answered allowed => simpa only [SharedLimiter.allow, hstart] using hs
      | asking call => exact (SharedLimiter.course_of_asking store m.store hstart).sound counting hs
  | clockMoved clock => exact hs
  | storeChanged after => exact hchanged after rfl

-- So a store that is sound at first is sound after any history of calls and changes,
-- unless one of the changes makes it another.
theorem sound_run (counting : Counting store) (hs : counting.sound m.store)
    {changes : List (Change σ)}
    (hchanged : ∀ after, .storeChanged after ∈ changes → counting.sound after) :
    counting.sound (m.run store changes).store := by
  induction changes generalizing m with
  | nil => exact hs
  | cons change rest ih =>
      exact ih (sound_step counting hs change fun after he => hchanged after (by simp [he]))
        fun after hmem => hchanged after (List.mem_cons_of_mem _ hmem)

-- What a client's call comes to at this moment.
def CountedBy (serving : Serving counting) (m : Moment σ) (client : Client) (handle : String) :
    Prop :=
  SharedLimiter.CountedBy serving m.store m.limiter.settings handle (m.used client)
    (m.answer store client) (m.step store (.called client)).limiter
    (m.step store (.called client)).store

theorem called_of_known (steady : Steady serving) (hs : counting.sound m.store)
    (hlimit : 0 < m.limiter.settings.limit)
    (hcalm : m.limiter.breaker.isDegraded m.clock.monotonic = false) {handle : String}
    (hhandle : m.limiter.handle = some handle) (hknown : serving.known m.store handle)
    (client : Client) :
    m.exchanges store client =
        [SharedLimiter.countedBy counting m.store m.limiter.settings handle (m.used client)] ∧
      m.CountedBy serving client handle := by
  have hstart := start_of_calm hlimit hcalm client
  rw [hhandle] at hstart
  exact (SharedLimiter.course_of_asking store m.store hstart).of_known steady hs rfl hhandle hknown

-- Whatever handle it has, a limiter comes to one that the store knows.
theorem called_of_sound (steady : Steady serving) (hs : counting.sound m.store)
    (hlimit : 0 < m.limiter.settings.limit)
    (hcalm : m.limiter.breaker.isDegraded m.clock.monotonic = false) (client : Client) :
    ∃ handle lead,
      m.exchanges store client = lead ++
        [SharedLimiter.countedBy counting m.store m.limiter.settings handle (m.used client)] ∧
      (lead = [] ∨ lead = [.load windowScript (.ok handle)] ∨ ∃ stale, lead = [
        .evaluate stale (m.used client) m.limiter.settings.secondsKept (.error .unknownScript),
        .load windowScript (.ok handle)]) ∧
      m.CountedBy serving client handle := by
  have hstart := start_of_calm hlimit hcalm client
  cases hhandle : m.limiter.handle with
  | none =>
      rw [hhandle] at hstart
      obtain ⟨handle, hmade, h⟩ :=
        (SharedLimiter.course_of_asking store m.store hstart).of_loading steady hs rfl
      exact ⟨handle, [_], hmade, Or.inr (Or.inl rfl), h⟩
  | some held =>
      by_cases hknown : serving.known m.store held
      · obtain ⟨hmade, h⟩ := called_of_known steady hs hlimit hcalm hhandle hknown client
        exact ⟨held, [], hmade, Or.inl rfl, h⟩
      · rw [hhandle] at hstart
        obtain ⟨handle, hmade, h⟩ :=
          (SharedLimiter.course_of_asking store m.store hstart).of_unknown steady hs rfl hknown
        exact ⟨handle, [_, _], hmade, Or.inr (Or.inr ⟨held, rfl⟩), h⟩

theorem mended_of_countedBy {client : Client} {handle : String}
    (h : m.CountedBy serving client handle) :
    Mended serving m.limiter.settings (m.step store (.called client)) :=
  ⟨⟨handle, h.limiter, h.known⟩, h.sound⟩

theorem Mended.called (h : Mended serving settings m) (steady : Steady serving)
    (hlimit : 0 < settings.limit) (client : Client) :
    ∃ handle, m.exchanges store client =
        [SharedLimiter.countedBy counting m.store settings handle (m.used client)] ∧
      m.CountedBy serving client handle := by
  obtain ⟨handle, hlimiter, hknown⟩ := h.limiter
  have hcalm : m.limiter.breaker.isDegraded m.clock.monotonic = false := by
    rw [hlimiter]
    rfl
  obtain ⟨hmade, hcounted⟩ := called_of_known steady h.sound (by rwa [hlimiter]) hcalm
    (by rw [hlimiter]) hknown client
  rw [hlimiter] at hmade
  exact ⟨handle, hmade, hcounted⟩

theorem Mended.step (h : Mended serving settings m) (steady : Steady serving)
    (hlimit : 0 < settings.limit) (change : Change σ)
    (hkept : ∀ after, change = .storeChanged after → counting.sound after ∧
      ∀ handle, serving.known m.store handle → serving.known after handle) :
    Mended serving settings (m.step store change) := by
  cases change with
  | called client =>
      obtain ⟨handle, -, hcounted⟩ := h.called steady hlimit client
      obtain ⟨_, hlimiter, -⟩ := h.limiter
      have hmended := mended_of_countedBy hcounted
      rwa [hlimiter] at hmended
  | clockMoved clock => exact ⟨h.limiter, h.sound⟩
  | storeChanged after =>
      obtain ⟨hsound, hknown⟩ := hkept after rfl
      obtain ⟨handle, hlimiter, hheld⟩ := h.limiter
      exact ⟨⟨handle, hlimiter, hknown handle hheld⟩, hsound⟩

theorem Mended.run (h : Mended serving settings m) (steady : Steady serving)
    (hlimit : 0 < settings.limit) {changes : List (Change σ)} (hkept : Kept serving m changes) :
    Mended serving settings (m.run store changes) := by
  induction changes generalizing m with
  | nil => exact h
  | cons change rest ih => exact ih (h.step steady hlimit change hkept.1) hkept.2

-- Whatever has gone before, a limiter is well again with the first call after its cooldown
-- once its store is. The call may find the script lost and load it, but it is counted once
-- and decided by that count, it closes the breaker and leaves a handle that the store
-- knows. From then on each call is a single exchange.
theorem heals_with_next_call (steady : Steady serving) (m : Moment σ) (client : Client)
    (hlimit : 0 < m.limiter.settings.limit) (hsound : counting.sound m.store)
    (hpassed : m.limiter.breaker.untilNanos.toNat ≤ m.now) :
    let settings := m.limiter.settings
    let count := counting.counters m.store (m.used client) + 1
    let healed := m.step store (.called client)
    ∃ handle lead,
      m.exchanges store client = lead ++
        [.evaluate handle (m.used client) settings.secondsKept (.ok count)] ∧
      (lead = [] ∨ lead = [.load windowScript (.ok handle)] ∨ ∃ stale, lead = [
        .evaluate stale (m.used client) settings.secondsKept (.error .unknownScript),
        .load windowScript (.ok handle)]) ∧
      m.answer store client = decide (count ≤ settings.limit) ∧
      counting.counters healed.store = bumped (counting.counters m.store) (m.used client) ∧
      healed.limiter = ⟨settings, some handle, .closed⟩ ∧
      (∀ now, healed.limiter.breaker.state now = .normal) ∧
      serving.known healed.store handle ∧
      ∀ changes, Kept serving healed changes → ∀ other,
        let later := healed.run store changes
        let count := counting.counters later.store (later.used other) + 1
        ∃ handle, later.exchanges store other =
            [.evaluate handle (later.used other) settings.secondsKept (.ok count)] ∧
          later.answer store other = decide (count ≤ settings.limit) := by
  intro settings count healed
  have hcalm : m.limiter.breaker.isDegraded m.clock.monotonic = false := by
    rw [← Bool.not_eq_true, Breaker.isDegraded_iff]
    have hbound := m.limiter.breaker.untilNanos.toNat_lt
    simp only [now, Breaker.horizon, UInt64.size] at hpassed ⊢
    omega
  obtain ⟨handle, lead, hmade, hlead, hcounted⟩ :=
    called_of_sound steady hsound hlimit hcalm client
  refine ⟨handle, lead, hmade, hlead, hcounted.answer, hcounted.counters, hcounted.limiter,
    fun now => ?_, hcounted.known, fun changes hkept other => ?_⟩
  · rw [show healed.limiter = _ from hcounted.limiter]
    rfl
  · intro later count
    have hmended := (mended_of_countedBy hcounted).run steady hlimit hkept
    obtain ⟨_, hlimiter, -⟩ := hmended.limiter
    obtain ⟨handle, hmade, hlater⟩ := hmended.called steady hlimit other
    have hanswer := hlater.answer
    rw [hlimiter] at hanswer
    exact ⟨handle, hmade, hanswer⟩

-- The store loses the script twice in one call, which trips the breaker and leaves a
-- handle, and then a third time. At the end of the cooldown the next call finds that
-- out, loads the script and is counted, and one in the next minute takes one exchange.
theorem heals_with_next_call_of_second_loss :
    let fresh : Moment ScriptedStore := ⟨.fresh ⟨5, "budget", 120, .ofSeconds 30, true⟩,
      { evaluateOutcomes := [.failure .unknownScript, .failure .unknownScript] }, .startingAt 60⟩
    let lost := fresh.run ScriptedStore.store [.called ⟨"203.0.113.5"⟩]
    let m := lost.run ScriptedStore.store
      [.storeChanged lost.store.evict, .clockMoved ⟨60, 30000000000⟩]
    let healed := m.step ScriptedStore.store (.called ⟨"203.0.113.5"⟩)
    let later := healed.run ScriptedStore.store [.clockMoved ⟨120, 30000000000⟩]
    lost.limiter = ⟨fresh.limiter.settings, some lost.store.handle, ⟨30000000000⟩⟩ ∧
    m.answer ScriptedStore.store ⟨"203.0.113.5"⟩ = true ∧
    (m.exchanges ScriptedStore.store ⟨"203.0.113.5"⟩).length ≤ 3 ∧
    healed.limiter = ⟨fresh.limiter.settings, some healed.store.handle, .closed⟩ ∧
    (later.exchanges ScriptedStore.store ⟨"203.0.113.5"⟩).length = 1 := by
  intro fresh lost m healed later
  have hstart : fresh.limiter.start fresh.clock ⟨"203.0.113.5"⟩ = .asking
      ⟨fresh.clock.monotonic,
        SharedLimiter.key fresh.limiter.settings fresh.clock.bucket ⟨"203.0.113.5"⟩,
        .loading false⟩ := rfl
  have hlost : lost.limiter = ⟨fresh.limiter.settings, some lost.store.handle,
        Breaker.closed.trip fresh.clock.monotonic fresh.limiter.settings.cooldown⟩ ∧
      lost.store.down = false ∧ lost.store.loadOutcomes = [] ∧
      lost.store.evaluateOutcomes = [] ∧ lost.store.pingOutcomes = [] ∧
      lost.store.tallies = ∅ := by
    simp only [lost, run, List.foldl_cons, List.foldl_nil, step, SharedLimiter.allow, hstart]
    rw [SharedLimiter.finish_of_asking rfl, SharedLimiter.finish_of_asking rfl,
      SharedLimiter.finish_of_asking rfl, SharedLimiter.finish_of_answered rfl]
    exact ⟨rfl, rfl, rfl, rfl, rfl, rfl⟩
  obtain ⟨hlimiter, hup, hloads, hevaluates, hpings, htallies⟩ := hlost
  rw [show Breaker.closed.trip fresh.clock.monotonic fresh.limiter.settings.cooldown =
    ⟨30000000000⟩ by decide] at hlimiter
  have hsound : m.store.Faultless :=
    have hlost : lost.store.Sound :=
      sound_run ScriptedStore.counting ⟨by simp [fresh], by simp [fresh]⟩ (by simp)
    ⟨⟨hlost.counted, hlost.nonneg⟩, hup, hloads, hevaluates, hpings⟩
  have hheld : m.limiter = lost.limiter := rfl
  obtain ⟨handle, lead, hmade, hlead, hanswer, -, hhealed, -, hknown, hruns⟩ :=
    heals_with_next_call ScriptedStore.steady m ⟨"203.0.113.5"⟩
      (by rw [hheld, hlimiter]; decide) hsound (by rw [hheld, hlimiter]; decide)
  have hkept : Kept ScriptedStore.serving healed [.clockMoved ⟨120, 30000000000⟩] :=
    ⟨fun after he => (by cases he), trivial⟩
  obtain ⟨_, hlater, -⟩ := hruns _ hkept ⟨"203.0.113.5"⟩
  have hcount : ∀ key, ScriptedStore.faultless.counters m.store key = 0 := fun key => by
    simp [ScriptedStore.faultless, ScriptedStore.counters,
      show m.store.tallies = ∅ from htallies]
  refine ⟨hlimiter, ?_, ?_, ?_, by rw [hlater]; rfl⟩
  · rw [hanswer, hcount, hheld, hlimiter]
    decide
  · rw [hmade, List.length_append]
    obtain rfl | rfl | ⟨stale, rfl⟩ := hlead <;> simp
  · rw [show healed.limiter = _ from hhealed, hknown.2, hheld, hlimiter]

end Moment

end AdmissionControl.RateLimit
