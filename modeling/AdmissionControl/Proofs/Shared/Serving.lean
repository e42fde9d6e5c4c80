import AdmissionControl.Proofs.Shared.Counting
import AdmissionControl.Proofs.Shared.Exchanges

namespace AdmissionControl.RateLimit

open Identity

-- A store without faults. In its sound states it loads the script, runs it by a handle
-- that it knows, and of any other it says that it does not know it. It can be pinged.
structure Serving {σ : Type} {store : CounterStore σ} (counting : Counting store) where
  known : σ → String → Prop
  load_ok {s : σ} (hs : counting.sound s) :
    ∃ handle after, store.load windowScript s = (.ok handle, after) ∧ known after handle
  evaluate_ok {s : σ} {handle : String} (hs : counting.sound s) (hknown : known s handle)
    (key : String) (secondsKept : UInt64) :
    ∃ count after, store.evaluate handle key secondsKept s = (.ok count, after)
  evaluate_unknown {s : σ} {handle : String} (hs : counting.sound s) (hunknown : ¬known s handle)
    (key : String) (secondsKept : UInt64) :
    ∃ after, store.evaluate handle key secondsKept s = (.error .unknownScript, after)
  ping_ok {s : σ} (hs : counting.sound s) :
    ∃ after, store.ping s = (.ok (), after) ∧ counting.sound after ∧
      counting.counters after = counting.counters s

-- Exchanges that count nothing: the script is loaded, or it is found lost.
inductive Prepared {σ : Type} (store : CounterStore σ) : σ → σ → Prop where
  | refl (s : σ) : Prepared store s s
  | loaded {s loaded after : σ} {script : String} {result : Except StoreError String}
      (hload : store.load script s = (result, loaded)) (hrest : Prepared store loaded after) :
      Prepared store s after
  | lost {s lost after : σ} {handle key : String} {secondsKept : UInt64}
      (hlost : store.evaluate handle key secondsKept s = (.error .unknownScript, lost))
      (hrest : Prepared store lost after) : Prepared store s after

section

variable {σ : Type} {store : CounterStore σ} {counting : Counting store} {s after : σ}

theorem Prepared.keeps (hprepared : Prepared store s after) (hs : counting.sound s) :
    counting.sound after ∧ counting.counters after = counting.counters s := by
  induction hprepared with
  | refl s => exact ⟨hs, rfl⟩
  | loaded hload hrest ih =>
      obtain ⟨hsound, hcounters⟩ := ih (counting.sound_load hs hload)
      exact ⟨hsound, hcounters.trans (counting.counters_load hs hload)⟩
  | lost hlost hrest ih =>
      obtain ⟨hsound, hcounters⟩ := ih (counting.sound_evaluate hs hlost)
      exact ⟨hsound, hcounters.trans (counting.counters_unknownScript hs hlost)⟩

namespace SharedLimiter

variable {limiter : SharedLimiter} {call : Call}

-- A call that has loaded the script again holds a handle that the store knows.
def Ready (serving : Serving counting) (s : σ) (call : Call) : Prop :=
  ∀ handle, call.phase = .evaluating handle true → serving.known s handle

-- All that can come of one call to a store without faults. The script is found lost
-- only before it has been loaded, so that nothing fails.
inductive Served (serving : Serving counting) (s : σ) (limiter : SharedLimiter) (call : Call) :
    Exchange → Step → σ → Prop where
  | loaded (again : Bool) (handle : String) (after : σ)
      (hphase : call.phase = .loading again)
      (hstore : store.load windowScript s = (.ok handle, after))
      (hknown : serving.known after handle) :
      Served serving s limiter call (.load windowScript (.ok handle))
        ⟨.asking { call with phase := .evaluating handle again },
          { limiter with handle := some handle }, []⟩ after
  | scriptLost (handle : String) (after : σ)
      (hphase : call.phase = .evaluating handle false)
      (hstore : store.evaluate handle call.key limiter.settings.secondsKept s =
        (.error .unknownScript, after)) :
      Served serving s limiter call
        (.evaluate handle call.key limiter.settings.secondsKept (.error .unknownScript))
        ⟨.asking { call with phase := .loading true }, limiter, [.event .scriptEvicted]⟩ after
  | counted (handle : String) (again : Bool) (count : Int) (after : σ)
      (hphase : call.phase = .evaluating handle again)
      (hstore : store.evaluate handle call.key limiter.settings.secondsKept s =
        (.ok count, after)) :
      Served serving s limiter call
        (.evaluate handle call.key limiter.settings.secondsKept (.ok count))
        (limiter.succeed count) after

theorem Turn.served {exchange : Exchange} {turn : Step}
    (hturn : Turn store s limiter call exchange turn after) (serving : Serving counting)
    (hs : counting.sound s) (hready : Ready serving s call) :
    Served serving s limiter call exchange turn after := by
  cases hturn with
  | loaded again handle after hphase hstore =>
      obtain ⟨other, next, hload, hknown⟩ := serving.load_ok hs
      rw [hstore] at hload
      cases hload
      exact .loaded again handle after hphase hstore hknown
  | notLoaded again error after hphase hstore =>
      obtain ⟨other, next, hload, -⟩ := serving.load_ok hs
      rw [hstore] at hload
      cases hload
  | counted handle again count after hphase hstore =>
      exact .counted handle again count after hphase hstore
  | scriptLost handle after hphase hstore => exact .scriptLost handle after hphase hstore
  | notCounted handle again error after hphase hstore hfinal =>
      by_cases hknown : serving.known s handle
      · obtain ⟨count, next, hok⟩ :=
          serving.evaluate_ok hs hknown call.key limiter.settings.secondsKept
        rw [hstore] at hok
        cases hok
      · obtain ⟨next, hunknown⟩ :=
          serving.evaluate_unknown hs hknown call.key limiter.settings.secondsKept
        rw [hstore] at hunknown
        cases hunknown
        exact absurd (hready handle (by rw [hphase, hfinal rfl])) hknown

-- A whole call is counted once, by its last exchange, and that count decides.
theorem Course.counted_once {made : List Exchange} {result : Bool × SharedLimiter × σ × Journal}
    (hcourse : Course store s limiter call made result) (serving : Serving counting)
    (hs : counting.sound s) (hready : Ready serving s call) :
    ∃ before handle count, Prepared store s before ∧
      store.evaluate handle call.key limiter.settings.secondsKept before =
        (.ok count, result.2.2.1) ∧
      result.1 = decide (count ≤ limiter.settings.limit) ∧ result.2.1.breaker = .closed := by
  induction hcourse with
  | last hturn =>
      cases hturn.served serving hs hready with
      | counted handle again count after hphase hstore =>
          exact ⟨_, handle, count, .refl _, hstore, rfl, rfl⟩
  | more hturn hrest ih =>
      cases hturn.served serving hs hready with
      | loaded again handle after hphase hstore hknown =>
          obtain ⟨before, last, count, hprepared, hcounted⟩ :=
            ih (counting.sound_load hs hstore) fun other he => by cases he; exact hknown
          exact ⟨before, last, count, .loaded hstore hprepared, hcounted⟩
      | scriptLost handle after hphase hstore =>
          obtain ⟨before, last, count, hprepared, hcounted⟩ :=
            ih (counting.sound_evaluate hs hstore) fun other he => by cases he
          exact ⟨before, last, count, .lost hstore hprepared, hcounted⟩

-- In use and not suspended, a limiter asks the store, by the handle it has or for one.
theorem start_of_calm (henabled : limiter.isEnabled = true) {clock : Clock}
    (hcalm : limiter.breaker.isDegraded clock.monotonic = false) (client : Client) :
    ∃ phase, limiter.start clock client =
        .asking ⟨clock.monotonic, key limiter.settings clock.bucket client, phase⟩ ∧
      ∀ handle, phase ≠ .evaluating handle true := by
  simp only [start, henabled, hcalm]
  cases limiter.handle <;> exact ⟨_, rfl, by simp⟩

theorem allow_counted_once (serving : Serving counting) (hs : counting.sound s)
    (henabled : limiter.isEnabled = true) (clock : Clock)
    (hcalm : limiter.breaker.isDegraded clock.monotonic = false) (client : Client) :
    let result := limiter.allow store s clock client
    result.2.1.settings = limiter.settings ∧ result.2.1.breaker = .closed ∧
    ∃ before handle count, Prepared store s before ∧
      store.evaluate handle (key limiter.settings clock.bucket client)
        limiter.settings.secondsKept before = (.ok count, result.2.2.1) ∧
      result.1 = decide (count ≤ limiter.settings.limit) := by
  obtain ⟨phase, hstart, hphase⟩ := start_of_calm henabled hcalm client
  have hcourse := course_of_asking store s hstart
  obtain ⟨before, handle, count, hprepared, hcounted, hallowed, hbreaker⟩ :=
    hcourse.counted_once serving hs fun handle he => absurd he (hphase handle)
  exact ⟨hcourse.settings, hbreaker, before, handle, count, hprepared, hcounted, hallowed⟩

-- So the store stays sound, and the counter of the key has grown by one.
theorem allow_of_serving (serving : Serving counting) (hs : counting.sound s)
    (henabled : limiter.isEnabled = true) (clock : Clock)
    (hcalm : limiter.breaker.isDegraded clock.monotonic = false) (client : Client) :
    let result := limiter.allow store s clock client
    let used := key limiter.settings clock.bucket client
    result.1 = decide (counting.counters s used + 1 ≤ limiter.settings.limit) ∧
    result.2.1.settings = limiter.settings ∧ result.2.1.breaker = .closed ∧
    counting.sound result.2.2.1 ∧
    counting.counters result.2.2.1 = bumped (counting.counters s) used := by
  intro result used
  obtain ⟨hsettings, hbreaker, before, handle, count, hprepared, hcounted, hallowed⟩ :=
    allow_counted_once serving hs henabled clock hcalm client
  obtain ⟨hbefore, hcounters⟩ := hprepared.keeps hs
  obtain ⟨hcount, hbumped⟩ := counting.counters_ok hbefore hcounted
  rw [hcounters] at hcount hbumped
  have hroom : count ≤ limiter.settings.limit ↔
      counting.counters s used + 1 ≤ limiter.settings.limit := by
    simp only [hcount, used]
    omega
  exact ⟨hallowed.trans (decide_eq_decide.mpr hroom), hsettings, hbreaker,
    counting.sound_evaluate hbefore hcounted, hbumped⟩

end SharedLimiter

end

namespace ScriptedStore

-- A scripted store that is told nothing but to forget its script.
structure Faultless (s : ScriptedStore) : Prop extends s.Sound where
  up : s.down = false
  loadsNormally : s.loadOutcomes = []
  evaluatesNormally : s.evaluateOutcomes = []
  pingsNormally : s.pingOutcomes = []

theorem load_of_faultless {s : ScriptedStore} (hs : s.Faultless) (script : String) :
    s.load script =
      (.ok (handle { s with loads := s.loads + 1 }),
        { s with
          calls := s.calls ++ [.load script]
          loads := s.loads + 1
          evicted := false }) := by
  simp [load, record, handle, hs.up, hs.loadsNormally]

theorem request_of_faultless {s : ScriptedStore} (hs : s.Faultless) (handle key : String)
    (secondsKept : UInt64) :
    s.request handle key secondsKept =
      (if s.evicted ∨ handle ≠ s.handle then some (.error .unknownScript) else none,
        s.record (.evaluate handle key secondsKept)) := by
  obtain ⟨tallies, loads, evicted, down, toLoad, toEvaluate, toPing, calls⟩ := s
  obtain ⟨-, rfl, -, rfl, -⟩ := hs
  have hhandle : ScriptedStore.handle ⟨tallies, loads, evicted, false, toLoad, [], toPing,
      calls ++ [.evaluate handle key secondsKept]⟩ =
      ScriptedStore.handle ⟨tallies, loads, evicted, false, toLoad, [], toPing, calls⟩ := rfl
  by_cases hlost : evicted ∨ handle ≠
      ScriptedStore.handle ⟨tallies, loads, evicted, false, toLoad, [], toPing, calls⟩
  · simp [request, record, hhandle, if_pos hlost]
  · simp [request, record, hhandle, if_neg hlost]

-- A handle is good from the load that made it until the script is lost or loaded again.
def Knows (s : ScriptedStore) (handle : String) : Prop := s.evicted = false ∧ handle = s.handle

theorem evaluate_of_knows {s : ScriptedStore} (hs : s.Faultless) {handle : String}
    (hknows : s.Knows handle) (key : String) (secondsKept : UInt64) :
    s.evaluate handle key secondsKept =
      let counted := (s.record (.evaluate handle key secondsKept)).increment key secondsKept
      (.ok counted.1, counted.2) := by
  simp [evaluate, request_of_faultless hs, hknows.1, hknows.2]

theorem evaluate_of_not_knows {s : ScriptedStore} (hs : s.Faultless) {handle : String}
    (hlost : ¬s.Knows handle) (key : String) (secondsKept : UInt64) :
    s.evaluate handle key secondsKept =
      (.error .unknownScript, s.record (.evaluate handle key secondsKept)) := by
  have hcond : s.evicted = true ∨ handle ≠ s.handle := by
    simpa only [Knows, not_and_or, Bool.not_eq_false] using hlost
  simp [evaluate, request_of_faultless hs, if_pos hcond]

theorem Faultless.record {s : ScriptedStore} (hs : s.Faultless) (call : StoreCall) :
    (s.record call).Faultless :=
  ⟨⟨hs.counted, hs.nonneg⟩, hs.up, hs.loadsNormally, hs.evaluatesNormally, hs.pingsNormally⟩

theorem Faultless.increment {s : ScriptedStore} (hs : s.Faultless) (key : String)
    (secondsKept : UInt64) : (s.increment key secondsKept).2.Faultless :=
  ⟨(increment_spec hs.toSound key secondsKept).2.2, hs.up, hs.loadsNormally,
    hs.evaluatesNormally, hs.pingsNormally⟩

theorem Faultless.load {s : ScriptedStore} (hs : s.Faultless) (script : String) :
    (s.load script).2.Faultless := by
  rw [load_of_faultless hs]
  exact ⟨⟨hs.counted, hs.nonneg⟩, hs.up, hs.loadsNormally, hs.evaluatesNormally, hs.pingsNormally⟩

theorem Faultless.evaluate {s : ScriptedStore} (hs : s.Faultless) (handle key : String)
    (secondsKept : UInt64) : (s.evaluate handle key secondsKept).2.Faultless := by
  by_cases hknows : s.Knows handle
  · rw [evaluate_of_knows hs hknows]
    exact (hs.record _).increment key secondsKept
  · rw [evaluate_of_not_knows hs hknows]
    exact hs.record _

def faultless : Counting store where
  sound := Faultless
  counters := counters
  sound_load {s after script result} hs h := by
    have hload := hs.load script
    rwa [show s.load script = (result, after) from h] at hload
  counters_load hs h := counting.counters_load hs.toSound h
  sound_evaluate {s after handle key secondsKept result} hs h := by
    have hevaluate := hs.evaluate handle key secondsKept
    rwa [show s.evaluate handle key secondsKept = (result, after) from h] at hevaluate
  counters_ok hs h := counting.counters_ok hs.toSound h
  counters_unknownScript hs h := counting.counters_unknownScript hs.toSound h
  counters_error hs h := counting.counters_error hs.toSound h

def serving : Serving faultless where
  known := Knows
  load_ok hs := ⟨_, _, load_of_faultless hs windowScript, rfl, rfl⟩
  evaluate_ok hs hknows key secondsKept := ⟨_, _, evaluate_of_knows hs hknows key secondsKept⟩
  evaluate_unknown hs hlost key secondsKept := ⟨_, evaluate_of_not_knows hs hlost key secondsKept⟩
  ping_ok {s} hs := ⟨s.record .ping, by simp [store, ping, record, hs.up, hs.pingsNormally],
    hs.record .ping, counters_congr rfl⟩

theorem evict_harmless {s : ScriptedStore} (hs : s.Faultless) :
    s.evict.Faultless ∧ s.evict.counters = s.counters :=
  ⟨⟨⟨hs.counted, hs.nonneg⟩, hs.up, hs.loadsNormally, hs.evaluatesNormally, hs.pingsNormally⟩,
    counters_congr rfl⟩

end ScriptedStore

end AdmissionControl.RateLimit
